import BundleAudit.CommandLine.Help
import BundleAudit.Console.Rendering
import BundleAudit.Discovery
import BundleAudit.Profile.Loading
import BundleAudit.Registry
import BundleAudit.Report.Document
import BundleAudit.Report.Text
import BundleAudit.Settings
import BundleAudit.Text.Word

/-!
# The program

The program has two commands: one checks the bundles of a directory, the other lists the rules. A run is
a function of the arguments, the environment, the files, the time and the renderer of marked up texts. It
writes to two streams, and ends with an exit code or with an error that no message has been given for.
-/

namespace BundleAudit.CommandLine

open BundleAudit.Console BundleAudit.FileSystem BundleAudit.Text

/-- What a run depends on besides its arguments. The time is in seconds from the start of 1970. -/
structure Surroundings where
  environment : Environment
  files : Tree
  time : Float := 0.0
  /-- What the console makes of marked up texts. -/
  renderer : Renderer := .reference

/-- An error that ends a run without a message of its own. -/
inductive Failure
  | profile (e : ProfileError)
  | expression (e : Regex.ReadError)
  | markup (e : MarkupError)
  | file (e : FileError)
  | time (e : Time.StampError)
  /-- A profile without a name cannot be announced. -/
  | noProfileName

inductive Stop
  | exit (code : Nat)
  | failure (f : Failure)

/-- What has been written so far. -/
structure Output where
  stdout : String := ""
  stderr : String := ""

abbrev Program := ExceptT Stop (StateM Output)

namespace Program

/-- The cells of a line on the console. -/
def consoleWidth : Nat := 100

def stop {α : Type} (s : Stop) : Program α := throw s

def writeOut (s : String) : Program Unit := modify fun o => { o with stdout := o.stdout ++ s }

def writeError (s : String) : Program Unit := modify fun o => { o with stderr := o.stderr ++ s }

def orFail {α ε : Type} (failure : ε → Failure) (x : Except ε α) : Program α :=
  match x with
  | .ok a => return a
  | .error e => stop (.failure (failure e))

/-- Writes blocks to the console. -/
def print (blocks : List Report.Block) : Program Unit :=
  writeError (String.ofList (Report.drawBlocks consoleWidth blocks))

/-- Writes a marked up text to the console. -/
def printMarkup (renderer : Renderer) (s : List Char) : Program Unit := do
  print [.text (← orFail .markup (renderer.render s))]

/-! ## Log -/

def logLevels : List (String × Nat) :=
  [("silent", 51), ("error", LogLevel.error.rank), ("warn", LogLevel.warning.rank),
    ("info", LogLevel.info.rank), ("verbose", LogLevel.debug.rank)]

/-- What is shown of the log, and the time in front of its lines. -/
structure LogView where
  least : Nat
  time : String

def log (view : LogView) (entries : List LogEntry) : Program Unit :=
  entries.forM fun e => do
    if view.least ≤ e.level.rank then
      writeError s!"{view.time} [{e.level.name}] {e.speaker}: {e.message}\n"

/-- The time of day of a stamp. -/
def clockText (time : Float) : String :=
  let seconds := Time.wholeToInt (Time.splitSeconds time).1
  (Time.Clock.ofSeconds (seconds % 86400).toNat 0).text

/-! ## Commands -/

def helpOption : OptionSpec where
  name := "--help"
  kind := .flag
  help := "Show this message and exit."
  isEager := true

def group : Command where
  path := "bundleguard"
  usage := "[OPTIONS] COMMAND [ARGS]..."
  about := "bundleguard — static assertions for packaged JavaScript bundles."
  options :=
    [ { name := "--version", kind := .flag, help := "Show the version and exit.", isEager := true },
      { name := "--profile", letter := some 'p', kind := .file, help := "Path to a YAML rule profile." },
      { name := "--verbose", letter := some 'v', kind := .flag, help := "Enable verbose output." },
      { name := "--log-level", kind := .choice (logLevels.map (·.1)),
        help := "Logging level (default: warn)." },
      helpOption ]
  commands :=
    [("check", "Run static assertions over built bundles."),
      ("rules", "List registered rules for the active profile.")]

def checkCommand : Command where
  path := "bundleguard check"
  usage := "[OPTIONS]"
  about := "Run static assertions over built bundles."
  options :=
    [ { name := "--json", kind := .flag, help := "Emit the JSON report instead of text." },
      { name := "--no-parallel", kind := .flag, help := "Process bundles sequentially." },
      { name := "--max-workers", kind := .positive,
        help := "Maximum number of bundles processed concurrently (default: 4)." },
      { name := "--severity", kind := .text,
        help :=
          "Comma-separated severities to include: high,medium,low,warning (default: all)." },
      { name := "--dist-dir", kind := .directory,
        help := "Directory containing the built bundles (default: dist)." },
      { name := "--strict", kind := .flag, help := "Treat warnings as failures." },
      helpOption ]

def rulesCommand : Command where
  path := "bundleguard rules"
  usage := "[OPTIONS]"
  about := "List registered rules for the active profile."
  options :=
    [ { name := "--severity", kind := .text,
        help := "Comma-separated severities to include (default: all)." },
      helpOption ]

def versionText : String := "bundleguard, version 0.1.0"

/-! ## Errors -/

def lines (ls : List String) : String := String.join (ls.map (· ++ "\n"))

/-- Ends a run with a message. -/
def failWith {α : Type} (message : String) : Program α := do
  writeError (lines [s!"Error: {message}"])
  stop (.exit 1)

/-- Ends a run whose arguments are refused. -/
def refuse {α : Type} (c : Command) (e : UsageError) : Program α := do
  let usage := if e.showsUsage then [c.usageLine, c.helpHint, default] else []
  writeError (lines (usage ++ [s!"Error: {e.message}"]))
  stop (.exit 2)

def orRefuse {α : Type} (c : Command) (x : Except UsageError α) : Program α :=
  match x with
  | .ok a => return a
  | .error e => refuse c e

def showHelp {α : Type} (c : Command) : Program α := do
  writeOut (lines c.help)
  stop (.exit 0)

/-! ## Arguments -/

/-- Reads the options of a command and checks their values. -/
def readArguments (files : Tree) (c : Command) (interspersed : Bool) (words : List String) :
    Program Reading := do
  let r ← orRefuse c (Reading.ofWords c.options interspersed words)
  match r.eager? with
  | some o =>
    if o.name == helpOption.name then showHelp c
    else do
      writeOut (lines [versionText])
      stop (.exit 0)
  | none => do
    r.settled.forM fun g => do orRefuse c (← orFail .file (g.check files))
    return r

/-- Reads the arguments of a command that takes options only. -/
def readOptions (files : Tree) (c : Command) (words : List String) : Program Reading := do
  let r ← readArguments files c true words
  if r.words.isEmpty then return r else refuse c (.extraArguments r.words)

/-- The severities that an option asks for. -/
def severitiesOf (c : Command) (r : Reading) : Program (Option (List Severity)) := do
  match r.value? "--severity" with
  | none => return none
  | some value =>
    match parseSeverities value with
    | .ok found => return some found
    | .error e => refuse c (.badValue "'--severity'" e.message)

/-! ## Profiles and rules -/

def loadProfile (files : Tree) (path : Option String) : Program Profile := do
  match path with
  | none => return Profile.umdSdk
  | some path =>
    match Profile.load files path with
    | .ok p => return p
    | .error e =>
      match e.message? with
      | some message => failWith s!"Failed to load profile: {message}"
      | none => stop (.failure (.profile e))

/-- Registers rules in order, with what is logged about each. The rules of a profile have different names,
so that none is refused. -/
def registerAll (r : Registry) (entries : List LogEntry) : List Rule → Registry × List LogEntry
  | [] => (r, entries)
  | rule :: rest =>
    match r.register rule with
    | .ok (taken, r) => registerAll r (entries ++ [Registry.registerEntry rule taken]) rest
    | .error _ => registerAll r entries rest

/-- A registry of the rules under a profile whose severity is asked for. -/
def buildRegistry (view : LogView) (p : Profile) (included : List Severity) : Program Registry := do
  let rules ← orFail .expression (defaultRules p)
  let (r, entries) := registerAll { included := some included } [] rules
  log view entries
  log view [⟨.info, "bundleguard.cli.check", s!"Registered {r.rules.length} rules"⟩]
  return r

/-! ## Listing -/

def rulesTable (renderer : Renderer) (p : Profile) (rules : List Rule) : Program Table := do
  let title ← orFail .markup (renderer.render s!"Rules ({p.title})".toList)
  let rows ← rules.mapM fun rule => do
    let name ← orFail .markup (renderer.render rule.name.toList)
    return [name, rule.severity.name.toList, dropControls (", ".intercalate rule.appliesTo).toList,
      dropControls rule.description.toList]
  return {
    title := some title
    columns := ["Rule", "Severity", "Applies to", "Description"].map fun header =>
      { header := header.toList }
    rows := rows }

def listRules (around : Surroundings) (view : LogView) (profilePath : Option String) (words : List String) :
    Program Unit := do
  let r ← readOptions around.files rulesCommand words
  let p ← loadProfile around.files profilePath
  let included ← severitiesOf rulesCommand r
  let registry ← buildRegistry view p (included.getD Severity.all)
  print [.table (← rulesTable around.renderer p registry.rules)]

/-! ## Checking -/

/-- The settings of a check: those of the environment, overridden by the options. -/
def checkSettings (env : Environment) (r : Reading) : Program Settings := do
  let s ← match Settings.load env with
    | .ok s => pure s
    | .error e => failWith s!"Invalid configuration: {e.message}"
  let s := match r.value? "--dist-dir" with
    | some dir => if dir.isEmpty then s else { s with distDir := (Path.ofString dir).toString }
    | none => s
  let s := if r.has "--no-parallel" then { s with parallel := false } else s
  let s := match (r.value? "--max-workers").bind fun v => integer? v.toList with
    | some n => { s with maxWorkers := n }
    | none => s
  let s := match ← severitiesOf checkCommand r with
    | some found => { s with severities := found }
    | none => s
  let s := { s with strict := r.has "--strict" }
  return if r.has "--json" then { s with format := .json } else s

/-- Says what is going to be checked. -/
def announce (renderer : Renderer) (s : Settings) (p : Profile) (bundles rules : Nat) : Program Unit := do
  match p.name with
  | none => stop (.failure .noProfileName)
  | some name =>
    let dir := String.ofList (escapeMarkup s.distDir.toList)
    let shown := String.ofList (escapeMarkup name.toList)
    printMarkup renderer
      s!"[bold]bundleguard[/bold] checking [cyan]{dir}[/cyan] with profile [cyan]{shown}[/cyan] ({bundles} bundles, {rules} rules)\n".toList

/-- Ends a run that finds no bundles. -/
def noBundles {α : Type} (renderer : Renderer) (e : DiscoveryError) : Program α := do
  printMarkup renderer ("[red]Fatal:[/red] ".toList ++ escapeMarkup e.message.toList)
  stop (.exit 1)

def discover (around : Surroundings) (view : LogView) (s : Settings) (p : Profile) : Program (List String) := do
  let marker := p.text .bundleMarker
  let ext := p.text .bundleExtension
  match ← orFail .file (Discovery.find around.files s.distDir marker ext) with
  | .error e => noBundles around.renderer e
  | .ok found => do
    log view found.log
    match found.bundles marker ext with
    | .error e => noBundles around.renderer e
    | .ok bundles => return bundles

/-- Shows a report and ends as it says. -/
def conclude (renderer : Renderer) (r : Report) (format : OutputFormat) (strict : Bool) : Program Unit := do
  match format with
  | .json => writeOut ((← orFail .time (r.documentText strict)) ++ "\n")
  | .text => print (← orFail .markup (r.blocks renderer strict))
  if r.exitCode strict != 0 then stop (.exit (r.exitCode strict))

/-- Runs the rules on bundles. -/
def checkBundles (around : Surroundings) (view : LogView) (s : Settings) (registry : Registry)
    (bundles : List String) : Program Unit := do
  let run := registry.runIntake (Intake.ofPaths around.files bundles) s.parallel s.maxWorkers
  log view run.log
  conclude around.renderer { run.report with timestamp := around.time } s.format s.strict

def check (around : Surroundings) (view : LogView) (profilePath : Option String)
    (words : List String) : Program Unit := do
  let files := around.files
  let r ← readOptions files checkCommand words
  let s ← checkSettings around.environment r
  let p ← loadProfile files profilePath
  let registry ← buildRegistry view p s.severities
  let bundles ← discover around view s p
  if s.format == .text then announce around.renderer s p bundles.length registry.rules.length
  checkBundles around view s registry bundles

/-! ## Running -/

/-- Whether a word in the place of a command starts like an option. -/
def startsLikeOption (word : String) : Bool :=
  match word.toList with
  | [] => false
  | c :: _ => !(isWordChar c && c != '_')

def runGroup (around : Surroundings) (words : List String) : Program Unit := do
  if words.isEmpty then showHelp group
  let r ← readArguments around.files group false words
  let level := (r.value? "--log-level").getD "warn"
  let least :=
    if r.has "--verbose" then LogLevel.debug.rank else (logLevels.lookup level).getD 0
  let view : LogView := ⟨least, clockText around.time⟩
  match r.words with
  | [] => refuse group .commandMissing
  | name :: rest =>
    if name == "check" then check around view (r.value? "--profile") rest
    else if name == "rules" then listRules around view (r.value? "--profile") rest
    else if startsLikeOption name then showHelp group
    else refuse group (.noSuchCommand name)

end Program

/-- What a run has written and how it has ended. -/
structure Ending where
  exitCode : Nat
  output : Output
  failure : Option Failure := none

/-- Runs the program. A failure has the exit code one. -/
def run (around : Surroundings) (words : List String) : Ending :=
  match StateT.run (ExceptT.run (Program.runGroup around words)) {} with
  | (.ok _, output) => ⟨0, output, none⟩
  | (.error (.exit code), output) => ⟨code, output, none⟩
  | (.error (.failure f), output) => ⟨1, output, some f⟩

end BundleAudit.CommandLine

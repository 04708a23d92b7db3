import BundleAudit.Proofs.CommandLine.Runs

/-!
# Calls of the check

A call of the check is accepted if its arguments, the settings of the environment and the profile are
(`CheckCall`). It then reads what it needs from them, and the parts of the program that stand in front of
the discovery of bundles end without writing to the standard output.
-/

namespace BundleAudit

/-- No variable of the environment sets the severities. -/
theorem Settings.severities_load {env : Environment} {s : Settings} (h : Settings.load env = .ok s) :
    s.severities = Severity.all := by
  unfold Settings.load at h
  generalize env.value? Settings.distDirName = dir at h
  generalize env.value? Settings.workersName = number at h
  generalize env.value? Settings.parallelName = switch at h
  generalize env.value? Settings.formatName = format at h
  -- Each variable is set or not, and no value touches the severities.
  cases number with
  | none =>
    cases dir <;> cases switch <;> simp only [bind, Except.bind, pure, Except.pure] at h
    all_goals
      repeat' split at h
      all_goals cases h <;> rfl
  | some value =>
    cases read : Settings.positive Settings.workersName value with
    | error e => simp [read, bind, Except.bind, Except.map] at h
    | ok n =>
      cases dir <;> cases switch <;>
        simp only [read, bind, Except.bind, pure, Except.pure, Except.map] at h
      all_goals
        repeat' split at h
        all_goals cases h <;> rfl

/-- The paths of the bundles in a directory, if there are any. -/
def Discovery.paths? (t : FileSystem.Tree) (directory marker ext : String) : Option (List String) :=
  match find t directory marker ext with
  | .ok (.ok found) => (found.bundles marker ext).toOption
  | _ => none

namespace CommandLine

open BundleAudit.Console BundleAudit.FileSystem

/-- The words can be read, no option among them ends the program, and their values are accepted. -/
structure Accepts (t : Tree) (c : Command) (interspersed : Bool) (words : List String) (r : Reading) :
    Prop where
  read : Reading.ofWords c.options interspersed words = .ok r
  goesOn : r.eager? = none
  values : ∀ g ∈ r.settled, g.check t = .ok (.ok ())

/-- The format of the report: that of the option, or that of the environment. -/
def Reading.formatUnder (options : Reading) (s : Settings) : OutputFormat :=
  if options.has "--json" then .json else s.format

/-- A call of the check with all that it has been given. -/
structure CheckCall (around : Surroundings) (words : List String) where
  /-- The options in front of the name of the command, and the words behind it. -/
  globals : Reading
  arguments : List String
  options : Reading
  /-- The settings of the environment. -/
  settings : Settings
  severities : List Severity
  profile : Profile
  name : String
  rules : List Rule
  accepts_globals : Accepts around.files Program.group false words globals
  globals_words : globals.words = "check" :: arguments
  accepts_options : Accepts around.files Program.checkCommand true arguments options
  options_words : options.words = []
  settings_eq : Settings.load around.environment = .ok settings
  severities_eq :
    options.value? "--severity" = none ∧ severities = Severity.all ∨
      ∃ value, options.value? "--severity" = some value ∧ parseSeverities value = .ok severities
  profile_eq :
    globals.value? "--profile" = none ∧ profile = Profile.umdSdk ∨
      ∃ path, globals.value? "--profile" = some path ∧ Profile.load around.files path = .ok profile
  name_eq : profile.name = some name
  rules_eq : defaultRules profile = .ok rules
  /-- The time has a date, which the report for machines shows. -/
  dated : options.formatUnder settings = .json → ∃ stamp, Time.stampText around.time = .ok stamp

namespace CheckCall

variable {around : Surroundings} {words : List String}

/-- The directory of the option, unless it is empty, or that of the environment. -/
def distDir (c : CheckCall around words) : String :=
  match c.options.value? "--dist-dir" with
  | some dir => if dir.isEmpty then c.settings.distDir else (Path.ofString dir).toString
  | none => c.settings.distDir

def strict (c : CheckCall around words) : Bool := c.options.has "--strict"

def format (c : CheckCall around words) : OutputFormat := c.options.formatUnder c.settings

/-- The rules whose severity is asked for. -/
def selected (c : CheckCall around words) : List Rule := c.rules.filter (c.severities.contains ·.severity)

/-- The paths of the bundles, if there are any. -/
def paths? (c : CheckCall around words) : Option (List String) :=
  Discovery.paths? around.files c.distDir (c.profile.text .bundleMarker) (c.profile.text .bundleExtension)

end CheckCall

namespace Program

/-! ## Arguments -/

theorem readArguments_eq {t : Tree} {c : Command} {interspersed : Bool} {words : List String}
    {r : Reading} (accepts : Accepts t c interspersed words r) :
    readArguments t c interspersed words = pure r := by
  have checked : (r.settled.forM fun g => do orRefuse c (← orFail .file (g.check t))) = pure () := by
    refine forM_eq_pure fun g mem => ?_
    rw [accepts.values g mem]
    rfl
  unfold readArguments
  rw [accepts.read, orRefuse, pure_bind, accepts.goesOn]
  dsimp only
  rw [checked, pure_bind]

theorem readOptions_eq {t : Tree} {c : Command} {words : List String} {r : Reading}
    (accepts : Accepts t c true words r) (noWords : r.words = []) : readOptions t c words = pure r := by
  unfold readOptions
  rw [readArguments_eq accepts, pure_bind, noWords]
  rfl

/-- The words of a call that names a command are handed on to it. -/
theorem runGroup_eq {around : Surroundings} {words rest : List String} {name : String} {globals : Reading}
    (accepts : Accepts around.files group false words globals) (named : globals.words = name :: rest) :
    ∃ view : LogView, runGroup around words =
      if name == "check" then check around view (globals.value? "--profile") rest
      else if name == "rules" then listRules around view (globals.value? "--profile") rest
      else if startsLikeOption name then showHelp group
      else refuse group (.noSuchCommand name) := by
  have given : words.isEmpty = false := by
    cases words with
    | nil =>
      obtain rfl : {} = globals := Except.ok.inj accepts.read
      cases named
    | cons word words => rfl
  refine ⟨⟨if globals.has "--verbose" then LogLevel.debug.rank
    else (logLevels.lookup ((globals.value? "--log-level").getD "warn")).getD 0, clockText around.time⟩, ?_⟩
  unfold runGroup
  rw [given, readArguments_eq accepts]
  show (pure globals >>= _) = _
  rw [pure_bind, named]

/-! ## Settings and profile -/

variable {around : Surroundings} {words : List String} (c : CheckCall around words)

theorem severitiesOf_eq : ∃ found : Option (List Severity),
    severitiesOf checkCommand c.options = pure found ∧ found.getD Severity.all = c.severities := by
  unfold severitiesOf
  rcases c.severities_eq with ⟨absent, eq⟩ | ⟨value, given, parsed⟩
  · exact ⟨none, by rw [absent], eq.symm⟩
  · refine ⟨some c.severities, ?_, rfl⟩
    rw [given]
    dsimp only
    rw [parsed]

theorem checkSettings_eq : ∃ s : Settings,
    checkSettings around.environment c.options = pure s ∧ s.distDir = c.distDir ∧
      s.severities = c.severities ∧ s.strict = c.strict ∧ s.format = c.format := by
  obtain ⟨found, read, severities⟩ := severitiesOf_eq c
  unfold checkSettings
  simp only [c.settings_eq, read, pure_bind]
  refine ⟨_, rfl, ?_⟩
  rw [← severities, ← Settings.severities_load c.settings_eq]
  unfold CheckCall.distDir CheckCall.strict CheckCall.format Reading.formatUnder
  generalize c.options.value? "--dist-dir" = dir
  generalize (c.options.value? "--max-workers").bind (fun v => Text.integer? v.toList) = limit
  -- Each option overrides one setting and leaves the others.
  cases dir <;> cases limit <;> cases found <;> dsimp only <;> refine ⟨?_, ?_, ?_, ?_⟩
  all_goals
    repeat' split
    all_goals rfl

theorem loadProfile_eq : loadProfile around.files (c.globals.value? "--profile") = pure c.profile := by
  unfold loadProfile
  rcases c.profile_eq with ⟨absent, eq⟩ | ⟨path, given, loaded⟩
  · rw [absent, eq]
  · rw [given]
    dsimp only
    rw [loaded]

end Program

end CommandLine

end BundleAudit

import BundleAudit.CommandLine.Arguments
import BundleAudit.Console.Lines

/-!
# Help pages

The page of a command shows its usage, what it is for, its options, and its commands if it has any, in
lines of at most seventy-eight characters.
-/

namespace BundleAudit.CommandLine

open BundleAudit.Console BundleAudit.Text

structure Command where
  /-- The words that call the command. -/
  path : String
  /-- What stands behind the path in the usage. -/
  usage : String
  about : String
  options : List OptionSpec
  /-- The commands below it, with what they are for. -/
  commands : List (String × String) := []
deriving DecidableEq, Repr

def pageWidth : Nat := 78

/-- The widest first column that a description still stands beside. -/
def columnLimit : Nat := 30

/-- What an option takes, as it stands behind its name. -/
def ValueKind.shown : ValueKind → String
  | .flag => ""
  | .text => " TEXT"
  | .positive => " INTEGER RANGE"
  | .choice names =>
    let all := "|".intercalate names
    s!" [{all}]"
  | .file => " FILE"
  | .directory => " DIRECTORY"

def OptionSpec.shownNames (o : OptionSpec) : String :=
  match o.letter with
  | some c => s!"-{c}, {o.name}{o.kind.shown}"
  | none => s!"{o.name}{o.kind.shown}"

def OptionSpec.shownHelp (o : OptionSpec) : String :=
  match o.kind with
  | .positive => s!"{o.help}  [x>=1]"
  | _ => o.help

/-- The lines of two columns. A text that is too long for the first column has a line of its own. -/
def definitionLines (rows : List (String × String)) : List String :=
  let widest := (rows.map (·.1.length)).foldl max 0
  let column := min widest columnLimit + 2
  let indent := String.ofList (spaces (column + 2))
  rows.flatMap fun (name, text) =>
    let lines := (wrapLine .fold (pageWidth - column - 2) text.toList).map fun line =>
      String.ofList (trimBack line)
    let gap := String.ofList (spaces (column - name.length))
    if name.length + 2 ≤ column then
      match lines with
      | [] => [s!"  {name}"]
      | first :: more => s!"  {name}{gap}{first}" :: more.map (indent ++ ·)
    else s!"  {name}" :: lines.map (indent ++ ·)

namespace Command

def usageLine (c : Command) : String := s!"Usage: {c.path} {c.usage}"

/-- Where help can be found. -/
def helpHint (c : Command) : String := s!"Try '{c.path} --help' for help."

/-- The lines of the page of a command. -/
def help (c : Command) : List String :=
  let options := c.options.map fun o => (o.shownNames, o.shownHelp)
  [c.usageLine, default, s!"  {c.about}", default, "Options:"] ++ definitionLines options ++
    (if c.commands.isEmpty then []
      else [default, "Commands:"] ++ definitionLines c.commands)

end Command

end BundleAudit.CommandLine

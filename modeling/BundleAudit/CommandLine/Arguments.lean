import BundleAudit.CommandLine.Suggestion
import BundleAudit.FileSystem.Tree
import BundleAudit.Text.Integer

/-!
# Arguments

A command declares its options. Arguments are read from the front: an option with its value behind it
or behind an equality sign, short options in one word, and other words. Two hyphens end the options.
The values are checked in the order in which their options were first given; of several values for one
option the last one counts.
-/

namespace BundleAudit.CommandLine

open BundleAudit.FileSystem BundleAudit.Text

/-- What an option takes as its value. -/
inductive ValueKind
  | flag
  | text
  /-- A whole number from one. -/
  | positive
  | choice (names : List String)
  /-- The path of a file that exists. -/
  | file
  /-- The path of a directory, which may be missing. -/
  | directory
deriving DecidableEq, Repr

structure OptionSpec where
  /-- The long name. -/
  name : String
  /-- The letter of the short name. -/
  letter : Option Char := none
  kind : ValueKind
  help : String
  /-- Whether the option is looked at before all others and ends the program. -/
  isEager : Bool := false
deriving DecidableEq, Repr

/-- The names of an option in quotes. -/
def OptionSpec.hint (o : OptionSpec) : String :=
  let long := s!"'{o.name}'"
  match o.letter with
  | some c => s!"{long} / '-{c}'"
  | none => long

/-- Why arguments are refused. -/
inductive UsageError
  | noSuchOption (name : String) (close : List String)
  | valueMissing (name : String)
  | valueRefused (name : String)
  | badValue (hint message : String)
  | extraArguments (words : List String)
  | noSuchCommand (name : String)
  | commandMissing
deriving DecidableEq, Repr

namespace UsageError

def message : UsageError → String
  | .noSuchOption name [] => s!"No such option: {name}"
  | .noSuchOption name [one] => s!"No such option: {name} Did you mean {one}?"
  | .noSuchOption name close =>
    let names := ", ".intercalate close
    s!"No such option: {name} (Possible options: {names})"
  | .valueMissing name => s!"Option {quotedString name} requires an argument."
  | .valueRefused name => s!"Option {quotedString name} does not take a value."
  | .badValue hint message => s!"Invalid value for {hint}: {message}"
  | .extraArguments words =>
    let all := " ".intercalate words
    let noun := if words.length == 1 then "argument" else "arguments"
    s!"Got unexpected extra {noun} ({all})"
  | .noSuchCommand name => s!"No such command {quotedString name}."
  | .commandMissing => "Missing command."

/-- Whether the usage of the command is shown with the error. -/
def showsUsage : UsageError → Bool
  | .valueMissing _ | .valueRefused _ => false
  | _ => true

end UsageError

/-- An option as it was given. -/
structure Given where
  spec : OptionSpec
  value : String
deriving DecidableEq, Repr

/-- What a list of words has been read into. -/
structure Reading where
  given : List Given := []
  words : List String := []
deriving DecidableEq, Repr

/-- Splits a word at its first equality sign. -/
def splitEquals (word : String) : String × Option String :=
  let cs := word.toList
  match cs.dropWhile (· != '=') with
  | [] => (word, none)
  | _ :: value => (String.ofList (cs.takeWhile (· != '=')), some (String.ofList value))

/-- An option by its long name, with the words behind it that are left. -/
def readLong (specs : List OptionSpec) (word : String) (rest : List String) :
    Except UsageError (Given × List String) :=
  let (name, value) := splitEquals word
  match specs.find? (·.name == name) with
  | none => .error (.noSuchOption name (suggestions (specs.map (·.name)) name))
  | some o =>
    if o.kind == .flag then
      match value with
      | some _ => .error (.valueRefused name)
      | none => .ok (⟨o, ""⟩, rest)
    else
      match value, rest with
      | some v, _ => .ok (⟨o, v⟩, rest)
      | none, v :: rest => .ok (⟨o, v⟩, rest)
      | none, [] => .error (.valueMissing name)

/-- Options by their letters. A letter that takes a value takes the rest of the word, or the next one. -/
def readLetters (specs : List OptionSpec) (rest : List String) :
    List Char → Except UsageError (List Given × List String)
  | [] => .ok ([], rest)
  | c :: letters =>
    let name := String.ofList ['-', c]
    match specs.find? (·.letter == some c) with
    | none => .error (.noSuchOption name [])
    | some o =>
      if o.kind == .flag then do
        let (more, rest) ← readLetters specs rest letters
        return (⟨o, ""⟩ :: more, rest)
      else
        match letters, rest with
        | _ :: _, _ => .ok ([⟨o, String.ofList letters⟩], rest)
        | [], v :: rest => .ok ([⟨o, v⟩], rest)
        | [], [] => .error (.valueMissing name)

/-- Reads words. With `interspersed`, options may stand behind other words. -/
def readWords (specs : List OptionSpec) (interspersed : Bool) :
    Nat → Reading → List String → Except UsageError Reading
  | 0, r, words => .ok { r with words := r.words ++ words }
  | _, r, [] => .ok r
  | fuel + 1, r, word :: rest =>
    match word.toList with
    | ['-', '-'] => .ok { r with words := r.words ++ rest }
    | '-' :: '-' :: _ => do
      let (g, rest) ← readLong specs word rest
      readWords specs interspersed fuel { r with given := r.given ++ [g] } rest
    | '-' :: c :: letters => do
      let (gs, rest) ← readLetters specs rest (c :: letters)
      readWords specs interspersed fuel { r with given := r.given ++ gs } rest
    | _ =>
      if interspersed then
        readWords specs interspersed fuel { r with words := r.words ++ [word] } rest
      else .ok { r with words := word :: rest }

def Reading.ofWords (specs : List OptionSpec) (interspersed : Bool) (words : List String) :
    Except UsageError Reading :=
  readWords specs interspersed (words.length + 1) {} words

namespace Reading

/-- The eager option that was given first. -/
def eager? (r : Reading) : Option OptionSpec := (r.given.find? (·.spec.isEager)).map (·.spec)

/-- The last value of an option. -/
def value? (r : Reading) (name : String) : Option String :=
  (r.given.reverse.find? (·.spec.name == name)).map (·.value)

def has (r : Reading) (name : String) : Bool := (r.value? name).isSome

/-- The options that were given, each once with its last value, in the order of their first one. -/
def settled (r : Reading) : List Given :=
  (r.given.map (·.spec)).eraseDups.map fun o => ⟨o, (r.value? o.name).getD ""⟩

end Reading

/-! ## Values -/

/-- Checks a value of an option. A path with a null character cannot even be looked at. -/
def Given.check (t : Tree) (g : Given) : Except FileError (Except UsageError Unit) :=
  let refuse (message : String) : Except UsageError Unit := .error (.badValue g.spec.hint message)
  let shown := quotedString g.value
  match g.spec.kind with
  | .flag | .text => .ok (.ok ())
  | .positive =>
    match integer? g.value.toList with
    | none => .ok (refuse s!"{shown} is not a valid integer range.")
    | some n => .ok (if n < 1 then refuse s!"{n} is not in the range x>=1." else .ok ())
  | .choice names =>
    if names.contains g.value then .ok (.ok ())
    else
      let all := ", ".intercalate (names.map quotedString)
      .ok (refuse s!"{shown} is not one of {all}.")
  | .file =>
    match t.lookUp g.value with
    | .error .nullByte => .error .nullByte
    | .error _ => .ok (refuse s!"File {shown} does not exist.")
    | .ok .directory => .ok (refuse s!"File {shown} is a directory.")
    | .ok .locked => .ok (refuse s!"File {shown} is not readable.")
    | .ok (.file _) => .ok (.ok ())
  | .directory =>
    match t.lookUp g.value with
    | .error .nullByte => .error .nullByte
    | .ok (.file _) | .ok .locked => .ok (refuse s!"Directory {shown} is a file.")
    | _ => .ok (.ok ())

end BundleAudit.CommandLine

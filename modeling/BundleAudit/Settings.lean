import BundleAudit.FileSystem.Path
import BundleAudit.Finding
import BundleAudit.Text.Integer
import BundleAudit.Text.LetterCase

/-!
# Settings

The settings of a run have defaults, and environment variables that are not empty override them.
-/

namespace BundleAudit

open BundleAudit.Text BundleAudit.FileSystem

inductive OutputFormat
  | text
  | json
deriving DecidableEq, Repr

namespace OutputFormat

def all : List OutputFormat := [.text, .json]

def name : OutputFormat → String
  | .text => "text"
  | .json => "json"

def ofName? (s : String) : Option OutputFormat := all.find? (·.name == s)

end OutputFormat

structure Settings where
  distDir : String := "dist"
  maxWorkers : Int := 4
  parallel : Bool := true
  severities : List Severity := Severity.all
  strict : Bool := false
  format : OutputFormat := .text
deriving DecidableEq, Repr

/-- Why a setting is refused. -/
inductive SettingsError
  | noSeverities
  | unknownSeverity (value : String)
  | notPositive (key value : String)
  | unknownFormat (value : String)
deriving DecidableEq, Repr

def SettingsError.message : SettingsError → String
  | .noSeverities => "Severity list is empty"
  | .unknownSeverity value =>
    let names := ", ".intercalate (Severity.all.map (·.name))
    s!"Unknown severity in '{value}' (expected: {names})"
  | .notPositive key value => s!"{key} must be a positive integer, got '{value}'"
  | .unknownFormat value =>
    let names := ", ".intercalate (OutputFormat.all.map (·.name))
    s!"BUNDLEGUARD_OUTPUT_FORMAT must be one of {names}, got '{value}'"

/-- The texts between the commas of a text. -/
def splitCommas : List Char → List (List Char)
  | [] => [[]]
  | c :: rest =>
    if c == ',' then [] :: splitCommas rest
    else
      match splitCommas rest with
      | [] => [[c]]
      | part :: parts => (c :: part) :: parts

/-- A value without blanks around it, in lower case. -/
def normalValue (s : List Char) : String := String.ofList (lower (trim s))

/-- The severities of a comma-separated list, by rank. -/
def parseSeverities (value : String) : Except SettingsError (List Severity) :=
  let names := ((splitCommas value.toList).filter fun part => trim part != []).map normalValue
  if names.isEmpty then .error .noSeverities
  else
    match names.mapM Severity.ofName? with
    | some found => .ok (Severity.all.filter found.contains)
    | none => .error (.unknownSeverity value)

/-- The values of environment variables. -/
abbrev Environment := List (String × String)

/-- The value of a variable, if it is set and not empty. -/
def Environment.value? (env : Environment) (name : String) : Option String :=
  (env.lookup name).filter (· != "")

namespace Settings

/-- The values that turn a switch off. -/
def falseValues : List String := ["0", "false", "no", "off"]

def positive (key value : String) : Except SettingsError Int :=
  match integer? value.toList with
  | some n => if n < 1 then .error (.notPositive key value) else .ok n
  | none => .error (.notPositive key value)

def distDirName : String := "BUNDLEGUARD_DIST_DIR"

def workersName : String := "BUNDLEGUARD_MAX_WORKERS"

def parallelName : String := "BUNDLEGUARD_PARALLEL"

def formatName : String := "BUNDLEGUARD_OUTPUT_FORMAT"

/-- The environment variables that are read. -/
def variableNames : List String := [distDirName, workersName, parallelName, formatName]

/-- The settings under an environment. -/
def load (env : Environment) : Except SettingsError Settings := do
  let s : Settings := {}
  let s := match env.value? distDirName with
    | some value => { s with distDir := (Path.ofString value).toString }
    | none => s
  let s ← match env.value? workersName with
    | some value => (positive workersName value).map fun n => { s with maxWorkers := n }
    | none => pure s
  let s := match env.value? parallelName with
    | some value => { s with parallel := !falseValues.contains (normalValue value.toList) }
    | none => s
  match env.value? formatName with
  | some value =>
    match OutputFormat.ofName? (normalValue value.toList) with
    | some format => return { s with format }
    | none => .error (.unknownFormat value)
  | none => return s

end Settings

end BundleAudit

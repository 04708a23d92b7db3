import BundleAudit.Json

/-!
# Findings

A violation says what a rule found, how severe it is and where. Severities are ranked from the most
severe, rank zero, and those that block fail a run.
-/

namespace BundleAudit

inductive Severity
  | high
  | medium
  | low
  | warning
deriving DecidableEq, Repr

namespace Severity

/-- The severities in the order of their ranks. -/
def all : List Severity := [.high, .medium, .low, .warning]

def name : Severity → String
  | .high => "high"
  | .medium => "medium"
  | .low => "low"
  | .warning => "warning"

def ofName? (s : String) : Option Severity := all.find? (·.name == s)

def rank : Severity → Nat
  | .high => 0
  | .medium => 1
  | .low => 2
  | .warning => 3

/-- Whether a violation of this severity fails a run. -/
def isBlocking : Severity → Bool
  | .high | .medium => true
  | .low | .warning => false

end Severity

/-- One finding of a rule against one file. The line is absent where the whole file is meant. -/
structure Violation where
  rule : String
  severity : Severity
  message : String
  file : String
  line : Option Int := none
  matched : String := ""
  context : String := ""
deriving DecidableEq, Repr

namespace Violation

def isBlocking (v : Violation) : Bool := v.severity.isBlocking

def toJson (v : Violation) : Json :=
  .obj [("rule", .str v.rule), ("severity", .str v.severity.name), ("message", .str v.message),
    ("file", .str v.file), ("line", (v.line.map Json.int).getD .null), ("match", .str v.matched),
    ("context", .str v.context)]

end Violation

end BundleAudit

import BundleAudit.Log
import BundleAudit.Rule.Basic

/-!
# Outcomes

An evaluation is what one rule gave for one file; its outcome is what is recorded of it. A rule may
report a finding as less severe than it is declared, never as more severe: such a finding is clamped to
the declared severity. A crash is recorded as one violation of the highest severity.
-/

namespace BundleAudit

inductive Status
  | passed
  | failed
  | warning
deriving DecidableEq, Repr

namespace Status

def all : List Status := [.passed, .failed, .warning]

def name : Status → String
  | .passed => "passed"
  | .failed => "failed"
  | .warning => "warning"

def ofName? (s : String) : Option Status := all.find? (·.name == s)

/-- Failed if a violation blocks, a warning if there are only others, and passed if there are none. -/
def ofViolations (vs : List Violation) : Status :=
  if vs.any (·.isBlocking) then .failed else if vs.isEmpty then .passed else .warning

end Status

/-- What is recorded of one evaluation. The duration is in seconds. -/
structure Outcome where
  file : String
  rule : String
  status : Status
  duration : Float := 0.0
  violations : List Violation := []
  faulted : Bool := false

/-- A violation with its severity lowered to the declared one where it lies above it. -/
def Violation.clamp (declared : Severity) (v : Violation) : Violation :=
  if declared.rank ≤ v.severity.rank then v else { v with severity := declared }

/-- The violation that a crash is recorded as. -/
def Crash.violation (c : Crash) (rule file : String) : Violation where
  rule := rule
  severity := .high
  message := s!"Rule raised {c.kind}: {c.message}"
  file := file

/-- What a rule gave for a file. -/
structure Evaluation where
  rule : Rule
  file : String
  result : Except Crash (List Violation)

namespace Evaluation

/-- The violations that are recorded. -/
def violations (e : Evaluation) : List Violation :=
  match e.result with
  | .ok vs => vs.map (·.clamp e.rule.severity)
  | .error c => [c.violation e.rule.name e.file]

def faulted (e : Evaluation) : Bool :=
  match e.result with
  | .ok _ => false
  | .error _ => true

def outcome (e : Evaluation) : Outcome where
  file := e.file
  rule := e.rule.name
  status := .ofViolations e.violations
  violations := e.violations
  faulted := e.faulted

/-- One entry for each clamped violation, and two for a crash. -/
def log (e : Evaluation) : List LogEntry :=
  match e.result with
  | .ok vs =>
    (vs.filter fun v => v.severity.rank < e.rule.severity.rank).map fun v =>
      .engine .warning s!"Rule {e.rule.name} reported {v.severity.name} above its declared {e.rule.severity.name}; clamping"
  | .error c =>
    [.engine .error s!"Rule {e.rule.name} raised on {e.file}: {c.message}",
      .engine .debug s!"Rule {e.rule.name} traceback"]

end Evaluation

end BundleAudit

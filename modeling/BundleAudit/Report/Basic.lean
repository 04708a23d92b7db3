import BundleAudit.Rule.Outcome

/-!
# Reports

A report counts the outcomes of a run as they are recorded: an outcome without violations has passed,
and each violation counts as failed if it blocks and as a warning if not.
-/

namespace BundleAudit

/-- A file that could not be read. -/
structure FileFault where
  file : String
  message : String
deriving DecidableEq, Repr

structure Report where
  passed : Nat := 0
  failed : Nat := 0
  warnings : Nat := 0
  violations : List Violation := []
  outcomes : List Outcome := []
  faults : List FileFault := []
  filesScanned : Nat := 0
  /-- Seconds that the run took. -/
  elapsed : Float := 0.0
  parallel : Bool := false
  workers : Nat := 1
  /-- Seconds from the start of 1970 to the start of the run. -/
  timestamp : Float := 0.0

namespace Report

/-- Counts one violation. -/
def count (r : Report) (v : Violation) : Report :=
  let r := if v.isBlocking then { r with failed := r.failed + 1 } else { r with warnings := r.warnings + 1 }
  { r with violations := r.violations ++ [v] }

/-- Records one outcome. -/
def record (r : Report) (o : Outcome) : Report :=
  let r := { r with outcomes := r.outcomes ++ [o] }
  if o.violations.isEmpty then { r with passed := r.passed + 1 } else o.violations.foldl count r

/-- Records the outcomes of one file. -/
def commit (r : Report) (outcomes : List Outcome) : Report :=
  outcomes.foldl record { r with filesScanned := r.filesScanned + 1 }

/-- A run succeeds without blocking violations and read faults, and under `strict` without warnings. -/
def isSuccess (r : Report) (strict : Bool) : Bool :=
  if r.failed != 0 || !r.faults.isEmpty then false else !(strict && r.warnings != 0)

def exitCode (r : Report) (strict : Bool) : Nat := if r.isSuccess strict then 0 else 1

/-- The order of violations in a report: by file, rule, line, severity and message. -/
def violationOrder (v w : Violation) : Ordering :=
  (compare v.file w.file).then <| (compare v.rule w.rule).then <|
    (compare (v.line.getD 0) (w.line.getD 0)).then <|
      (compare v.severity.rank w.severity.rank).then (compare v.message w.message)

/-- The violations in order; those that agree in all keys stay in the order of recording. -/
def sortedViolations (r : Report) : List Violation :=
  r.violations.mergeSort fun v w => (violationOrder v w).isLE

/-- The distinct names in ascending order. -/
def sortedNames (names : List String) : List String :=
  (names.foldl (fun seen n => if seen.contains n then seen else seen ++ [n]) []).mergeSort
    fun m n => (compare m n).isLE

/-- How many outcomes of one rule have each status. -/
structure RuleCount where
  rule : String
  passed : Nat
  failed : Nat
  warning : Nat
deriving DecidableEq, Repr

/-- The counts of each rule, by name. -/
def ruleCounts (r : Report) : List RuleCount :=
  (sortedNames (r.outcomes.map (·.rule))).map fun name =>
    let of := r.outcomes.filter (·.rule == name)
    { rule := name
      passed := of.countP (·.status == .passed)
      failed := of.countP (·.status == .failed)
      warning := of.countP (·.status == .warning) }

end Report

end BundleAudit

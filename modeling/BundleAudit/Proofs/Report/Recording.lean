import BundleAudit.Report.Basic

/-!
# What recording adds up to

A report that outcomes were recorded in, one after the other or file by file, is given in closed form:
its outcomes and violations are those recorded, in order, and its counts are counts over them
(`ofOutcomes`).
-/

namespace BundleAudit

/-- An outcome regardless of the time that the evaluation took. -/
def Outcome.untimed (o : Outcome) : Outcome := { o with duration := 0.0 }

namespace Report

theorem foldl_count : ∀ (vs : List Violation) (r : Report),
    vs.foldl count r =
      { r with
        failed := r.failed + vs.countP (·.isBlocking)
        warnings := r.warnings + vs.countP (!·.isBlocking)
        violations := r.violations ++ vs }
  | [], r => by simp
  | v :: vs, r => by
    rw [List.foldl_cons, foldl_count vs]
    cases blocks : v.isBlocking <;> simp [count, blocks] <;> omega

theorem record_eq (r : Report) (o : Outcome) :
    r.record o =
      { r with
        passed := r.passed + if o.violations.isEmpty then 1 else 0
        failed := r.failed + o.violations.countP (·.isBlocking)
        warnings := r.warnings + o.violations.countP (!·.isBlocking)
        violations := r.violations ++ o.violations
        outcomes := r.outcomes ++ [o] } := by
  cases none : o.violations.isEmpty with
  | true =>
    rw [List.isEmpty_iff] at none
    simp [record, none]
  | false => simp [record, none, foldl_count]

theorem foldl_record : ∀ (os : List Outcome) (r : Report),
    os.foldl record r =
      { r with
        passed := r.passed + os.countP (·.violations.isEmpty)
        failed := r.failed + (os.flatMap (·.violations)).countP (·.isBlocking)
        warnings := r.warnings + (os.flatMap (·.violations)).countP (!·.isBlocking)
        violations := r.violations ++ os.flatMap (·.violations)
        outcomes := r.outcomes ++ os }
  | [], r => by simp
  | o :: os, r => by
    rw [List.foldl_cons, foldl_record os, record_eq]
    cases none : o.violations.isEmpty <;> simp [none] <;> omega

theorem foldl_commit : ∀ (files : List (List Outcome)) (r : Report),
    files.foldl commit r =
      { files.flatten.foldl record r with filesScanned := r.filesScanned + files.length }
  | [], r => by simp
  | os :: files, r => by
    rw [List.foldl_cons, foldl_commit files]
    simp [commit, foldl_record]
    omega

/-- The report of outcomes that were recorded in order, and of files that could not be read. -/
def ofOutcomes (outcomes : List Outcome) (faults : List FileFault) (files : Nat) : Report where
  passed := outcomes.countP (·.violations.isEmpty)
  failed := (outcomes.flatMap (·.violations)).countP (·.isBlocking)
  warnings := (outcomes.flatMap (·.violations)).countP (!·.isBlocking)
  violations := outcomes.flatMap (·.violations)
  outcomes := outcomes
  faults := faults
  filesScanned := files

end Report

end BundleAudit

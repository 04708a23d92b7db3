import BundleAudit.Proofs.Registry.Outcomes

/-!
# The verdict on a run

Whether a run succeeds is told by what its rules find in the bundles (`violationsIn`) and by the files that
could not be read (`Succeeds`). Every report that the run can end with says so, whatever the schedule
(`Registry.isSuccess_of_ends`).
-/

namespace BundleAudit

open BundleAudit.FileSystem

/-- The violations that rules find in bundles: each rule looks at the files that its globs match. -/
def violationsIn (rules : List Rule) (bundles : List Bundle) : List Violation :=
  bundles.flatMap fun b =>
    (rules.filter fun rule => rule.appliesTo.any (Glob.covers · (baseName b.path))).flatMap fun rule =>
      (rule.outcomeOn b).violations

/-- All files were read and no violation blocks; under `strict` there is no other violation either. -/
structure Succeeds (rules : List Rule) (taken : Intake) (strict : Bool) : Prop where
  read : taken.faults = []
  unblocked : ∀ v ∈ violationsIn rules taken.bundles, v.isBlocking = false
  unwarned : strict = true → ∀ v ∈ violationsIn rules taken.bundles, v.isBlocking = true

theorem Report.isSuccess_ofOutcomes (outcomes : List Outcome) (faults : List FileFault) (files : Nat)
    (strict : Bool) :
    (ofOutcomes outcomes faults files).isSuccess strict = true ↔
      faults = [] ∧ (∀ v ∈ outcomes.flatMap (·.violations), v.isBlocking = false) ∧
        (strict = true → ∀ v ∈ outcomes.flatMap (·.violations), v.isBlocking = true) := by
  have failed : (ofOutcomes outcomes faults files).failed = 0 ↔
      ∀ v ∈ outcomes.flatMap (·.violations), v.isBlocking = false := by
    simp only [ofOutcomes, List.countP_eq_zero, Bool.not_eq_true]
  have warnings : (ofOutcomes outcomes faults files).warnings = 0 ↔
      ∀ v ∈ outcomes.flatMap (·.violations), v.isBlocking = true := by
    simp only [ofOutcomes, List.countP_eq_zero, Bool.not_eq_true', Bool.not_eq_false]
  rw [← failed, ← warnings]
  show (if _ != 0 || !faults.isEmpty then false else !(strict && _ != 0)) = true ↔ _
  cases faults <;> cases strict <;> simp

namespace Registry

theorem flatMap_violations_outcomesOf (r : Registry) (bundles : List Bundle) :
    (r.outcomesOf bundles).flatMap (·.violations) = violationsIn r.rules bundles := by
  unfold outcomesOf violationsIn
  rw [List.flatMap_assoc]
  refine List.flatMap_congr fun b _ => ?_
  rw [List.flatMap_map]
  rfl

/-- The verdict does not depend on the schedule. -/
theorem isSuccess_of_ends {r : Registry} {taken : Intake} {parallel : Bool} {maxWorkers : Int}
    {report : Report} (ends : (r.runIntake taken parallel maxWorkers).Ends report) (strict : Bool) :
    report.isSuccess strict = true ↔ Succeeds r.rules taken strict := by
  obtain ⟨outcomes, perm, report_eq⟩ := ends_runIntake ends
  have same : ∀ v, v ∈ outcomes.flatMap (·.violations) ↔ v ∈ violationsIn r.rules taken.bundles := by
    have untimed : (outcomes.map Outcome.untimed).flatMap (·.violations) = outcomes.flatMap (·.violations) :=
      List.flatMap_map ..
    intro v
    rw [← untimed, ← flatMap_violations_outcomesOf]
    exact (perm.flatMap_right _).mem_iff
  have verdict : report.isSuccess strict =
      (Report.ofOutcomes outcomes taken.faults taken.bundles.length).isSuccess strict := by
    rw [report_eq]
    rfl
  rw [verdict, Report.isSuccess_ofOutcomes]
  simp only [same]
  exact ⟨fun h => ⟨h.1, h.2.1, h.2.2⟩, fun h => ⟨h.read, h.unblocked, h.unwarned⟩⟩

end Registry

end BundleAudit

import BundleAudit.Proofs.Registry.Outcomes
import BundleAudit.Proofs.Report.Accounting
import Mathlib.Data.List.Forall2

/-!
# Clamped findings

What a rule finds is recorded in its order, each finding at the lower of its own severity and the declared
one. The status is that of the recorded findings, and a crash is recorded as one finding of the highest
severity whatever the rule is declared as. So the findings of a rule that does not block never count as
failed, wherever they stand among the outcomes of a run; only its crashes do (`Rule.never_upgrades`).
-/

namespace BundleAudit

/-- The second violation is the first one, with the severity of the greater rank of its own and the declared
one. -/
structure Violation.IsLowered (declared : Severity) (v w : Violation) : Prop where
  rank : w.severity.rank = max v.severity.rank declared.rank
  rest : w = { v with severity := w.severity }

theorem Violation.isLowered_clamp (declared : Severity) (v : Violation) : v.IsLowered declared (v.clamp declared) := by
  refine ⟨?_, v.clamp_eq declared⟩
  unfold clamp
  by_cases below : declared.rank ≤ v.severity.rank
  · rw [if_pos below]
    omega
  · rw [if_neg below]
    show declared.rank = max v.severity.rank declared.rank
    omega

theorem Status.ofViolations_eq_warning {vs : List Violation} :
    ofViolations vs = .warning ↔ vs ≠ [] ∧ ∀ v ∈ vs, v.isBlocking = false := by
  have failed : ofViolations vs = .failed ↔ _ := ofViolations_eq_failed
  have passed : ofViolations vs = .passed ↔ _ := ofViolations_eq_passed
  -- The status is one of three, and two of them are settled.
  cases status : ofViolations vs with
  | failed =>
    obtain ⟨v, mem, blocks⟩ := failed.1 status
    refine iff_of_false (by decide) ?_
    rintro ⟨-, mild⟩
    simp [mild v mem] at blocks
  | passed => simp [passed.1 status]
  | warning =>
    refine iff_of_true rfl ⟨?_, ?_⟩
    · intro none
      simp [passed.2 none] at status
    · intro v mem
      by_contra blocks
      simp [failed.2 ⟨v, mem, by simpa using blocks⟩] at status

/-- An outcome among others adds its blocking violations to the count of failures, and nothing else. -/
theorem Report.failed_foldl_record_insert (r : Report) (before after : List Outcome) (o : Outcome) :
    ((before ++ o :: after).foldl record r).failed =
      ((before ++ after).foldl record r).failed + o.violations.countP (·.isBlocking) := by
  rw [foldl_record, foldl_record]
  simp only [List.flatMap_append, List.flatMap_cons, List.countP_append]
  omega

namespace Rule

/-- What is recorded of a rule on a script. The findings that it gives are kept in order and lowered to the
declared severity, and those before a crash are lost. The status is found from what is recorded. Of a rule
declared as low or as a warning, whatever is recorded before and after, a crash is one failure and findings
are none. -/
theorem never_upgrades (rule : Rule) (cleaned raw : List Char) (path : String) :
    let o := (⟨rule, path, rule.evaluate cleaned raw path⟩ : Evaluation).outcome
    (∀ vs, rule.evaluate cleaned raw path = .ok vs →
      List.Forall₂ (Violation.IsLowered rule.severity) vs o.violations ∧ o.faulted = false) ∧
    (∀ c, rule.evaluate cleaned raw path = .error c →
      o.violations = [{ rule := rule.name, severity := .high, file := path
                        message := s!"Rule raised {c.kind}: {c.message}" }] ∧ o.faulted = true) ∧
    (o.status = .failed ↔ ∃ v ∈ o.violations, v.severity ∈ [.high, .medium]) ∧
    (o.status = .warning ↔ o.violations ≠ [] ∧ ∀ v ∈ o.violations, v.severity ∈ [.low, .warning]) ∧
    (o.status = .passed ↔ o.violations = []) ∧
    (rule.severity ∈ [.low, .warning] → ∀ (r : Report) (before after : List Outcome),
      ((before ++ o :: after).foldl Report.record r).failed =
        ((before ++ after).foldl Report.record r).failed + if o.faulted then 1 else 0) := by
  intro o
  refine ⟨fun vs found => ?_, fun c raised => ?_, ?_, ?_, Status.ofViolations_eq_passed, fun mild r before after => ?_⟩
  · have recorded : o.violations = vs.map (·.clamp rule.severity) ∧ o.faulted = false := by
      simp only [o, Evaluation.outcome, Evaluation.violations, Evaluation.faulted, found, and_self]
    refine ⟨?_, recorded.2⟩
    rw [recorded.1, List.forall₂_map_right_iff, List.forall₂_same]
    intro v _
    exact v.isLowered_clamp rule.severity
  · simp only [o, Evaluation.outcome, Evaluation.violations, Evaluation.faulted, raised, and_true]
    rfl
  · simp only [← Violation.isBlocking_iff]
    exact Status.ofViolations_eq_failed
  · simp only [← Violation.not_isBlocking_iff, Bool.not_eq_true']
    exact Status.ofViolations_eq_warning
  · have declared : rule.severity.isBlocking = false := by
      revert mild
      cases rule.severity <;> decide
    rw [Report.failed_foldl_record_insert]
    congr 1
    exact Evaluation.blocking_of_mild declared

/-- A rule declared as low, on a script for which it gives two findings and on one on which it crashes. -/
theorem never_upgrades_of_low :
    let found : Violation := { rule := "r", severity := .high, message := "found", file := "a.js", line := some 3 }
    let minor : Violation := { found with severity := .warning }
    let rule : Rule :=
      { name := "r", description := "", severity := .low, appliesTo := ["*"]
        evaluate := fun _ raw _ => if raw.isEmpty then .ok [found, minor] else .error ⟨"ValueError", "no reason"⟩ }
    let calm := (⟨rule, "a.js", rule.evaluate [] [] "a.js"⟩ : Evaluation).outcome
    let crashed := (⟨rule, "b.js", rule.evaluate [] ['x'] "b.js"⟩ : Evaluation).outcome
    (rule.severity ∈ [.low, .warning] ∧ rule.evaluate [] [] "a.js" = .ok [found, minor] ∧
      rule.evaluate [] ['x'] "b.js" = .error ⟨"ValueError", "no reason"⟩) ∧
      List.Forall₂ (Violation.IsLowered .low) [found, minor] calm.violations ∧
      crashed.violations = [⟨"r", .high, "Rule raised ValueError: no reason", "b.js", none, "", ""⟩] ∧
      (([crashed] ++ calm :: []).foldl Report.record {}).failed = ([crashed].foldl Report.record {}).failed ∧
      (([calm] ++ crashed :: []).foldl Report.record {}).failed = ([calm].foldl Report.record {}).failed + 1 := by
  intro found minor rule calm crashed
  have low : rule.severity ∈ [.low, .warning] := by decide
  obtain ⟨kept, -, -, -, -, counts⟩ := never_upgrades rule [] [] "a.js"
  obtain ⟨-, lost, -, -, -, counts'⟩ := never_upgrades rule [] ['x'] "b.js"
  refine ⟨⟨low, rfl, rfl⟩, (kept _ rfl).1, (lost _ rfl).1, ?_, ?_⟩
  · exact counts low {} [crashed] []
  · exact counts' low {} [calm] []

end Rule

end BundleAudit

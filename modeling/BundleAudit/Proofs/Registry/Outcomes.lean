import BundleAudit.Proofs.Registry.Schedule
import Mathlib.Data.List.Basic

/-!
# The outcomes of a run

A run has one outcome for each file it was given and each rule that looks at files of its name
(`Registry.outcomesOf`), whatever the schedule (`Registry.ends_runIntake`).
-/

namespace BundleAudit

/-- Clamping changes nothing but the severity. -/
theorem Violation.clamp_eq (declared : Severity) (v : Violation) :
    v.clamp declared = { v with severity := (v.clamp declared).severity } := by
  unfold clamp
  split <;> rfl

/-- What is clamped to a severity that does not block does not block. -/
theorem Violation.isBlocking_clamp {declared : Severity} (mild : declared.isBlocking = false) (v : Violation) :
    (v.clamp declared).isBlocking = false := by
  unfold clamp isBlocking
  split
  · next le => cases h : v.severity <;> cases declared <;> simp_all [Severity.rank, Severity.isBlocking]
  · exact mild

/-- A rule that does not block counts as failed by a crash alone, and then once. -/
theorem Evaluation.blocking_of_mild {e : Evaluation} (mild : e.rule.severity.isBlocking = false) :
    e.outcome.violations.countP (·.isBlocking) = if e.outcome.faulted then 1 else 0 := by
  obtain ⟨rule, file, result⟩ := e
  cases result with
  | error c => rfl
  | ok vs =>
    show (vs.map (·.clamp rule.severity)).countP (·.isBlocking) = 0
    rw [List.countP_map]
    refine List.countP_eq_zero.2 fun v _ => ?_
    simp [Violation.isBlocking_clamp mild v]

namespace Rule

/-- The outcome of a rule on a bundle. -/
def outcomeOn (rule : Rule) (b : Bundle) : Outcome :=
  (⟨rule, b.path, rule.evaluate (Source.strip b.content) b.content b.path⟩ : Evaluation).outcome

@[simp] theorem outcomeOn_file (rule : Rule) (b : Bundle) : (rule.outcomeOn b).file = b.path := rfl

@[simp] theorem outcomeOn_rule (rule : Rule) (b : Bundle) : (rule.outcomeOn b).rule = rule.name := rfl

@[simp] theorem untimed_outcomeOn (rule : Rule) (b : Bundle) :
    (rule.outcomeOn b).untimed = rule.outcomeOn b := rfl

theorem outcomeOn_ok {rule : Rule} {b : Bundle} {vs : List Violation}
    (result : rule.evaluate (Source.strip b.content) b.content b.path = .ok vs) :
    rule.outcomeOn b =
      { file := b.path, rule := rule.name, status := .ofViolations (vs.map (·.clamp rule.severity))
        violations := vs.map (·.clamp rule.severity) } := by
  unfold outcomeOn
  rw [result]
  rfl

theorem outcomeOn_crash {rule : Rule} {b : Bundle} {c : Crash}
    (raised : rule.evaluate (Source.strip b.content) b.content b.path = .error c) :
    rule.outcomeOn b =
      { file := b.path, rule := rule.name, status := .failed, faulted := true
        violations := [c.violation rule.name b.path] } := by
  unfold outcomeOn
  rw [raised]
  rfl

end Rule

namespace Registry

/-- The outcomes of the applicable rules on each of the bundles. -/
def outcomesOf (r : Registry) (bundles : List Bundle) : List Outcome :=
  bundles.flatMap fun b => (r.applicable b.path).map (·.outcomeOn b)

theorem mem_applicable {r : Registry} {path : String} {rule : Rule} (h : rule ∈ r.applicable path) :
    rule ∈ r.rules :=
  (List.mem_filter.1 h).1

theorem applicable_names_nodup (r : Registry) (path : String) :
    ((r.applicable path).map (·.name)).Nodup :=
  r.names_nodup.sublist (List.filter_sublist.map _)

theorem mem_outcomesOf {r : Registry} {bundles : List Bundle} {o : Outcome} :
    o ∈ r.outcomesOf bundles ↔ ∃ b ∈ bundles, ∃ rule ∈ r.applicable b.path, rule.outcomeOn b = o := by
  simp only [outcomesOf, List.mem_flatMap, List.mem_map]

theorem map_untimed_outcomesOf (r : Registry) (bundles : List Bundle) :
    (r.outcomesOf bundles).map Outcome.untimed = r.outcomesOf bundles := by
  rw [outcomesOf, List.map_flatMap]
  refine List.flatMap_congr fun b _ => ?_
  rw [List.map_map]
  exact List.map_congr_left fun rule _ => rule.untimed_outcomeOn b

theorem outcomes_runFile (r : Registry) (b : Bundle) :
    (r.runFile b).outcomes = (r.applicable b.path).map (·.outcomeOn b) := by
  unfold runFile
  cases applicable : r.applicable b.path with
  | nil => rfl
  | cons rule rules => simp only [FileRun.outcomes, List.map_map]; rfl

theorem outcomes_runIntake (r : Registry) (taken : Intake) (parallel : Bool) (maxWorkers : Int) :
    (r.runIntake taken parallel maxWorkers).files.flatMap (·.outcomes) = r.outcomesOf taken.bundles := by
  show (taken.bundles.map r.runFile).flatMap (·.outcomes) = _
  rw [List.flatMap_map]
  exact List.flatMap_congr fun b _ => r.outcomes_runFile b

theorem capacity_runIntake (r : Registry) (taken : Intake) (parallel : Bool) (maxWorkers : Int) :
    0 < (r.runIntake taken parallel maxWorkers).capacity := by
  unfold Run.capacity
  split
  · show 0 < (max 1 maxWorkers).toNat
    omega
  · exact Nat.one_pos

/-- Whatever the schedule, a run ends with the outcomes of its bundles, each once, and with its faults. -/
theorem ends_runIntake {r : Registry} {taken : Intake} {parallel : Bool} {maxWorkers : Int} {report : Report}
    (ends : (r.runIntake taken parallel maxWorkers).Ends report) :
    ∃ outcomes : List Outcome,
      (outcomes.map Outcome.untimed).Perm (r.outcomesOf taken.bundles) ∧
        report =
          { Report.ofOutcomes outcomes taken.faults taken.bundles.length with
            elapsed := report.elapsed
            parallel := (r.runIntake taken parallel maxWorkers).concurrent
            workers := (r.runIntake taken parallel maxWorkers).capacity
            timestamp := report.timestamp } := by
  obtain ⟨outcomes, perm, report_eq⟩ := ends.report_eq (r.capacity_runIntake taken parallel maxWorkers)
  rw [outcomes_runIntake, map_untimed_outcomesOf] at perm
  have scanned : (r.runIntake taken parallel maxWorkers).files.length = taken.bundles.length :=
    List.length_map _
  rw [scanned] at report_eq
  exact ⟨outcomes, perm, report_eq⟩

end Registry

end BundleAudit

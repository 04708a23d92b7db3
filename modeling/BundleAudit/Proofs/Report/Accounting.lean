import BundleAudit.Attempts
import BundleAudit.Proofs.Report.Recording
import BundleAudit.Report.Document
import Mathlib

/-!
# Two accounts of a run

A report counts violations, while the table of the rules, the tasks of the document and the hints go by
the status of each outcome. For outcomes whose status was found from their violations, as it is for every
evaluation, the two accounts agree (`Report.StatusesAgree`), also where violations were clamped or a rule
crashed.
-/

namespace BundleAudit

/-! ## Outcomes of evaluations -/

/-- The outcome is that of some evaluation, whatever time the evaluation took. -/
def Outcome.IsEvaluated (o : Outcome) : Prop := ∃ e : Evaluation, o.untimed = e.outcome

theorem Outcome.IsEvaluated.status_eq {o : Outcome} (h : o.IsEvaluated) :
    o.status = .ofViolations o.violations := by
  obtain ⟨e, he⟩ := h
  have status : o.status = e.outcome.status := by rw [← he]; rfl
  have violations : o.violations = e.outcome.violations := by rw [← he]; rfl
  rw [status, violations]
  rfl

theorem Status.ofViolations_eq_passed {vs : List Violation} : ofViolations vs = .passed ↔ vs = [] := by
  unfold ofViolations
  cases vs with
  | nil => simp
  | cons v vs => split <;> simp

theorem Status.ofViolations_eq_failed {vs : List Violation} :
    ofViolations vs = .failed ↔ ∃ v ∈ vs, v.isBlocking = true := by
  unfold ofViolations
  rw [← List.any_eq_true]
  cases vs.any (·.isBlocking) with
  | true => simp
  | false => cases vs.isEmpty <;> simp

theorem Violation.isBlocking_iff (v : Violation) : v.isBlocking = true ↔ v.severity ∈ [.high, .medium] := by
  unfold isBlocking
  cases v.severity <;> decide

theorem Violation.not_isBlocking_iff (v : Violation) :
    (!v.isBlocking) = true ↔ v.severity ∈ [.low, .warning] := by
  unfold isBlocking
  cases v.severity <;> decide

namespace Report

/-! ## The table of the rules -/

theorem mem_foldl_distinct (x : String) : ∀ names seen : List String,
    x ∈ names.foldl (fun seen n => if seen.contains n then seen else seen ++ [n]) seen ↔ x ∈ seen ∨ x ∈ names
  | [], seen => by simp
  | n :: names, seen => by
    rw [List.foldl_cons, mem_foldl_distinct x names]
    by_cases held : n ∈ seen
    · simp only [List.contains_iff_mem, held, if_true, List.mem_cons]
      constructor
      · rintro (h | h)
        · exact .inl h
        · exact .inr (.inr h)
      · rintro (h | rfl | h)
        · exact .inl h
        · exact .inl held
        · exact .inr h
    · simp [held, or_assoc]

theorem nodup_foldl_distinct : ∀ names seen : List String, seen.Nodup →
    (names.foldl (fun seen n => if seen.contains n then seen else seen ++ [n]) seen).Nodup
  | [], _, h => h
  | n :: names, seen, h => by
    rw [List.foldl_cons]
    refine nodup_foldl_distinct names _ ?_
    by_cases held : n ∈ seen
    · simpa [held] using h
    · simp only [List.contains_iff_mem, held, if_false]
      refine List.nodup_append.2 ⟨h, by simp, fun a ha b hb e => held ?_⟩
      rw [← List.mem_singleton.1 hb, ← e]
      exact ha

theorem nodup_sortedNames (names : List String) : (sortedNames names).Nodup :=
  (List.mergeSort_perm _ _).nodup_iff.2 (nodup_foldl_distinct names [] List.nodup_nil)

theorem mem_sortedNames {x : String} {names : List String} : x ∈ sortedNames names ↔ x ∈ names := by
  unfold sortedNames
  rw [List.mem_mergeSort, mem_foldl_distinct]
  simp

theorem sum_map_indicator (x : String) : ∀ names : List String,
    (names.map fun n => if x == n then 1 else 0).sum = names.count x
  | [] => rfl
  | n :: names => by
    rw [List.map_cons, List.sum_cons, sum_map_indicator x names, List.count_cons, Nat.add_comm]
    by_cases same : x = n
    · simp [same]
    · simp [same, Ne.symm same]

/-- Counts by name add up to the count of all. -/
theorem sum_countP_filter {names : List String} (nodup : names.Nodup) (p : Outcome → Bool) :
    ∀ os : List Outcome, (∀ o ∈ os, o.rule ∈ names) →
      (names.map fun n => (os.filter (·.rule == n)).countP p).sum = os.countP p
  | [], _ => by simp
  | o :: os, named => by
    have rest := sum_countP_filter nodup p os fun o mem => named o (List.mem_cons_of_mem _ mem)
    have one : (names.map fun n => if o.rule == n && p o then 1 else 0).sum = if p o then 1 else 0 := by
      cases p o with
      | false => simp
      | true =>
        simp only [Bool.and_true, if_true, sum_map_indicator]
        exact List.count_eq_one_of_mem nodup (named o List.mem_cons_self)
    have split : ∀ n, ((o :: os).filter (·.rule == n)).countP p =
        (if o.rule == n && p o then 1 else 0) + (os.filter (·.rule == n)).countP p := by
      intro n
      by_cases same : o.rule = n
      · simp [same, List.countP_cons, Nat.add_comm]
      · simp [same]
    simp only [split, List.sum_map_add, one, rest, List.countP_cons]
    omega

/-- The row of a rule in the table. -/
def ruleCountOf (r : Report) (name : String) : RuleCount :=
  let of := r.outcomes.filter (·.rule == name)
  { rule := name
    passed := of.countP (·.status == .passed)
    failed := of.countP (·.status == .failed)
    warning := of.countP (·.status == .warning) }

theorem ruleCounts_eq (r : Report) :
    r.ruleCounts = (sortedNames (r.outcomes.map (·.rule))).map r.ruleCountOf := rfl

/-- A column that counts some of the outcomes of each rule counts all of them together. -/
theorem sum_ruleCounts (r : Report) (column : RuleCount → Nat) (p : Outcome → Bool)
    (counts : ∀ name, column (r.ruleCountOf name) = (r.outcomes.filter (·.rule == name)).countP p) :
    (r.ruleCounts.map column).sum = r.outcomes.countP p := by
  rw [← sum_countP_filter (nodup_sortedNames (r.outcomes.map (·.rule))) p r.outcomes fun o mem =>
    mem_sortedNames.2 (List.mem_map_of_mem mem)]
  rw [ruleCounts_eq, List.map_map]
  exact congrArg List.sum (List.map_congr_left fun name _ => counts name)

/-- Each outcome has one of the three statuses. -/
theorem countP_statuses (os : List Outcome) :
    os.countP (·.status == .passed) + os.countP (·.status == .failed) + os.countP (·.status == .warning) =
      os.length := by
  induction os with
  | nil => rfl
  | cons o os ih =>
    simp only [List.countP_cons, List.length_cons]
    cases o.status <;> simp <;> omega

/-! ## The document -/

end Report

namespace Json

/-- The value of a field of an object. -/
def field? (name : String) : Json → Option Json
  | .obj fields => fields.lookup name
  | _ => none

def items : Json → List Json
  | .arr items => items
  | _ => []

/-- The tasks of a report document. -/
def tasks (document : Json) : List Json := ((document.field? "tasks").map items).getD []

/-- The verdict of a report document. -/
def verdict? (document : Json) : Option Json := (document.field? "summary").bind (·.field? "success")

end Json

namespace Report

/-- Whatever its time stamp, the document lists the outcomes and tells the verdict. -/
theorem tasks_and_verdict?_document {r : Report} {strict : Bool} {document : Json}
    (h : r.document strict = .ok document) :
    document.tasks = r.sortedOutcomes.map Outcome.toJson ∧
      document.verdict? = some (.bool (r.isSuccess strict)) := by
  obtain ⟨stamp, -, written⟩ := eq_ok_of_bind h
  obtain rfl := Except.ok.inj written
  exact ⟨rfl, rfl⟩

theorem sum_length_violations (r : Report) :
    (r.sortedOutcomes.map (·.violations.length)).sum = (r.outcomes.flatMap (·.violations)).length := by
  rw [List.length_flatMap]
  exact ((List.mergeSort_perm _ _).map _).sum_eq

/-! ## Agreement -/

/-- A report in which nothing has been recorded yet. -/
structure IsFresh (r : Report) : Prop where
  passed : r.passed = 0
  failed : r.failed = 0
  warnings : r.warnings = 0
  violations : r.violations = []
  outcomes : r.outcomes = []

/-- The report holds these outcomes, and its counters count their violations. -/
structure CountsViolations (r : Report) (os : List Outcome) : Prop where
  failed : r.failed = r.violations.countP fun v => v.severity ∈ [.high, .medium]
  warnings : r.warnings = r.violations.countP fun v => v.severity ∈ [.low, .warning]
  passed : r.passed = os.countP (·.violations.isEmpty)
  violations : r.violations = os.flatMap (·.violations)
  outcomes : r.outcomes = os

/-- What the report says by the status of its outcomes is what its counters say. -/
structure StatusesAgree (r : Report) : Prop where
  passed : (r.ruleCounts.map (·.passed)).sum = r.passed
  failed : (∃ c ∈ r.ruleCounts, 0 < c.failed) ↔ 0 < r.failed
  /-- The table of the rules counts each task once. -/
  tasks : ∀ strict document, r.document strict = .ok document →
    (r.ruleCounts.map fun c => c.passed + c.failed + c.warning).sum = document.tasks.length
  /-- The violations of the tasks are those that the counters count. -/
  violations : ∀ strict document, r.document strict = .ok document →
    ∃ numbers : List Nat, document.tasks.map (·.field? "violations") = numbers.map (fun n => some (.int n)) ∧
      numbers.sum = r.failed + r.warnings
  success : ∀ strict, r.isSuccess strict = true ↔
    r.faults = [] ∧ (∀ o ∈ r.outcomes, o.status ≠ .failed) ∧
      (strict = true → ∀ o ∈ r.outcomes, o.status = .passed)

theorem countsViolations_foldl_record {fresh : Report} (h : fresh.IsFresh) (os : List Outcome) :
    (os.foldl record fresh).CountsViolations os := by
  rw [foldl_record]
  obtain ⟨passed, failed, warnings, violations, outcomes⟩ := h
  refine ⟨?_, ?_, ?_, ?_, ?_⟩
  · simp only [failed, violations, Nat.zero_add, List.nil_append]
    exact List.countP_congr fun v _ => by simpa using v.isBlocking_iff
  · simp only [warnings, violations, Nat.zero_add, List.nil_append]
    exact List.countP_congr fun v _ => by simpa using v.not_isBlocking_iff
  · simp only [passed, Nat.zero_add]
  · simp only [violations, List.nil_append]
  · simp only [outcomes, List.nil_append]

section
variable {r : Report} {os : List Outcome} (counts : r.CountsViolations os)
include counts

/-- Every violation is counted as failed or as a warning. -/
theorem CountsViolations.failed_add_warnings : r.failed + r.warnings = (os.flatMap (·.violations)).length := by
  rw [counts.failed, counts.warnings, counts.violations,
    (os.flatMap (·.violations)).length_eq_countP_add_countP fun v => v.severity ∈ [.high, .medium]]
  congr 1
  refine List.countP_congr fun v _ => ?_
  cases v.severity <;> simp

variable (evaluated : ∀ o ∈ os, o.IsEvaluated)
include evaluated

theorem CountsViolations.passed_eq_countP_status : r.passed = os.countP (·.status == .passed) := by
  rw [counts.passed]
  refine List.countP_congr fun o mem => ?_
  rw [(evaluated o mem).status_eq, beq_iff_eq, Status.ofViolations_eq_passed, List.isEmpty_iff]

theorem CountsViolations.failed_pos : 0 < r.failed ↔ ∃ o ∈ os, o.status = .failed := by
  rw [counts.failed, counts.violations, List.countP_pos_iff]
  constructor
  · rintro ⟨v, mem, severe⟩
    obtain ⟨o, ho, hv⟩ := List.mem_flatMap.1 mem
    refine ⟨o, ho, ?_⟩
    rw [(evaluated o ho).status_eq, Status.ofViolations_eq_failed]
    exact ⟨v, hv, v.isBlocking_iff.2 (of_decide_eq_true severe)⟩
  · rintro ⟨o, ho, failed⟩
    rw [(evaluated o ho).status_eq, Status.ofViolations_eq_failed] at failed
    obtain ⟨v, hv, blocks⟩ := failed
    exact ⟨v, List.mem_flatMap.2 ⟨o, ho, hv⟩, decide_eq_true (v.isBlocking_iff.1 blocks)⟩

theorem CountsViolations.failed_eq_zero : r.failed = 0 ↔ ∀ o ∈ os, o.status ≠ .failed := by
  have pos := counts.failed_pos evaluated
  constructor
  · intro zero o mem failed
    have := pos.2 ⟨o, mem, failed⟩
    omega
  · intro none
    by_contra some
    obtain ⟨o, mem, failed⟩ := pos.1 (Nat.pos_of_ne_zero some)
    exact none o mem failed

theorem CountsViolations.nothing_found :
    r.failed = 0 ∧ r.warnings = 0 ↔ ∀ o ∈ os, o.status = .passed := by
  have none : r.failed = 0 ∧ r.warnings = 0 ↔ os.flatMap (·.violations) = [] := by
    rw [← List.length_eq_zero_iff, ← counts.failed_add_warnings]
    omega
  rw [none, List.flatMap_eq_nil_iff]
  refine forall₂_congr fun o mem => ?_
  rw [(evaluated o mem).status_eq, Status.ofViolations_eq_passed]

theorem CountsViolations.isSuccess_iff (strict : Bool) :
    r.isSuccess strict = true ↔
      r.faults = [] ∧ (∀ o ∈ os, o.status ≠ .failed) ∧ (strict = true → ∀ o ∈ os, o.status = .passed) := by
  rw [← counts.failed_eq_zero evaluated, ← counts.nothing_found evaluated]
  unfold isSuccess
  cases r.faults <;> cases strict <;> by_cases zero : r.failed = 0 <;> simp [zero]

theorem CountsViolations.statusesAgree : r.StatusesAgree := by
  have outcomes : r.outcomes = os := counts.outcomes
  refine ⟨?_, ?_, fun strict document h => ?_, fun strict document h => ?_, fun strict => ?_⟩
  · rw [r.sum_ruleCounts (·.passed) (·.status == .passed) fun _ => rfl, outcomes,
      counts.passed_eq_countP_status evaluated]
  · have sum : (r.ruleCounts.map (·.failed)).sum = r.outcomes.countP (·.status == .failed) :=
      r.sum_ruleCounts _ _ fun _ => rfl
    have some := List.sum_pos_iff_exists_pos_nat (l := r.ruleCounts.map (·.failed))
    rw [sum, List.countP_pos_iff, outcomes] at some
    simpa [counts.failed_pos evaluated] using some.symm
  · have sum := r.sum_ruleCounts (fun c => c.passed + c.failed + c.warning) (fun _ => true)
      fun name => by rw [List.countP_true]; exact countP_statuses _
    rw [sum, List.countP_true, (tasks_and_verdict?_document h).1, List.length_map]
    exact (List.mergeSort_perm _ _).length_eq.symm
  · refine ⟨r.sortedOutcomes.map (·.violations.length), ?_, ?_⟩
    · rw [(tasks_and_verdict?_document h).1, List.map_map, List.map_map]
      rfl
    · rw [sum_length_violations, outcomes, counts.failed_add_warnings]
  · rw [outcomes]
    exact counts.isSuccess_iff evaluated strict

end

/-- Whatever outcomes are recorded in a fresh report, its counters count their violations by severity. If
these are outcomes of evaluations, what is told by their status agrees with the counters: the table of the
rules, the tasks of the document and the verdict. -/
theorem counts_violations_and_statuses_agree {fresh : Report} (nothing : fresh.IsFresh) (os : List Outcome) :
    (os.foldl record fresh).CountsViolations os ∧
      ((∀ o ∈ os, o.IsEvaluated) → (os.foldl record fresh).StatusesAgree) :=
  have counts := countsViolations_foldl_record nothing os
  ⟨counts, counts.statusesAgree⟩

/-- A finding that is clamped, a crash, and nothing found. -/
theorem counts_violations_and_statuses_agree_of_clamped :
    let rule : Rule :=
      { name := "r", description := "", severity := .low, appliesTo := ["*"], evaluate := fun _ _ _ => .ok [] }
    let found : Violation := { rule := "r", severity := .high, message := "found", file := "a.js" }
    let os : List Outcome :=
      [{ (⟨rule, "a.js", .ok [found]⟩ : Evaluation).outcome with duration := 0.5 },
       (⟨rule, "b.js", .error ⟨"ValueError", "no reason"⟩⟩ : Evaluation).outcome,
       (⟨rule, "c.js", .ok []⟩ : Evaluation).outcome]
    let r := os.foldl record { faults := [⟨"d.js", "gone"⟩] }
    ({ faults := [⟨"d.js", "gone"⟩] } : Report).IsFresh ∧ (∀ o ∈ os, o.IsEvaluated) ∧
      (r.passed = 1 ∧ r.failed = 1 ∧ r.warnings = 1) ∧ r.CountsViolations os ∧ r.StatusesAgree := by
  intro rule found os r
  have nothing : ({ faults := [⟨"d.js", "gone"⟩] } : Report).IsFresh := ⟨rfl, rfl, rfl, rfl, rfl⟩
  have evaluated : ∀ o ∈ os, o.IsEvaluated := by
    intro o mem
    simp only [os, List.mem_cons, List.not_mem_nil, or_false] at mem
    rcases mem with rfl | rfl | rfl
    · exact ⟨⟨rule, "a.js", .ok [found]⟩, rfl⟩
    · exact ⟨⟨rule, "b.js", .error ⟨"ValueError", "no reason"⟩⟩, rfl⟩
    · exact ⟨⟨rule, "c.js", .ok []⟩, rfl⟩
  obtain ⟨counts, agree⟩ := counts_violations_and_statuses_agree nothing os
  exact ⟨nothing, evaluated, ⟨rfl, rfl, rfl⟩, counts, agree evaluated⟩

end Report

end BundleAudit

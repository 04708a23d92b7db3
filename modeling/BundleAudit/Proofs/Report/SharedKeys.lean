import BundleAudit.Proofs.Report.Advice

/-!
# Kinds that share a key

Advice is given once for each key, and the key of a crash is a text that may be the name of another rule. So if
a rule crashed and the rule that is named like its key found something, then only one of the two is given advice:
the one whose name comes first (`mem_kinds_iff`). There are no other kinds without advice (`advice_of_kinds`).
-/

namespace BundleAudit.Report

/-- Some outcome of the kind did not pass. -/
def IsDue (os : List Outcome) (kind : String × Bool) : Prop := ∃ o ∈ os, o.status ≠ .passed ∧ o.kind = kind

/-- The kinds are the crash of a rule and what is found by the rule that is named like the key of this crash. -/
def Rivals (kind rival : String × Bool) : Prop :=
  ∃ rule : String, kind = (rule, true) ∧ rival = (s!"fault:{rule}", false) ∨
    kind = (s!"fault:{rule}", false) ∧ rival = (rule, true)

theorem Rivals.symm {kind rival : String × Bool} (h : Rivals kind rival) : Rivals rival kind := by
  obtain ⟨rule, ⟨rfl, rfl⟩ | ⟨rfl, rfl⟩⟩ := h
  · exact ⟨rule, .inr ⟨rfl, rfl⟩⟩
  · exact ⟨rule, .inl ⟨rfl, rfl⟩⟩

theorem Rivals.name_ne {kind rival : String × Bool} (h : Rivals kind rival) : kind.1 ≠ rival.1 := by
  obtain ⟨rule, ⟨rfl, rfl⟩ | ⟨rfl, rfl⟩⟩ := h
  · exact (crashKey_ne rule).symm
  · exact crashKey_ne rule

/-- Two kinds have one key only if they are rivals. -/
theorem kindKey_eq_iff {kind rival : String × Bool} :
    kindKey kind = kindKey rival ↔ kind = rival ∨ Rivals kind rival := by
  constructor
  · obtain ⟨rule, crashed⟩ := kind
    obtain ⟨rule', crashed'⟩ := rival
    intro same
    cases crashed with
    | false =>
      cases crashed' with
      | false => exact .inl (congrArg (·, false) same)
      | true => exact .inr ⟨rule', .inr ⟨congrArg (·, false) same, rfl⟩⟩
    | true =>
      cases crashed' with
      | false => exact .inr ⟨rule, .inl ⟨rfl, congrArg (·, false) same.symm⟩⟩
      | true => exact .inl (congrArg (·, true) ((String.append_right_inj _).1 same))
  · rintro (rfl | ⟨rule, ⟨rfl, rfl⟩ | ⟨rfl, rfl⟩⟩)
    · rfl
    · rfl
    · rfl

/-- Advice is given for the kinds that are due, but of two rivals for the one whose name comes first. -/
theorem mem_kinds_iff {os : List Outcome} {kind : String × Bool} :
    kind ∈ kinds os ↔
      IsDue os kind ∧ ∀ rival, Rivals kind rival → IsDue os rival → compare kind.1 rival.1 = .lt := by
  rw [mem_kinds]
  constructor
  · rintro ⟨o, mem, concern, rfl, first⟩
    refine ⟨⟨o, mem, concern, rfl⟩, ?_⟩
    rintro rival rivals ⟨p, mem', concern', rfl⟩
    have le := first p mem' concern' (kindKey_eq_iff.2 (.inr rivals))
    exact (Ordering.isLE_iff_eq_lt_or_eq_eq.1 le).resolve_right fun eq =>
      rivals.name_ne (Std.LawfulEqCmp.eq_of_compare eq)
  · rintro ⟨⟨o, mem, concern, rfl⟩, first⟩
    refine ⟨o, mem, concern, rfl, fun p mem' concern' same => ?_⟩
    rw [hintKey_eq, hintKey_eq] at same
    rcases kindKey_eq_iff.1 same with eq | rivals
    · have rule : o.rule = p.rule := congrArg Prod.fst eq
      rw [ruleOrder, rule]
      exact Std.ReflCmp.isLE_rfl
    · exact Ordering.isLE_of_eq_lt (first p.kind rivals ⟨p, mem', concern', rfl⟩)

/-- Of two rivals that are due exactly one is given advice. -/
theorem not_mem_kinds_of_rivals {os : List Outcome} {kind rival : String × Bool} (rivals : Rivals kind rival)
    (due : IsDue os kind) (due' : IsDue os rival) : ¬ (kind ∈ kinds os ∧ rival ∈ kinds os) := by
  rintro ⟨mem, mem'⟩
  have lt := (mem_kinds_iff.1 mem).2 rival rivals due'
  have gt := (mem_kinds_iff.1 mem').2 kind rivals.symm due
  rw [Std.OrientedCmp.gt_of_lt lt] at gt
  cases gt

/-- Advice is given by rule and once for each kind that is due, unless its rival is due and comes first, and
then once for files that could not be read. It is given for all kinds that are due exactly if no rule crashed while
the rule that is named like the key of the crash found something. -/
theorem advice_of_kinds (r : Report) :
    ∃ given : List (String × Bool),
      r.hints = given.map kindHint ++ (if r.faults.isEmpty then [] else [readFaultHint]) ∧
      given.Nodup ∧ given.Pairwise (fun k l => (compare k.1 l.1).isLE = true) ∧
      (∀ kind, kind ∈ given ↔ IsDue r.outcomes kind ∧
        ∀ rival, Rivals kind rival → IsDue r.outcomes rival → compare kind.1 rival.1 = .lt) ∧
      ((∀ kind, kind ∈ given ↔ IsDue r.outcomes kind) ↔
        ∀ rule, IsDue r.outcomes (rule, true) → ¬ IsDue r.outcomes (s!"fault:{rule}", false)) := by
  refine ⟨kinds r.outcomes, hints_eq r, nodup_kinds _, kinds_sorted _, fun _ => mem_kinds_iff, ?_⟩
  constructor
  · intro all rule crashed found
    have rivals : Rivals (rule, true) (s!"fault:{rule}", false) := ⟨rule, .inl ⟨rfl, rfl⟩⟩
    exact not_mem_kinds_of_rivals rivals crashed found ⟨(all _).2 crashed, (all _).2 found⟩
  · intro apart kind
    refine ⟨fun mem => (mem_kinds_iff.1 mem).1, fun due => mem_kinds_iff.2 ⟨due, fun rival rivals due' => ?_⟩⟩
    obtain ⟨rule, ⟨rfl, rfl⟩ | ⟨rfl, rfl⟩⟩ := rivals
    · exact absurd due' (apart rule due)
    · exact absurd due (apart rule due')

/-- A rule found something, and the rule for whose crashes its name stands crashed. -/
def namedLikeCrash : Report :=
  { outcomes :=
      [{ file := "a.js", rule := "fault:r", status := .failed },
        { file := "a.js", rule := "r", status := .failed, faulted := true }] }

/-- Advice is given for one of the two. -/
theorem hints_of_namedLikeCrash :
    IsDue namedLikeCrash.outcomes ("fault:r", false) ∧ IsDue namedLikeCrash.outcomes ("r", true) ∧
      namedLikeCrash.hints = ["Review the fault:r findings above"] := by
  refine ⟨⟨_, List.mem_cons_self, by decide, rfl⟩, ⟨_, List.mem_cons_of_mem _ List.mem_cons_self, by decide, rfl⟩, ?_⟩
  have sorted : (namedLikeCrash.outcomes.mergeSort fun o p => (ruleOrder o p).isLE) = namedLikeCrash.outcomes :=
    List.mergeSort_of_pairwise (by decide)
  unfold hints
  rw [hinted_eq, concerns, sorted]
  decide

end BundleAudit.Report

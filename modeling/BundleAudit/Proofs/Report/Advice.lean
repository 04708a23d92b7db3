import BundleAudit.Proofs.Firsts
import BundleAudit.Proofs.Report.Accounting
import BundleAudit.Proofs.Report.Findings
import BundleAudit.Proofs.Report.Sheet

/-!
# What advice depends on

Advice is given for each kind of outcome that did not pass: for a rule that found something, and for a rule
that crashed. The kinds for which a report gives advice do not depend on the order in which outcomes were
recorded (`kinds_perm`), and they are listed by rule (`kinds_sorted`). But of the two kinds of one rule that
whose outcome was recorded first comes first (`head?_kinds`). Nothing else that a console report shows depends
on this order, apart from the time that the run took (`opening_perm`, `closing_perm`).
-/

namespace BundleAudit

/-! ## Kinds of outcomes -/

/-- The rule of an outcome, and whether the rule crashed. -/
def Outcome.kind (o : Outcome) : String × Bool := (o.rule, o.faulted)

namespace Report

/-- The order in which advice is given. -/
def ruleOrder (o p : Outcome) : Ordering := compare o.rule p.rule

instance : Std.TransCmp ruleOrder := inferInstanceAs (Std.TransCmp (compareOn Outcome.rule))

/-- The outcomes that did not pass, by rule. -/
def concerns (os : List Outcome) : List Outcome :=
  (os.mergeSort fun o p => (ruleOrder o p).isLE).filter (·.status != .passed)

/-- The other outcome did not pass and is one of the same rule. -/
def sharesRule (o p : Outcome) : Bool := p.status != .passed && ties ruleOrder o p

/-- The kinds of outcomes for which advice is given, in order. -/
def kinds (os : List Outcome) : List (String × Bool) := (hinted os).map Outcome.kind

/-- What two kinds share if advice is given for one of them only. -/
def kindKey (kind : String × Bool) : String := if kind.2 then s!"fault:{kind.1}" else kind.1

/-- The advice for a kind of outcomes. -/
def kindHint (kind : String × Bool) : String := if kind.2 then faultHint kind.1 else ruleHint kind.1

theorem hints_eq (r : Report) :
    r.hints = (kinds r.outcomes).map kindHint ++ if r.faults.isEmpty then [] else [readFaultHint] := by
  unfold hints kinds
  rw [List.map_map]
  rfl

theorem hinted_eq (os : List Outcome) : hinted os = firsts hintKey (concerns os) := by
  have kept := foldl_keep_firsts hintKey (concerns os) []
  simp only [List.any_nil, Bool.not_false, List.filter_true, List.nil_append] at kept
  exact kept

theorem mem_concerns {os : List Outcome} {o : Outcome} : o ∈ concerns os ↔ o ∈ os ∧ o.status ≠ .passed := by
  unfold concerns
  rw [List.mem_filter, List.mem_mergeSort, bne_iff_ne]

theorem concerns_sorted (os : List Outcome) :
    (concerns os).Pairwise fun o p => (ruleOrder o p).isLE = true :=
  (List.pairwise_mergeSort isLE_trans_of_cmp isLE_total_of_cmp os).sublist List.filter_sublist

/-- Of the outcomes of a rule those that did not pass stay in the order of recording. -/
theorem filter_concerns (os : List Outcome) (o : Outcome) :
    (concerns os).filter (ties ruleOrder o) = os.filter (sharesRule o) := by
  unfold concerns
  rw [List.filter_comm, filter_mergeSort, List.filter_filter]
  rfl

theorem hintKey_eq (o : Outcome) : hintKey o = kindKey o.kind := rfl

/-- The key of a crash is not the name of the rule that crashed. -/
theorem crashKey_ne (name : String) : s!"fault:{name}" ≠ name := by
  intro same
  have lengths : (s!"fault:{name}").length = name.length := congrArg String.length same
  rw [String.length_append] at lengths
  have front : (toString "fault:").length = 6 := rfl
  change (toString "fault:").length + name.length = name.length at lengths
  omega

/-- The two kinds of one rule have keys of their own. -/
theorem kind_eq_of_hintKey {o p : Outcome} (rule : o.rule = p.rule) (same : hintKey o = hintKey p) :
    o.kind = p.kind := by
  unfold hintKey at same
  unfold Outcome.kind
  rw [rule] at same ⊢
  cases ho : o.faulted <;> cases hp : p.faulted <;> simp only [ho, hp] at same
  · rfl
  · exact absurd same.symm (crashKey_ne _)
  · exact absurd same (crashKey_ne _)
  · rfl

/-- The advice for a rule that crashed is not the one for what it finds. -/
theorem faultHint_ne_ruleHint (rule : String) : faultHint rule ≠ ruleHint rule := by
  have fault : (faultHint rule).toList[1]? = some 'u' := by
    unfold faultHint
    rw [String.toList_append, String.toList_append]
    rfl
  have literal {cs : List Char} (other : cs[1]? ≠ some 'u') : (String.ofList cs).toList[1]? ≠ some 'u' := by
    rwa [String.toList_ofList]
  have found : (ruleHint rule).toList[1]? ≠ some 'u' := by
    unfold ruleHint
    split
    · exact literal (by decide)
    · exact literal (by decide)
    · exact literal (by decide)
    · exact literal (by decide)
    · exact literal (by decide)
    · rw [String.toList_append, String.toList_append]
      exact fun same => absurd (Option.some.inj same) (by decide)
  intro same
  rw [same] at fault
  exact found fault

/-! ## The order of recording -/

theorem kinds_sorted (os : List Outcome) : (kinds os).Pairwise fun k l => (compare k.1 l.1).isLE = true := by
  unfold kinds
  rw [hinted_eq, List.pairwise_map]
  exact (concerns_sorted os).sublist (firsts_sublist _)

theorem nodup_kinds (os : List Outcome) : (kinds os).Nodup := by
  have keys : ((kinds os).map kindKey).Nodup := by
    unfold kinds
    rw [hinted_eq, List.map_map]
    exact nodup_firsts _
  exact List.Nodup.of_map _ keys

/-- Advice is given for a kind if an outcome of this kind did not pass, unless one of another rule with the same
key comes before it. -/
theorem mem_kinds {os : List Outcome} {kind : String × Bool} :
    kind ∈ kinds os ↔ ∃ o ∈ os, o.status ≠ .passed ∧ o.kind = kind ∧
      ∀ p ∈ os, p.status ≠ .passed → hintKey o = hintKey p → (ruleOrder o p).isLE = true := by
  have least : ∀ {o p : Outcome}, (concerns os).find? (hintKey o == hintKey ·) = some o →
      p ∈ concerns os → hintKey o = hintKey p → (ruleOrder o p).isLE = true := by
    intro o p first mem same
    obtain ⟨-, before, after, split, fresh⟩ := List.find?_eq_some_iff_append.1 first
    have sorted := concerns_sorted os
    rw [split] at mem sorted
    rcases List.mem_append.1 mem with mem | mem
    · simpa [same] using fresh p mem
    · rcases List.mem_cons.1 mem with rfl | mem
      · exact Std.ReflCmp.isLE_rfl
      · exact List.rel_of_pairwise_cons (List.pairwise_append.1 sorted).2.1 mem
  unfold kinds
  rw [hinted_eq, List.mem_map]
  constructor
  · rintro ⟨o, kept, rfl⟩
    have first := mem_firsts.1 kept
    obtain ⟨mem, concern⟩ := mem_concerns.1 (List.mem_of_find?_eq_some first)
    exact ⟨o, mem, concern, rfl, fun p mem concern => least first (mem_concerns.2 ⟨mem, concern⟩)⟩
  · rintro ⟨o, mem, concern, rfl, before⟩
    have some : ((concerns os).find? (hintKey o == hintKey ·)).isSome :=
      List.find?_isSome.2 ⟨o, mem_concerns.2 ⟨mem, concern⟩, beq_self_eq_true _⟩
    obtain ⟨x, first⟩ := Option.isSome_iff_exists.1 some
    have same : hintKey o = hintKey x := by simpa using List.find?_some first
    obtain ⟨mem', concern'⟩ := mem_concerns.1 (List.mem_of_find?_eq_some first)
    have le := before x mem' concern' same
    rw [same] at first
    have ge := least first (mem_concerns.2 ⟨mem, concern⟩) same.symm
    have rule : x.rule = o.rule := Std.LawfulEqCmp.eq_of_compare (Std.OrientedCmp.isLE_antisymm ge le)
    exact ⟨x, mem_firsts.2 first, kind_eq_of_hintKey rule same.symm⟩

theorem kinds_perm {os os' : List Outcome} (perm : os.Perm os') : (kinds os).Perm (kinds os') := by
  refine (List.perm_ext_iff_of_nodup (nodup_kinds os) (nodup_kinds os')).2 fun kind => ?_
  simp only [mem_kinds, perm.mem_iff]

theorem kinds_untimed (os : List Outcome) : kinds (os.map Outcome.untimed) = kinds os := by
  have sorted : (os.mergeSort fun o p => (ruleOrder o p).isLE).map Outcome.untimed =
      (os.map Outcome.untimed).mergeSort fun o p => (ruleOrder o p).isLE :=
    List.map_mergeSort fun _ _ _ _ => rfl
  have same : concerns (os.map Outcome.untimed) = (concerns os).map Outcome.untimed := by
    unfold concerns
    rw [← sorted, List.filter_map]
    rfl
  unfold kinds
  rw [hinted_eq, hinted_eq, same, firsts_map, List.map_map]
  rfl

/-- Of the kinds of one rule that comes first of which an outcome was recorded first. -/
theorem head?_kinds {os : List Outcome} {o : Outcome} {rest : List Outcome}
    (first : os.filter (sharesRule o) = o :: rest)
    (mem : o.kind ∈ kinds os) : ((kinds os).filter (·.1 == o.rule)).head? = some o.kind := by
  rw [← filter_concerns, List.filter_eq_cons_iff] at first
  obtain ⟨before, after, split, fresh, -, -⟩ := first
  have other : ∀ p ∈ before, p.rule ≠ o.rule := fun p hp rule => fresh p hp <| by
    rw [ties_iff, ruleOrder, rule]
    exact Std.ReflCmp.compare_self
  unfold kinds at mem ⊢
  rw [hinted_eq, split, firsts_append] at mem ⊢
  obtain ⟨x, hx, kind⟩ := List.mem_map.1 mem
  have keep : (!(firsts hintKey before).any (hintKey · == hintKey o)) = true := by
    rcases List.mem_append.1 hx with hx | hx
    · exact absurd (congrArg Prod.fst kind) (other x ((firsts_sublist _).subset hx))
    · rw [hintKey_eq o, ← kind]
      exact (List.mem_filter.1 hx).2
  have none : ((firsts hintKey before).map Outcome.kind).filter (·.1 == o.rule) = [] := by
    refine List.filter_eq_nil_iff.2 fun k hk => ?_
    obtain ⟨p, hp, rfl⟩ := List.mem_map.1 hk
    simpa [Outcome.kind] using other p ((firsts_sublist _).subset hp)
  have own : (o.kind.1 == o.rule) = true := beq_self_eq_true _
  rw [firsts, List.map_append, List.filter_append, none, List.nil_append,
    List.filter_cons_of_pos (p := fun a => !(firsts hintKey before).any (hintKey · == hintKey a)) keep,
    List.map_cons, List.filter_cons, if_pos own]
  rfl

theorem kinds_pair {o p : Outcome} (concern : o.status ≠ .passed) (concern' : p.status ≠ .passed)
    (rule : o.rule = p.rule) (other : hintKey o ≠ hintKey p) : kinds [o, p] = [o.kind, p.kind] := by
  have sorted : [o, p].mergeSort (fun o p => (ruleOrder o p).isLE) = [o, p] :=
    List.mergeSort_of_pairwise (by simp [ruleOrder, rule])
  have concerns : concerns [o, p] = [o, p] := by
    unfold Report.concerns
    rw [sorted]
    simp [concern, concern']
  unfold kinds
  rw [hinted_eq, concerns]
  simp [firsts, other]

/-- Kinds in the order of their rules are determined by these and by the advice. -/
theorem kinds_eq_of_hints {ks ls : List (String × Bool)} (perm : ks.Perm ls)
    (sorted : ks.Pairwise fun k l => (compare k.1 l.1).isLE = true)
    (sorted' : ls.Pairwise fun k l => (compare k.1 l.1).isLE = true)
    (same : ks.map kindHint = ls.map kindHint) : ks = ls := by
  have rules : ks.map (·.1) = ls.map (·.1) := by
    have ascending : (ks.map (·.1)).Pairwise fun m n => (compare m n).isLE = true := List.pairwise_map.2 sorted
    refine List.Perm.eq_of_pairwise (fun m n _ _ mn nm => ?_) ascending (List.pairwise_map.2 sorted') (perm.map _)
    exact Std.LawfulEqCmp.eq_of_compare (Std.OrientedCmp.isLE_antisymm mn nm)
  have pairs : ks.map (fun k => (k.1, kindHint k)) = ls.map fun k => (k.1, kindHint k) := by
    rw [← List.zip_map', ← List.zip_map', rules, same]
  refine List.map_injective_iff.2 ?_ pairs
  rintro ⟨rule, crashed⟩ ⟨rule', crashed'⟩ eq
  obtain ⟨rfl, hint⟩ := Prod.mk.inj eq
  cases crashed <;> cases crashed'
  · rfl
  · exact absurd hint.symm (faultHint_ne_ruleHint rule)
  · exact absurd hint (faultHint_ne_ruleHint rule)
  · rfl

/-- If no rule has two kinds, the order of recording does not matter. -/
theorem kinds_eq_of_nodup {os os' : List Outcome} (perm : os.Perm os') (single : ((kinds os).map (·.1)).Nodup) :
    kinds os = kinds os' := by
  refine List.Perm.eq_of_pairwise (fun k l hk hl kl lk => ?_) (kinds_sorted os) (kinds_sorted os') (kinds_perm perm)
  have rule : k.1 = l.1 := Std.LawfulEqCmp.eq_of_compare (Std.OrientedCmp.isLE_antisymm kl lk)
  exact List.inj_on_of_nodup_map single hk ((kinds_perm perm).mem_iff.2 hl) rule

/-! ## The rest of a sheet -/

/-- The report without the time that the run took. -/
def timeless (r : Report) : Report := { r with elapsed := 0.0, timestamp := 0.0 }

/-- What stands before the advice. -/
def opening (r : Report) : List Part :=
  [.text "Bundle Assertion Report".toList] ++
    ([r.timeless.summaryGrid] ++ r.rulesGrids ++ r.violationsGrids ++ r.faultsGrids).map .grid

/-- What stands behind the advice. -/
def closing (r : Report) (strict : Bool) : List Part := [.text (verdictLine (r.isSuccess strict)).toList]

theorem sheet_timeless (r : Report) (strict : Bool) :
    r.timeless.sheet strict = r.opening ++ (adviceLines r.hints).map .text ++ r.closing strict := rfl

theorem sortedNames_perm {names names' : List String} (perm : names.Perm names') :
    sortedNames names = sortedNames names' := by
  refine mergeSort_eq_of_perm ((List.perm_ext_iff_of_nodup (nodup_foldl_distinct names [] .nil)
    (nodup_foldl_distinct names' [] .nil)).2 fun name => ?_)
  rw [mem_foldl_distinct, mem_foldl_distinct, perm.mem_iff]

section
variable {os os' : List Outcome} (faults : List FileFault) (files : Nat)

theorem ruleCounts_perm (perm : os.Perm os') :
    (ofOutcomes os faults files).ruleCounts = (ofOutcomes os' faults files).ruleCounts := by
  rw [ruleCounts_eq, ruleCounts_eq]
  show (sortedNames (os.map (·.rule))).map _ = (sortedNames (os'.map (·.rule))).map _
  rw [sortedNames_perm (perm.map (·.rule))]
  refine List.map_congr_left fun name _ => ?_
  have group : (os.filter (·.rule == name)).Perm (os'.filter (·.rule == name)) := perm.filter _
  unfold ruleCountOf
  simp only [ofOutcomes, group.countP_eq]

theorem ruleCounts_untimed (os : List Outcome) :
    (ofOutcomes (os.map Outcome.untimed) faults files).ruleCounts = (ofOutcomes os faults files).ruleCounts := by
  have row : (ofOutcomes (os.map Outcome.untimed) faults files).ruleCountOf =
      (ofOutcomes os faults files).ruleCountOf := by
    funext name
    unfold ruleCountOf
    simp only [ofOutcomes, List.filter_map, List.countP_map]
    rfl
  rw [ruleCounts_eq, ruleCounts_eq, row]
  simp only [ofOutcomes, List.map_map]
  rfl

theorem opening_perm (perm : os.Perm os') (apart : os.Pairwise fun o p => ¬ SamePair o p)
    (signed : ∀ o ∈ os, Signed o) :
    (ofOutcomes os faults files).opening = (ofOutcomes os' faults files).opening := by
  obtain ⟨passed, failed, warnings⟩ := countAlike_perm perm faults files
  unfold opening summaryGrid timeless rulesGrids violationsGrids
  simp only [passed, failed, warnings, ruleCounts_perm faults files perm,
    sortedViolations_perm perm apart signed faults files]
  rfl

theorem opening_untimed (os : List Outcome) :
    (ofOutcomes (os.map Outcome.untimed) faults files).opening = (ofOutcomes os faults files).opening := by
  obtain ⟨passed, failed, warnings⟩ := countAlike_untimed os faults files
  unfold opening summaryGrid timeless rulesGrids violationsGrids
  simp only [passed, failed, warnings, ruleCounts_untimed, sortedViolations_untimed]
  rfl

theorem closing_perm (perm : os.Perm os') (strict : Bool) :
    (ofOutcomes os faults files).closing strict = (ofOutcomes os' faults files).closing strict := by
  obtain ⟨passed, failed, warnings⟩ := countAlike_perm perm faults files
  unfold closing isSuccess
  rw [failed, warnings]
  rfl

theorem closing_untimed (os : List Outcome) (strict : Bool) :
    (ofOutcomes (os.map Outcome.untimed) faults files).closing strict =
      (ofOutcomes os faults files).closing strict := by
  obtain ⟨passed, failed, warnings⟩ := countAlike_untimed os faults files
  unfold closing isSuccess
  rw [failed, warnings]
  rfl

end

end Report

end BundleAudit

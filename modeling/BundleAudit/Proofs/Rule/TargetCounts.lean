import BundleAudit.Proofs.Regex.Places
import BundleAudit.Proofs.Rule.Tally
import BundleAudit.Rule.BuildTarget

/-!
# Build targets as pieces of text

The check of build targets looks for each target between two quotes, which may differ, and for the token as it is.
Both are pieces of one length, so what is counted are the leftmost places of these pieces, without overlap. This holds
of every target and token, the empty text included, which stands at each place of a script (`counts_targets`).
-/

namespace BundleAudit.BuildTarget

open BundleAudit.Regex

/-- A text is the target between two quotes. -/
def Quotes (target s : List Char) : Prop := ∃ q ∈ ['"', '\''], ∃ q' ∈ ['"', '\''], s = q :: (target ++ [q'])

theorem isPlain_quotedTarget (target : List Char) : (quotedTarget target).IsPlain = true := by
  refine Expr.isPlain_sequence fun e mem => ?_
  simp only [List.mem_cons, List.not_mem_nil, or_false] at mem
  rcases mem with rfl | rfl | rfl
  · rfl
  · exact Expr.isPlain_literal target
  · rfl

theorem accepts_quotedTarget {target before s after : List Char} :
    (quotedTarget target).Accepts before s after ↔ Quotes target s := by
  unfold quotedTarget
  simp only [Expr.accepts_sequence_cons, Expr.accepts_sequence_nil, Expr.accepts_literal]
  constructor
  · rintro ⟨_, _, rfl, ⟨q, rfl, isQuote⟩, _, _, rfl, rfl, _, _, rfl, ⟨q', rfl, isQuote'⟩, rfl⟩
    exact ⟨q, Expr.contains_oneOf.1 isQuote, q', Expr.contains_oneOf.1 isQuote', by simp⟩
  · rintro ⟨q, isQuote, q', isQuote', rfl⟩
    exact ⟨[q], _, rfl, ⟨q, rfl, Expr.contains_oneOf.2 isQuote⟩, target, [q'], rfl, rfl, [q'], [], rfl,
      ⟨q', rfl, Expr.contains_oneOf.2 isQuote'⟩, rfl⟩

theorem length_of_quotes {target s : List Char} (h : Quotes target s) : s.length = target.length + 2 := by
  obtain ⟨q, -, q', -, rfl⟩ := h
  simp

/-- The target stands between two quotes at a place of the script. -/
def TargetAt (target : String) (script : List Char) : Nat → Prop := StandsAt (Quotes target.toList) script

/-- The token stands at a place of the script. -/
def TokenAt (token : String) (script : List Char) : Nat → Prop := StandsAt (· = token.toList) script

theorem countsApart_target (target : String) (script : List Char) :
    CountsApart (TargetAt target script) (target.toList.length + 2)
      ((quotedTarget target.toList).findAll script).length :=
  Expr.countsApart_findAll (isPlain_quotedTarget _) accepts_quotedTarget length_of_quotes script

theorem countsApart_token (token : String) (script : List Char) :
    CountsApart (TokenAt token script) token.toList.length (leftovers token script).length :=
  Expr.countsApart_findAll (Expr.isPlain_literal _) Expr.accepts_literal (congrArg List.length) script

theorem exists_tokenAt_iff {token : String} {script : List Char} :
    (∃ i, TokenAt token script i) ↔ token.toList <:+: script := by
  constructor
  · rintro ⟨_, front, _, back, rfl, rfl, -⟩
    exact ⟨front, back, List.append_assoc _ _ _⟩
  · rintro ⟨front, back, rfl⟩
    exact ⟨front.length, front, _, back, List.append_assoc _ _ _, rfl, rfl⟩

theorem text_of_mem_leftovers {token : String} {script : List Char} {m : Match} (mem : m ∈ leftovers token script) :
    m.text = token.toList :=
  (Expr.standsAt_of_mem_findAll (Expr.isPlain_literal _) Expr.accepts_literal mem).1

/-- What is found of the targets are those that stand in the script, each once with the number of its places. -/
theorem lookup_foundTargets {targets : List String} {script : List Char} {target : String} {n : Nat} :
    (foundTargets targets script).lookup target = some n ↔
      target ∈ targets ∧ (∃ i, TargetAt target script i) ∧
        CountsApart (TargetAt target script) (target.toList.length + 2) n := by
  have counted := countsApart_target target script
  rw [foundTargets, lookup_tally_map]
  refine and_congr_right fun _ => ?_
  constructor
  · rintro ⟨pos, rfl⟩
    exact ⟨counted.pos_iff.1 pos, counted⟩
  · rintro ⟨stands, count⟩
    exact ⟨count.pos_iff.2 stands, counted.unique count⟩

theorem foundTargets_eq_nil_iff {targets : List String} {script : List Char} :
    foundTargets targets script = [] ↔ ∀ target ∈ targets, ¬ ∃ i, TargetAt target script i := by
  rw [foundTargets, tally_eq_nil_iff, List.forall_mem_map]
  refine forall₂_congr fun target _ => ?_
  rw [← (countsApart_target target script).pos_iff, Nat.pos_iff_ne_zero, not_not]

theorem leftovers_eq_nil_iff {token : String} {script : List Char} :
    leftovers token script = [] ↔ ¬ token.toList <:+: script := by
  rw [← exists_tokenAt_iff, ← (countsApart_token token script).pos_iff, List.length_pos_iff, not_not]

/-- The check of build targets as a count of pieces of text. What is found are the targets that stand between quotes
in the script, each with its number of leftmost places. The check passes if there is one and the token stands nowhere.
Otherwise it gives one warning, which, if a target was found, tells the number of leftmost places of the token. -/
structure CountsTargets (p : Profile) (file : String) (cleaned raw : List Char) : Prop where
  found : ∀ target n, (foundTargets (p.list .buildTargets) cleaned).lookup target = some n ↔
    target ∈ p.list .buildTargets ∧ (∃ i, TargetAt target cleaned i) ∧
      CountsApart (TargetAt target cleaned) (target.toList.length + 2) n
  once : ((foundTargets (p.list .buildTargets) cleaned).map (·.1)).Nodup
  passes : (rule p).evaluate cleaned raw file = .ok [] ↔
    (∃ target ∈ p.list .buildTargets, ∃ i, TargetAt target cleaned i) ∧
      ¬ (p.text .buildToken).toList <:+: cleaned
  warns : (rule p).evaluate cleaned raw file ≠ .ok [] →
    ∃ v, (rule p).evaluate cleaned raw file = .ok [v] ∧ v.severity = .warning
  left : (∃ target ∈ p.list .buildTargets, ∃ i, TargetAt target cleaned i) →
    (p.text .buildToken).toList <:+: cleaned →
      ∃ v n, (rule p).evaluate cleaned raw file = .ok [v] ∧ v.matched = p.text .buildToken ∧
        v.message = s!"Found {n} unreplaced {p.text .buildToken} token(s); the define step may not be substituting every occurrence" ∧
        CountsApart (TokenAt (p.text .buildToken) cleaned) (p.text .buildToken).toList.length n

section
variable {token : String} {targets : List String} {cleaned : List Char}

theorem check_of_missing (missed : ¬ ∃ target ∈ targets, ∃ i, TargetAt target cleaned i) (file : String) :
    check token targets cleaned file = [missing token targets file] := by
  have nothing : foundTargets targets cleaned = [] :=
    foundTargets_eq_nil_iff.2 fun target listed stands => missed ⟨target, listed, stands⟩
  rw [check, nothing]
  rfl

variable (found : ∃ target ∈ targets, ∃ i, TargetAt target cleaned i)
include found

theorem not_isEmpty_foundTargets : ¬ (foundTargets targets cleaned).isEmpty = true := by
  rw [List.isEmpty_iff, foundTargets_eq_nil_iff]
  obtain ⟨target, listed, stands⟩ := found
  exact fun none => none target listed stands

theorem check_of_replaced (replaced : ¬ token.toList <:+: cleaned) (file : String) :
    check token targets cleaned file = [] := by
  rw [check, if_neg (not_isEmpty_foundTargets found), leftovers_eq_nil_iff.2 replaced]

theorem check_of_left (left : token.toList <:+: cleaned) (file : String) :
    ∃ first n, check token targets cleaned file = [unreplaced token cleaned file first n] ∧
      first.text = token.toList ∧ CountsApart (TokenAt token cleaned) token.toList.length n := by
  have some : leftovers token cleaned ≠ [] := fun none => leftovers_eq_nil_iff.1 none left
  obtain ⟨first, rest, all⟩ := List.exists_cons_of_ne_nil some
  refine ⟨first, rest.length + 1, ?_, text_of_mem_leftovers (all ▸ List.mem_cons_self), ?_⟩
  · rw [check, if_neg (not_isEmpty_foundTargets found), all]
  · have counted := countsApart_token token cleaned
    rwa [all, List.length_cons] at counted

end

theorem counts_targets (p : Profile) (file : String) (cleaned raw : List Char) : CountsTargets p file cleaned raw := by
  have evaluated (vs : List Violation) : (rule p).evaluate cleaned raw file = .ok vs ↔
      check (p.text .buildToken) (p.list .buildTargets) cleaned file = vs :=
    ⟨Except.ok.inj, congrArg Except.ok⟩
  refine ⟨fun _ _ => lookup_foundTargets, nodup_names_tally _, ?_, ?_, ?_⟩
  · rw [evaluated]
    by_cases found : ∃ target ∈ p.list .buildTargets, ∃ i, TargetAt target cleaned i
    · by_cases left : (p.text .buildToken).toList <:+: cleaned
      · obtain ⟨first, n, result, -⟩ := check_of_left found left file
        simp [result, left]
      · simp [check_of_replaced found left file, found, left]
    · simp [check_of_missing found file, found]
  · intro complains
    simp only [ne_eq, evaluated] at complains ⊢
    by_cases found : ∃ target ∈ p.list .buildTargets, ∃ i, TargetAt target cleaned i
    · by_cases left : (p.text .buildToken).toList <:+: cleaned
      · obtain ⟨first, n, result, -⟩ := check_of_left found left file
        exact ⟨_, result, rfl⟩
      · exact absurd (check_of_replaced found left file) complains
    · exact ⟨_, check_of_missing found file, rfl⟩
  · intro found left
    simp only [evaluated]
    obtain ⟨first, n, result, text, counted⟩ := check_of_left found left file
    refine ⟨_, n, result, ?_, rfl, counted⟩
    show String.ofList first.text = _
    rw [text, String.ofList_toList]

end BundleAudit.BuildTarget

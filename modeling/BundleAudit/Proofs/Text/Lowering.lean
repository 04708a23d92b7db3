import BundleAudit.Text.LetterCase
import Mathlib.Data.List.Infix

/-!
# Texts in lower case

Lower case replaces each character by one or more, and some replacements depend on the text around. But a mark, which
is a quote or a letter of the name that quoted mentions are about, comes from itself or its capital letter alone
(`lowerAt_of_mark`, `notMem_marks_of_lowerAt`). So marks that stand one behind the other in a lower case text do so
in the text itself, in whichever case (`exists_split_of_lowerWithin`).
-/

namespace BundleAudit.Text

/-- Quotes and the letters of the evaluator's name. -/
def marks : List Char := ['"', '\'', '\x60', 'e', 'v', 'a', 'l']

/-! ## Characters -/

theorem toNat_of_mem_marks {c : Char} (mark : c ∈ marks) : 0 < c.toNat ∧ c.toNat < 0x80 := by
  have ascii : ∀ n ∈ marks.map Char.toNat, 0 < n ∧ n < 0x80 := by decide
  exact ascii _ (List.mem_map_of_mem mark)

theorem lowerRuns_apart_marks : ∀ r ∈ lowerRuns, r.last < 0x80 ∨ 0x80 ≤ r.target ∨
    r.first = r.last ∧ r.target ∉ marks.map Char.toNat := by
  decide +kernel

theorem lowerCode_ne_mark {n : Nat} (h : 0x80 ≤ n) {m : Char} (mark : m ∈ marks) : lowerCode n ≠ m.toNat := by
  have ascii := toNat_of_mem_marks mark
  unfold lowerCode
  rw [if_neg (Nat.not_lt.2 h)]
  cases found : lowerRuns.findSome? (·.image? n) with
  | none =>
    show n ≠ m.toNat
    omega
  | some k =>
    show k ≠ m.toNat
    obtain ⟨r, mem, image⟩ := List.exists_of_findSome?_eq_some found
    unfold CaseRun.image? at image
    split at image
    · next within =>
      simp only [Bool.and_eq_true, decide_eq_true_eq, beq_iff_eq] at within
      obtain rfl := Option.some.inj image
      rcases lowerRuns_apart_marks r mem with low | high | ⟨single, apart⟩
      · omega
      · omega
      · have other : r.target ≠ m.toNat := fun same => apart (same ▸ List.mem_map_of_mem mark)
        omega
    · cases image

/-- Only a mark or its capital letter becomes a mark. -/
theorem notMem_marks_of_lowerAt {c : Char} (noMark : c.toLower ∉ marks) (before after : List Char) :
    lowerAt before c after ≠ [] ∧ ∀ d ∈ lowerAt before c after, d ∉ marks := by
  by_cases ascii : c.toNat < 0x80
  · rw [lowerAt_of_ascii ascii]
    exact ⟨List.cons_ne_nil _ _, List.forall_mem_singleton.2 noMark⟩
  · have other : Char.ofNat (lowerCode c.toNat) ∉ marks := by
      intro mark
      by_cases valid : (lowerCode c.toNat).isValidChar
      · refine lowerCode_ne_mark (Nat.le_of_not_lt ascii) mark ?_
        rw [Char.ofNat, dif_pos valid]
        rfl
      · rw [Char.ofNat, dif_neg valid] at mark
        exact absurd mark (by decide)
    unfold lowerAt
    split
    · exact ⟨List.cons_ne_nil _ _, List.forall_mem_cons.2 ⟨by decide, List.forall_mem_singleton.2 (by decide)⟩⟩
    split
    · split
      · exact ⟨List.cons_ne_nil _ _, List.forall_mem_singleton.2 (by decide)⟩
      · exact ⟨List.cons_ne_nil _ _, List.forall_mem_singleton.2 (by decide)⟩
    · exact ⟨List.cons_ne_nil _ _, List.forall_mem_singleton.2 other⟩

theorem lowerAt_of_mark {c : Char} (mark : c.toLower ∈ marks) (before after : List Char) :
    lowerAt before c after = [c.toLower] := by
  refine lowerAt_of_ascii (Nat.lt_of_not_le fun high => ?_) before after
  have ascii := (toNat_of_mem_marks mark).2
  rw [toLower_of_lt (by omega)] at ascii
  omega

/-! ## Texts -/

/-- The lower case of a text that stands between two others, the one before it reversed. -/
def lowerWithin (before : List Char) : (text after : List Char) → List Char
  | [], _ => []
  | c :: text, after => lowerAt before c (text ++ after) ++ lowerWithin (c :: before) text after

theorem lowerOnto_eq : ∀ (text done before : List Char),
    lowerOnto done before text = done.reverse ++ lowerWithin before text []
  | [], done, before => by simp [lowerOnto, lowerWithin]
  | c :: text, done, before => by
    rw [lowerOnto, lowerOnto_eq text, lowerWithin, List.append_nil]
    simp

theorem lower_eq (text : List Char) : lower text = lowerWithin [] text [] := lowerOnto_eq text [] []

theorem lowerWithin_append (after : List Char) : ∀ (before text more : List Char),
    lowerWithin before (text ++ more) after =
      lowerWithin before text (more ++ after) ++ lowerWithin (text.reverse ++ before) more after
  | before, [], more => rfl
  | before, c :: text, more => by
    rw [List.cons_append, lowerWithin, lowerWithin, lowerWithin_append after (c :: before) text more]
    simp

theorem lowerWithin_of_marks (after : List Char) : ∀ (before text : List Char), (∀ c ∈ text, c.toLower ∈ marks) →
    lowerWithin before text after = text.map Char.toLower
  | _, [], _ => rfl
  | before, c :: text, all => by
    obtain ⟨mark, rest⟩ := List.forall_mem_cons.1 all
    rw [lowerWithin, lowerAt_of_mark mark, lowerWithin_of_marks after (c :: before) text rest]
    rfl

theorem lowerWithin_eq_nil {before text after : List Char} (h : lowerWithin before text after = []) : text = [] := by
  cases text with
  | nil => rfl
  | cons c text =>
    obtain ⟨none, -⟩ := List.append_eq_nil_iff.1 h
    by_cases mark : c.toLower ∈ marks
    · rw [lowerAt_of_mark mark] at none
      cases none
    · exact absurd none (notMem_marks_of_lowerAt mark before _).1

theorem exists_rest_of_notMem {α : Type*} {w rest front back : List α} {m : α} (out : m ∉ w)
    (h : w ++ rest = front ++ m :: back) : ∃ front', front = w ++ front' ∧ rest = front' ++ m :: back := by
  rcases List.append_eq_append_iff.1 h with ⟨front', split, rest'⟩ | ⟨within, split, rest'⟩
  · exact ⟨front', split, rest'⟩
  · cases within with
    | nil => exact ⟨[], by rw [split, List.append_nil, List.append_nil], rest'.symm⟩
    | cons d within =>
      obtain ⟨rfl, -⟩ := List.cons.inj rest'
      exact absurd (split ▸ List.mem_append_right front List.mem_cons_self) out

/-- A mark in the lower case of a text comes from one character of the text. -/
theorem exists_split_of_mark {m : Char} (mark : m ∈ marks) (after : List Char) : ∀ {before text front back : List Char},
    lowerWithin before text after = front ++ m :: back → ∃ s c t, text = s ++ c :: t ∧ c.toLower = m ∧
      front = lowerWithin before s (c :: t ++ after) ∧ back = lowerWithin (c :: (s.reverse ++ before)) t after
  | before, [], front, back, h => by simp [lowerWithin] at h
  | before, c :: text, front, back, h => by
    rw [lowerWithin] at h
    have later {front' : List Char} (split : front = lowerAt before c (text ++ after) ++ front')
        (h : lowerWithin (c :: before) text after = front' ++ m :: back) : ∃ s d t, c :: text = s ++ d :: t ∧
          d.toLower = m ∧ front = lowerWithin before s (d :: t ++ after) ∧
            back = lowerWithin (d :: (s.reverse ++ before)) t after := by
      obtain ⟨s, d, t, rfl, lowered, rfl, rfl⟩ := exists_split_of_mark mark after h
      exact ⟨c :: s, d, t, rfl, lowered, by rw [split, lowerWithin, List.append_assoc], by simp⟩
    by_cases isMark : c.toLower ∈ marks
    · rw [lowerAt_of_mark isMark] at h later
      cases front with
      | nil =>
        obtain ⟨lowered, rfl⟩ := List.cons.inj h
        exact ⟨[], c, text, rfl, lowered, rfl, rfl⟩
      | cons d front =>
        obtain ⟨rfl, rest⟩ := List.cons.inj h
        exact later rfl rest
    · have out : m ∉ lowerAt before c (text ++ after) := fun mem =>
        (notMem_marks_of_lowerAt isMark before (text ++ after)).2 m mem mark
      obtain ⟨front', split, h⟩ := exists_rest_of_notMem out h
      exact later split h

/-- Marks at the front of the lower case of a text come from the characters at its front. -/
theorem exists_front_of_marks (after : List Char) : ∀ {ms : List Char} {before text back : List Char},
    (∀ m ∈ ms, m ∈ marks) → lowerWithin before text after = ms ++ back →
      ∃ u t, text = u ++ t ∧ u.map Char.toLower = ms
  | [], _, text, _, _, _ => ⟨[], text, rfl, rfl⟩
  | m :: ms, before, text, back, all, h => by
    obtain ⟨mark, rest⟩ := List.forall_mem_cons.1 all
    have first : lowerWithin before text after = [] ++ m :: (ms ++ back) := h
    obtain ⟨s, c, t, rfl, lowered, none, more⟩ := exists_split_of_mark mark after first
    obtain rfl := lowerWithin_eq_nil none.symm
    obtain ⟨u, t, rfl, lowered'⟩ := exists_front_of_marks after rest more.symm
    exact ⟨c :: u, t, rfl, by rw [List.map_cons, lowered, lowered']⟩

/-- Marks stand one behind the other in the lower case of a text exactly if they do in the text, in any case. -/
theorem isInfix_lowerWithin_iff {m : Char} {ms : List Char} (all : ∀ d ∈ m :: ms, d ∈ marks)
    (before text after : List Char) :
    m :: ms <:+: lowerWithin before text after ↔ m :: ms <:+: text.map Char.toLower := by
  constructor
  · rintro ⟨front, back, h⟩
    obtain ⟨mark, rest⟩ := List.forall_mem_cons.1 all
    rw [List.append_assoc, List.cons_append] at h
    obtain ⟨s, c, t, rfl, lowered, -, more⟩ := exists_split_of_mark mark after h.symm
    obtain ⟨u, t, rfl, lowered'⟩ := exists_front_of_marks after rest more.symm
    refine ⟨s.map Char.toLower, t.map Char.toLower, ?_⟩
    rw [← lowered, ← lowered']
    simp
  · rintro ⟨front, back, h⟩
    obtain ⟨_, t, rfl, front_eq, -⟩ := List.map_eq_append_iff.1 h.symm
    obtain ⟨s, u, rfl, -, lowered⟩ := List.map_eq_append_iff.1 front_eq
    have isMark : ∀ c ∈ u, c.toLower ∈ marks := fun c mem => all _ (lowered ▸ List.mem_map_of_mem mem)
    rw [lowerWithin_append, lowerWithin_append, lowerWithin_of_marks _ _ u isMark, lowered]
    exact ⟨_, _, rfl⟩

end BundleAudit.Text

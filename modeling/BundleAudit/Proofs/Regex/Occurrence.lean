import BundleAudit.Regex.Matching

/-!
# Matches stand in the text

Whatever the expression, the text of a match is a piece of the text that was searched, and it stands where
the match starts (`Expr.isPrefix_drop_of_mem_findAll`).
-/

namespace BundleAudit.Regex

namespace Place

/-- The place behind the text `s`, in front of `after`. -/
def behind (p : Place) (s after : List Char) : Place :=
  { p with before := s.reverse ++ p.before, after := after, offset := p.offset + s.length }

theorem behind_nil {p : Place} {after : List Char} (here : p.after = after) : p.behind [] after = p := by
  subst here
  rfl

theorem behind_behind (p : Place) (s₁ s₂ after after' : List Char) :
    (p.behind s₁ after').behind s₂ after = p.behind (s₁ ++ s₂) after := by
  simp [behind, Nat.add_assoc]

theorem behind_step (p : Place) (c : Char) (s rest after : List Char) :
    (p.step c rest).behind s after = p.behind (c :: s) after :=
  behind_behind p [c] s after rest

end Place

namespace Expr

theorem isPrefix_of_matchHere? {e : Expr} {nonempty : Bool} {p : Place} {m : Match}
    (h : e.matchHere? nonempty p = some m) : m.start = p.offset ∧ m.text <+: p.after := by
  unfold matchHere? at h
  obtain ⟨q, -, rfl⟩ := Option.map_eq_some_iff.1 h
  exact ⟨rfl, List.take_prefix _ _⟩

theorem matchHere?_of_mem_allHere {e : Expr} {p : Place} {m : Match} (h : m ∈ e.allHere p) :
    ∃ nonempty, e.matchHere? nonempty p = some m := by
  unfold allHere at h
  cases first : e.matchHere? false p with
  | none => simp [first] at h
  | some n =>
    simp only [first] at h
    split at h
    · rcases List.mem_cons.1 h with rfl | second
      · exact ⟨false, first⟩
      · exact ⟨true, Option.mem_toList.1 second⟩
    · rw [List.mem_singleton.1 h]
      exact ⟨false, first⟩

/-- Each match is one at some place of the text. -/
theorem exists_place_of_mem_findAllFrom (e : Expr) : ∀ (rest : List Char) (skip : Nat) (p : Place),
    p.after = rest → ∀ m ∈ e.findAllFrom rest skip p,
      ∃ front back nonempty, rest = front ++ back ∧ e.matchHere? nonempty (p.behind front back) = some m
  | [], _, p, here, m, mem => by
    obtain ⟨nonempty, matched⟩ := matchHere?_of_mem_allHere (show m ∈ e.allHere p from mem)
    exact ⟨[], [], nonempty, rfl, by rwa [Place.behind_nil here]⟩
  | c :: rest, skip, p, here, m, mem => by
    have later : ∀ skip, m ∈ e.findAllFrom rest skip (p.step c rest) → ∃ front back nonempty,
        c :: rest = front ++ back ∧ e.matchHere? nonempty (p.behind front back) = some m := by
      intro skip mem
      obtain ⟨front, back, nonempty, split, matched⟩ :=
        exists_place_of_mem_findAllFrom e rest skip (p.step c rest) rfl m mem
      rw [Place.behind_step] at matched
      exact ⟨c :: front, back, nonempty, by rw [split, List.cons_append], matched⟩
    cases skip with
    | succ skip => exact later skip mem
    | zero =>
      unfold findAllFrom at mem
      split at mem
      · exact later 0 mem
      · rcases List.mem_append.1 mem with first | behind
        · obtain ⟨nonempty, matched⟩ := matchHere?_of_mem_allHere first
          exact ⟨[], c :: rest, nonempty, rfl, by rwa [Place.behind_nil here]⟩
        · exact later _ behind

theorem exists_place_of_mem_findAll {e : Expr} {text : List Char} {m : Match} (h : m ∈ e.findAll text) :
    ∃ front back nonempty, text = front ++ back ∧
      e.matchHere? nonempty ((Place.start text).behind front back) = some m :=
  exists_place_of_mem_findAllFrom e text 0 (Place.start text) rfl m h

theorem isPrefix_drop_of_mem_findAll {e : Expr} {text : List Char} {m : Match} (h : m ∈ e.findAll text) :
    m.text <+: text.drop m.start := by
  obtain ⟨front, back, nonempty, rfl, matched⟩ := exists_place_of_mem_findAll h
  obtain ⟨start, piece⟩ := isPrefix_of_matchHere? matched
  have offset : m.start = front.length := start.trans (Nat.zero_add _)
  rw [offset, List.drop_left]
  exact piece

theorem isInfix_of_mem_findAll {e : Expr} {text : List Char} {m : Match} (h : m ∈ e.findAll text) :
    m.text <:+: text :=
  (isPrefix_drop_of_mem_findAll h).isInfix.trans (List.drop_suffix _ _).isInfix

end Expr

end BundleAudit.Regex

import BundleAudit.Source.Location
import Mathlib.Data.List.Chain

/-!
# Words and the blanks between them

The words of a text hold its characters that are not blank, each once and in order, and none of them is empty.
So a text that is put together from its words again starts and ends with a word, and has one blank between two
of them (`SingleSpaced.fields`).
-/

namespace BundleAudit.Text

/-! ## The words of a text -/

theorem flatten_growWord (c : Char) (ws : List (List Char)) : (growWord c ws).flatten = c :: ws.flatten := by
  cases ws with
  | nil => rfl
  | cons w ws => rfl

theorem ne_nil_of_mem_growWord {c : Char} {ws : List (List Char)} (nonempty : ∀ w ∈ ws, w ≠ []) :
    ∀ w ∈ growWord c ws, w ≠ [] := by
  cases ws with
  | nil => simp [growWord]
  | cons v ws =>
    intro w mem
    rcases List.mem_cons.1 mem with rfl | mem
    · simp
    · exact nonempty w (List.mem_cons_of_mem v mem)

/-- The characters of the words are those of the text that are not blank. -/
theorem flatten_fields (s : List Char) : (fields s).flatten = s.filter (!isBlank ·) := by
  unfold fields
  induction s with
  | nil => rfl
  | cons c s ih =>
    simp only [fieldsFrom]
    by_cases blank : isBlank c = true
    · rw [if_pos blank, ih, List.filter_cons_of_neg (by simp [blank])]
    · rw [if_neg blank, List.filter_cons_of_pos (by simp [blank]), ← ih]
      split
      · exact flatten_growWord c _
      · rfl

theorem ne_nil_of_mem_fields (s : List Char) : ∀ w ∈ fields s, w ≠ [] := by
  unfold fields
  induction s with
  | nil => simp [fieldsFrom]
  | cons c s ih =>
    simp only [fieldsFrom]
    split
    · exact ih
    · split
      · exact ne_nil_of_mem_growWord ih
      · intro w mem
        rcases List.mem_cons.1 mem with rfl | mem
        · simp
        · exact ih w mem

theorem isBlank_of_mem_fields {s w : List Char} (mem : w ∈ fields s) : ∀ c ∈ w, isBlank c = false := by
  intro c inside
  have kept : c ∈ (fields s).flatten := List.mem_flatten.2 ⟨w, mem, inside⟩
  rw [flatten_fields] at kept
  simpa using (List.mem_filter.1 kept).2

/-! ## Words put together -/

open BundleAudit.Source

/-- No blank stands at an end of the text, and no two blanks stand beside each other. -/
structure SingleSpaced (s : List Char) : Prop where
  first : ∀ c ∈ s.head?, isBlank c = false
  last : ∀ c ∈ s.getLast?, isBlank c = false
  between : s.IsChain fun c d => isBlank c = false ∨ isBlank d = false

theorem SingleSpaced.word {w : List Char} (solid : ∀ c ∈ w, isBlank c = false) : SingleSpaced w := by
  refine ⟨fun c mem => solid c (List.mem_of_mem_head? mem), fun c mem => solid c (List.mem_of_mem_getLast? mem), ?_⟩
  refine (List.pairwise_of_forall_mem_list fun c mem d _ => ?_).isChain
  exact .inl (solid c mem)

/-- A word in front of a text of words, with a blank between them. -/
theorem SingleSpaced.append {w s : List Char} (nonempty : w ≠ []) (solid : ∀ c ∈ w, isBlank c = false)
    (some : s ≠ []) (rest : SingleSpaced s) : SingleSpaced (w ++ ' ' :: s) := by
  have front := SingleSpaced.word solid
  refine ⟨?_, ?_, ?_⟩
  · intro c mem
    rw [List.head?_append_of_ne_nil _ nonempty] at mem
    exact front.first c mem
  · intro c mem
    rw [List.getLast?_append_of_ne_nil _ (List.cons_ne_nil ' ' s), List.getLast?_cons_of_ne_nil some] at mem
    exact rest.last c mem
  · refine front.between.append (rest.between.cons fun c mem => .inr (rest.first c mem)) ?_
    intro c mem _ _
    exact .inl (front.last c mem)

theorem joinWords_cons_cons (w v : List Char) (ws : List (List Char)) :
    joinWords (w :: v :: ws) = w ++ ' ' :: joinWords (v :: ws) := by
  simp [joinWords]

theorem joinWords_ne_nil {w : List Char} (nonempty : w ≠ []) (ws : List (List Char)) : joinWords (w :: ws) ≠ [] := by
  cases ws with
  | nil => simpa [joinWords] using nonempty
  | cons v ws => simp [joinWords_cons_cons]

theorem singleSpaced_joinWords : ∀ {ws : List (List Char)}, (∀ w ∈ ws, w ≠ []) →
    (∀ w ∈ ws, ∀ c ∈ w, isBlank c = false) → SingleSpaced (joinWords ws)
  | [], _, _ => .word (by simp [joinWords])
  | [w], _, solid => by
    have alone : joinWords [w] = w := by simp [joinWords]
    rw [alone]
    exact .word (solid w List.mem_cons_self)
  | w :: v :: ws, nonempty, solid => by
    rw [joinWords_cons_cons]
    have rest := singleSpaced_joinWords (fun u mem => nonempty u (List.mem_cons_of_mem w mem))
      fun u mem => solid u (List.mem_cons_of_mem w mem)
    have second : v ≠ [] := nonempty v (List.mem_cons_of_mem w List.mem_cons_self)
    exact .append (nonempty w List.mem_cons_self) (solid w List.mem_cons_self) (joinWords_ne_nil second ws) rest

theorem filter_joinWords : ∀ ws : List (List Char),
    (joinWords ws).filter (!isBlank ·) = ws.flatten.filter (!isBlank ·)
  | [] => rfl
  | [w] => by simp [joinWords]
  | w :: v :: ws => by
    have blank : isBlank ' ' = true := by decide
    rw [joinWords_cons_cons, List.filter_append, List.filter_cons_of_neg (by simp [blank]),
      filter_joinWords (v :: ws), ← List.filter_append]
    rfl

/-- The words of a text with one blank between them. -/
theorem SingleSpaced.fields (s : List Char) : SingleSpaced (joinWords (fields s)) :=
  singleSpaced_joinWords (ne_nil_of_mem_fields s) fun _ mem => isBlank_of_mem_fields mem

theorem filter_joinWords_fields (s : List Char) :
    (joinWords (fields s)).filter (!isBlank ·) = s.filter (!isBlank ·) := by
  rw [filter_joinWords, flatten_fields, List.filter_filter]
  simp only [Bool.and_self]

end BundleAudit.Text

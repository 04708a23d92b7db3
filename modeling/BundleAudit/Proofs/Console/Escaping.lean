import BundleAudit.Proofs.Console.Literal

/-!
# Escaped texts are shown as they were

A text of ordinary characters that is escaped and set in front of a tag is shown as it was before, whatever tags
it has (`Shows.escapeMarkup`). Backslashes are not ordinary: one at the end of an escaped text makes the tag behind
it plain text.
-/

namespace BundleAudit.Console

/-- The character is no backslash and no part of the name of a picture, and it is shown. -/
def IsOrdinary (c : Char) : Prop := c ≠ '\\' ∧ c ≠ ':' ∧ ¬ isControl c

/-- A text with the tags that it opens and closes, and what else of it is shown. -/
inductive Shows : List Char → List (List Char) → List Char → Prop
  | nil : Shows [] [] []
  | plain {c s tags text} : tagAt? (c :: s) = none → IsOrdinary c → Shows s tags text →
      Shows (c :: s) tags (c :: text)
  | tag {s inside after tags text} : tagAt? s = some (0, inside, after) → Shows after tags text →
      Shows s (inside :: tags) text
  | escaped {s inside after tags text} : tagAt? s = some (1, inside, after) → (∀ c ∈ inside, IsOrdinary c) →
      Shows after tags text → Shows s tags ('[' :: (inside ++ ']' :: text))

theorem isOrdinary_bracket : IsOrdinary '[' ∧ IsOrdinary ']' := by
  simp [IsOrdinary, isControl]

theorem Shows.uncontrolled {s text : List Char} {tags : List (List Char)} (h : Shows s tags text) :
    ∀ c ∈ text, ¬ isControl c := by
  induction h with
  | nil => exact List.forall_mem_nil _
  | plain _ ordinary _ ih => exact List.forall_mem_cons.2 ⟨ordinary.2.2, ih⟩
  | tag _ _ ih => exact ih
  | escaped _ ordinary _ ih =>
    refine List.forall_mem_cons.2 ⟨isOrdinary_bracket.1.2.2, List.forall_mem_append.2 ⟨?_, ?_⟩⟩
    · exact fun c mem => (ordinary c mem).2.2
    · exact List.forall_mem_cons.2 ⟨isOrdinary_bracket.2.2.2, ih⟩

theorem Shows.tags {s text : List Char} {tags : List (List Char)} (h : Shows s tags text) : Tags s tags := by
  induction h with
  | nil => exact .nil
  | plain none _ _ ih => exact .plain none ih
  | tag some _ ih => exact .tag some ih
  | escaped some _ _ ih => exact .tag some ih

/-! ## Rendering -/

section
variable {picture? : List Char → Option (List Char)} {s text : List Char}

theorem shown_plain (ordinary : ∀ c ∈ s, IsOrdinary c) : Piece.shown picture? (.plain s) = s := by
  have unescaped : ¬ ['\\', '['] <:+: s := fun part => (ordinary _ (part.subset List.mem_cons_self)).1 rfl
  have noPicture : ':' ∉ s := fun mem => (ordinary _ mem).2.1 rfl
  rw [Piece.shown, unescapeBrackets_eq_self unescaped, withPictures, replaceNames_of_notMem _ noPicture]

theorem flatMap_shown_ofPlain (ordinary : ∀ c ∈ s, IsOrdinary c) : (ofPlain s).flatMap (Piece.shown picture?) = s := by
  cases s with
  | nil => rfl
  | cons c s => exact (List.append_nil _).trans (shown_plain ordinary)

/-- What is shown of a text behind plain text. -/
theorem Shows.flatMap_shown {tags : List (List Char)} (h : Shows s tags text) :
    ∀ {fuel : Nat} {plain : List Char}, s.length ≤ fuel → (∀ c ∈ plain.reverse, IsOrdinary c) →
      (splitPieces fuel plain s).flatMap (Piece.shown picture?) = plain.reverse ++ text := by
  induction h with
  | nil =>
    intro fuel plain _ ordinary
    rw [List.append_nil]
    cases fuel with
    | zero =>
      rw [splitPieces, List.append_nil]
      exact (List.append_nil _).trans (shown_plain ordinary)
    | succ n => rw [splitPieces_nil, flatMap_shown_ofPlain ordinary]
  | @plain c s tags text none single _ ih =>
    intro fuel plain le ordinary
    obtain ⟨n, rfl⟩ : ∃ n, fuel = n + 1 := ⟨fuel - 1, by simp at le; omega⟩
    have more : ∀ d ∈ (c :: plain).reverse, IsOrdinary d := by
      rw [List.reverse_cons]
      exact List.forall_mem_append.2 ⟨ordinary, List.forall_mem_singleton.2 single⟩
    rw [splitPieces_plain none, ih (Nat.le_of_succ_le_succ le) more]
    simp
  | @tag s inside after tags text some _ ih =>
    intro fuel plain le ordinary
    have shorter := length_of_tagAt? some
    obtain ⟨n, rfl⟩ : ∃ n, fuel = n + 1 := ⟨fuel - 1, by omega⟩
    have later := @ih n [] (by omega) (List.forall_mem_nil _)
    rw [splitPieces_tag some, List.flatMap_append, flatMap_shown_ofPlain ordinary]
    exact congrArg (plain.reverse ++ ·) later
  | @escaped s inside after tags text some inner _ ih =>
    intro fuel plain le ordinary
    have shorter := length_of_tagAt? some
    obtain ⟨n, rfl⟩ : ∃ n, fuel = n + 1 := ⟨fuel - 1, by omega⟩
    have later := @ih n [] (by omega) (List.forall_mem_nil _)
    have bracketed : ∀ c ∈ '[' :: (inside ++ [']']), IsOrdinary c := List.forall_mem_cons.2
      ⟨isOrdinary_bracket.1, List.forall_mem_append.2 ⟨inner, List.forall_mem_singleton.2 isOrdinary_bracket.2⟩⟩
    have here : Piece.shown picture? (.plain ('[' :: (inside ++ [']']))) = _ := shown_plain bracketed
    rw [splitPieces_tag some, List.flatMap_append, flatMap_shown_ofPlain ordinary]
    simp [ofPlain, here, later]

theorem Shows.render {tags : List (List Char)} (h : Shows s tags text) (renderer : Renderer)
    (nested : (nest [] tags).isSome) : renderer.render s = .ok text := by
  obtain ⟨shown, rendered⟩ := renderer.render_isOk h.tags nested
  have whole : shownText renderer.picture? s = dropControls text :=
    congrArg dropControls (h.flatMap_shown (Nat.le_refl _) (List.forall_mem_nil _))
  rw [rendered, renderer.render_eq rendered, whole, dropControls_eq_self h.uncontrolled]

end

/-! ## Composition -/

section
variable {t text : List Char} {tags : List (List Char)}

theorem Shows.append (h : Shows t tags text) {p : List Char} (plain : ∀ c ∈ p, c ≠ '[' ∧ IsOrdinary c) :
    Shows (p ++ t) tags (p ++ text) := by
  induction p with
  | nil => exact h
  | cons c p ih =>
    obtain ⟨bracket, ordinary⟩ := plain c List.mem_cons_self
    have none := tagAt?_plain ordinary.1 bracket (p ++ t)
    exact .plain none ordinary (ih fun d mem => plain d (List.mem_cons_of_mem _ mem))

theorem Shows.behindTag (h : Shows t tags text) {c : Char} {name : List Char} (starts : startsTag c)
    (all : ∀ d ∈ name, d ≠ ']' ∧ d ≠ '[') : Shows ('[' :: (c :: name ++ ']' :: t)) ((c :: name) :: tags) text :=
  .tag (tagAt?_of_tag starts all 0 t) h

theorem Shows.escapeTags (h : Shows ('[' :: t) tags text) : ∀ {fuel : Nat} {s : List Char}, s.length ≤ fuel →
    (∀ c ∈ s, IsOrdinary c) → Shows (Console.escapeTags fuel s ++ '[' :: t) tags (s ++ text)
  | 0, [], _, _ => h
  | _ + 1, [], _, _ => h
  | fuel + 1, d :: s, le, ordinary => by
    cases tag : tagAt? (d :: s) with
    | none =>
      obtain ⟨single, rest⟩ := List.forall_mem_cons.1 ordinary
      have later := h.escapeTags (Nat.le_of_succ_le_succ le) rest
      rw [escapeTags_plain tag, List.cons_append]
      refine .plain ?_ single later
      by_cases bracket : d = '['
      · subst bracket
        exact tagAt?_bracket_escapeTags (splitTag_bracket t) rfl (Nat.le_of_succ_le_succ le) tag
      · exact tagAt?_plain single.1 bracket _
    | some found =>
      obtain ⟨slashes, inside, after⟩ := found
      have shorter := length_of_tagAt? tag
      obtain ⟨e, inside, rfl, starts, all, whole⟩ := tagAt?_eq_some tag
      obtain rfl : slashes = 0 := by
        cases slashes with
        | zero => rfl
        | succ n => exact absurd rfl (ordinary '\\' (by simp [whole, List.replicate_succ])).1
      rw [List.replicate_zero, List.nil_append] at whole
      rw [escapeTags_tag tag]
      rw [whole] at ordinary ⊢
      obtain ⟨inner, rest⟩ := List.forall_mem_append.1 (List.forall_mem_cons.1 ordinary).2
      have later := h.escapeTags (by omega : after.length ≤ fuel) (List.forall_mem_cons.1 rest).2
      simpa using Shows.escaped (tagAt?_of_tag starts all 1 _) inner later

theorem getLast?_escapeTags : ∀ {fuel : Nat} {s : List Char}, s.length ≤ fuel →
    (Console.escapeTags fuel s).getLast? = s.getLast?
  | 0, _, _ => rfl
  | _ + 1, [], _ => rfl
  | fuel + 1, c :: s, le => by
    cases tag : tagAt? (c :: s) with
    | none =>
      rw [escapeTags_plain tag, List.getLast?_cons, List.getLast?_cons,
        getLast?_escapeTags (Nat.le_of_succ_le_succ le)]
    | some found =>
      obtain ⟨slashes, inside, after⟩ := found
      have shorter := length_of_tagAt? tag
      have later := getLast?_escapeTags (by omega : after.length ≤ fuel)
      obtain ⟨d, name, rfl, -, -, whole⟩ := tagAt?_eq_some tag
      rw [escapeTags_tag tag, whole]
      simp [List.getLast?_append, List.getLast?_cons, later]

/-- No backslash is added at the end of a text that has none. -/
theorem escapeMarkup_of_notMem {s : List Char} (h : '\\' ∉ s) :
    Console.escapeMarkup s = Console.escapeTags s.length s := by
  have last : ∀ rest, (Console.escapeTags s.length s).reverse ≠ '\\' :: rest := by
    intro rest eq
    have same := getLast?_escapeTags (Nat.le_refl s.length)
    rw [← List.head?_reverse, eq, List.head?_cons] at same
    exact h (List.mem_of_getLast? same.symm)
  unfold Console.escapeMarkup
  dsimp only
  split
  · rfl
  · next eq => exact absurd eq (last _)
  · rfl

/-- An escaped text in front of a tag is shown as it was. -/
theorem Shows.escapeMarkup (h : Shows ('[' :: t) tags text) {s : List Char} (ordinary : ∀ c ∈ s, IsOrdinary c) :
    Shows (Console.escapeMarkup s ++ '[' :: t) tags (s ++ text) := by
  rw [escapeMarkup_of_notMem fun mem => (ordinary _ mem).1 rfl]
  exact h.escapeTags (Nat.le_refl _) ordinary

end

end BundleAudit.Console

import BundleAudit.Console.Markup

/-!
# The tags of a text

The tags of a text can be read off from its front to its end (`Tags`), and what stands around the text does not matter
if it has no brackets and no backslashes (`tagsOf_between`). An escaped text adds no tag, also where it is set
between tags: at most it takes the closing tag behind it away, if it ends with backslashes.
-/

namespace BundleAudit.Console

/-! ## The tags of a text -/

/-- The tags that a text opens and closes, in order. -/
inductive Tags : List Char → List (List Char) → Prop
  | nil : Tags [] []
  | plain {c s tags} : tagAt? (c :: s) = none → Tags s tags → Tags (c :: s) tags
  | tag {s slashes inside after tags} :
    tagAt? s = some (slashes, inside, after) → Tags after tags →
      Tags s ((if slashes % 2 == 0 then [inside] else []) ++ tags)

theorem splitTag_eq_some : ∀ {s inside after : List Char}, splitTag s = some (inside, after) →
    s = inside ++ ']' :: after ∧ ∀ c ∈ inside, c ≠ ']' ∧ c ≠ '['
  | [], _, _, h => by simp [splitTag] at h
  | c :: s, inside, after, h => by
    unfold splitTag at h
    by_cases close : c = ']'
    · obtain ⟨rfl, rfl⟩ : inside = [] ∧ s = after := by simpa [close, eq_comm] using h
      simp [close]
    · by_cases open' : c = '['
      · simp [open'] at h
      · simp only [beq_iff_eq, close, open', if_false, Option.map_eq_some_iff] at h
        obtain ⟨⟨mid, rest⟩, split, eq⟩ := h
        obtain ⟨rfl, rfl⟩ : c :: mid = inside ∧ rest = after := by simpa using eq
        obtain ⟨rfl, all⟩ := splitTag_eq_some split
        simpa [close, open'] using all

theorem splitTag_of_notMem {s : List Char} (h : ']' ∉ s) : splitTag s = none := by
  cases found : splitTag s with
  | none => rfl
  | some split =>
    obtain ⟨rfl, -⟩ := splitTag_eq_some found
    simp at h

theorem splitTag_append : ∀ {inside : List Char} (after : List Char),
    (∀ c ∈ inside, c ≠ ']' ∧ c ≠ '[') → splitTag (inside ++ ']' :: after) = some (inside, after)
  | [], _, _ => by simp [splitTag]
  | c :: inside, after, all => by
    have rest := splitTag_append after fun d mem => all d (List.mem_cons_of_mem _ mem)
    simp [splitTag, rest, all c (by simp)]

theorem tagAt?_backslash (s : List Char) :
    tagAt? ('\\' :: s) = (tagAt? s).map fun (slashes, tag) => (slashes + 1, tag) := by
  unfold tagAt?
  simp only [List.takeWhile_cons, beq_self_eq_true, if_true, List.length_cons, List.drop_succ_cons]
  split
  · split
    · simp [Function.comp_def]
    · rfl
  · rfl

theorem tagAt?_backslashes (slashes : Nat) (s : List Char) :
    tagAt? (List.replicate slashes '\\' ++ s) = (tagAt? s).map fun (more, tag) => (slashes + more, tag) := by
  induction slashes with
  | zero => simp
  | succ n ih =>
    rw [List.replicate_succ, List.cons_append, tagAt?_backslash, ih, Option.map_map]
    refine Option.map_congr fun x _ => ?_
    simp [Nat.add_right_comm]

theorem tagAt?_plain {c : Char} (slash : c ≠ '\\') (bracket : c ≠ '[') (s : List Char) :
    tagAt? (c :: s) = none := by
  unfold tagAt?
  simp only [List.takeWhile_cons, beq_iff_eq, slash, if_false, List.length_nil, List.drop_zero]
  split
  · next eq => exact absurd (List.cons.inj eq).1 bracket
  · rfl

theorem tagAt?_bracket (c : Char) (s : List Char) :
    tagAt? ('[' :: c :: s) =
      if startsTag c then (splitTag s).map fun (inside, after) => (0, c :: inside, after) else none := rfl

/-- A tag stands behind its backslashes. -/
theorem tagAt?_eq_some : ∀ {s inside after : List Char} {slashes : Nat},
    tagAt? s = some (slashes, inside, after) →
    ∃ c name, inside = c :: name ∧ startsTag c ∧ (∀ d ∈ name, d ≠ ']' ∧ d ≠ '[') ∧
      s = List.replicate slashes '\\' ++ '[' :: (inside ++ ']' :: after)
  | [], _, _, _, h => by simp [tagAt?] at h
  | c :: s, inside, after, slashes, h => by
    by_cases slash : c = '\\'
    · subst slash
      rw [tagAt?_backslash] at h
      obtain ⟨⟨n, inside', after'⟩, rest, eq⟩ := Option.map_eq_some_iff.mp h
      obtain ⟨rfl, rfl, rfl⟩ : n + 1 = slashes ∧ inside' = inside ∧ after' = after := by simpa using eq
      obtain ⟨d, name, rfl, starts, all, rfl⟩ := tagAt?_eq_some rest
      exact ⟨d, name, rfl, starts, all, rfl⟩
    · by_cases bracket : c = '['
      · subst bracket
        cases s with
        | nil => simp [tagAt?] at h
        | cons d s =>
          rw [tagAt?_bracket] at h
          split at h
          · next starts =>
            obtain ⟨⟨name, after'⟩, split, eq⟩ := Option.map_eq_some_iff.mp h
            obtain ⟨rfl, rfl, rfl⟩ : 0 = slashes ∧ d :: name = inside ∧ after' = after := by simpa using eq
            obtain ⟨rfl, all⟩ := splitTag_eq_some split
            exact ⟨d, name, rfl, starts, all, rfl⟩
          · cases h
      · rw [tagAt?_plain slash bracket] at h
        cases h

theorem length_of_tagAt? {s inside after : List Char} {slashes : Nat}
    (h : tagAt? s = some (slashes, inside, after)) : after.length + 2 ≤ s.length := by
  obtain ⟨c, name, rfl, -, -, rfl⟩ := tagAt?_eq_some h
  simp
  omega

theorem tagAt?_of_notMem {s : List Char} (h : '[' ∉ s) : tagAt? s = none := by
  cases tag : tagAt? s with
  | none => rfl
  | some found =>
    obtain ⟨slashes, inside, after⟩ := found
    obtain ⟨c, name, -, -, -, rfl⟩ := tagAt?_eq_some tag
    simp at h

theorem Tags.of_notMem {s : List Char} (h : '[' ∉ s) : Tags s [] := by
  induction s with
  | nil => exact .nil
  | cons c s ih => exact .plain (tagAt?_of_notMem h) (ih fun mem => h (List.mem_cons_of_mem c mem))

theorem tagAt?_of_tag {c : Char} {name : List Char} (starts : startsTag c)
    (all : ∀ d ∈ name, d ≠ ']' ∧ d ≠ '[') (slashes : Nat) (after : List Char) :
    tagAt? (List.replicate slashes '\\' ++ '[' :: (c :: name ++ ']' :: after)) =
      some (slashes, c :: name, after) := by
  rw [tagAt?_backslashes, List.cons_append, tagAt?_bracket, if_pos starts, splitTag_append after all]
  rfl

theorem Tags.append {p t : List Char} {tags : List (List Char)} (h : Tags t tags)
    (plain : ∀ c ∈ p, c ≠ '\\' ∧ c ≠ '[') : Tags (p ++ t) tags := by
  induction p with
  | nil => exact h
  | cons c p ih =>
    obtain ⟨slash, bracket⟩ := plain c (by simp)
    exact .plain (tagAt?_plain slash bracket _) (ih fun d mem => plain d (List.mem_cons_of_mem _ mem))

/-! ## Rendering -/

@[simp] theorem filterMap_tag?_plain (s : List Char) (pieces : List Piece) :
    (.plain s :: pieces).filterMap Piece.tag? = pieces.filterMap Piece.tag? := rfl

@[simp] theorem filterMap_tag?_tag (inside : List Char) (pieces : List Piece) :
    (.tag inside :: pieces).filterMap Piece.tag? = inside :: pieces.filterMap Piece.tag? := rfl

theorem Tags.of_splitPieces {s : List Char} {tags : List (List Char)} (h : Tags s tags) :
    ∀ (fuel : Nat) (plain : List Char), s.length ≤ fuel →
      (splitPieces fuel plain s).filterMap Piece.tag? = tags := by
  induction h with
  | nil =>
    intro fuel plain _
    cases fuel <;> cases plain <;> simp [splitPieces]
  | @plain c s tags none _ ih =>
    intro fuel plain le
    obtain ⟨n, rfl⟩ : ∃ n, fuel = n + 1 := ⟨fuel - 1, by simp at le; omega⟩
    simp only [splitPieces, none]
    exact ih n _ (by simpa using le)
  | @tag s slashes inside after tags some _ ih =>
    intro fuel plain le
    have shorter := length_of_tagAt? some
    obtain ⟨n, rfl⟩ : ∃ n, fuel = n + 1 := ⟨fuel - 1, by omega⟩
    cases s with
    | nil => simp at shorter
    | cons d s =>
      simp only [splitPieces, some, List.filterMap_append, ih n [] (by omega)]
      cases plain <;> cases slashes % 2 == 0 <;> cases List.replicate (slashes / 2) '\\' <;> simp

theorem Tags.tagsOf_eq {s : List Char} {tags : List (List Char)} (h : Tags s tags) : tagsOf s = tags :=
  h.of_splitPieces s.length [] (Nat.le_refl _)

theorem exists_tags : ∀ s : List Char, ∃ tags, Tags s tags
  | [] => ⟨[], .nil⟩
  | c :: s => by
    cases tag : tagAt? (c :: s) with
    | none =>
      obtain ⟨tags, rest⟩ := exists_tags s
      exact ⟨tags, .plain tag rest⟩
    | some found =>
      obtain ⟨slashes, inside, after⟩ := found
      have shorter : after.length < s.length + 1 := Nat.lt_of_succ_lt (length_of_tagAt? tag)
      obtain ⟨tags, rest⟩ := exists_tags after
      exact ⟨_, .tag tag rest⟩
termination_by s => s.length

theorem tags_tagsOf (s : List Char) : Tags s (tagsOf s) := by
  obtain ⟨tags, tagged⟩ := exists_tags s
  rwa [tagged.tagsOf_eq]

section
variable (renderer : Renderer) {s : List Char}

theorem Renderer.render_isOk {tags : List (List Char)} (h : Tags s tags) (nested : (nest [] tags).isSome) :
    ∃ shown, renderer.render s = .ok shown := by
  refine renderer.render_nested ?_
  rwa [h.tagsOf_eq]

theorem Renderer.render_isOk_of_notMem (h : '[' ∉ s) : ∃ shown, renderer.render s = .ok shown :=
  renderer.render_isOk (.of_notMem h) rfl

end

/-! ## Between plain texts -/

theorem splitTag_append_right {tail : List Char} (plain : ']' ∉ tail) : ∀ s : List Char,
    splitTag (s ++ tail) = (splitTag s).map fun (inside, after) => (inside, after ++ tail)
  | [] => splitTag_of_notMem plain
  | c :: s => by
    have ih := splitTag_append_right plain s
    by_cases close : c = ']'
    · simp [splitTag, close]
    · by_cases bracket : c = '['
      · simp [splitTag, bracket]
      · simp [splitTag, close, bracket, ih, Function.comp_def]

section
variable {tail : List Char} (plain : ∀ c ∈ tail, c ≠ '[' ∧ c ≠ ']')
include plain

theorem tagAt?_append_right : ∀ s : List Char,
    tagAt? (s ++ tail) = (tagAt? s).map fun (slashes, inside, after) => (slashes, inside, after ++ tail)
  | [] => tagAt?_of_notMem fun mem => (plain _ mem).1 rfl
  | c :: s => by
    by_cases slash : c = '\\'
    · subst slash
      rw [List.cons_append, tagAt?_backslash, tagAt?_backslash, tagAt?_append_right s]
      simp [Function.comp_def]
    · by_cases bracket : c = '['
      · subst bracket
        have closed : ']' ∉ tail := fun mem => (plain _ mem).2 rfl
        cases s with
        | nil =>
          cases tail with
          | nil => rfl
          | cons d tail =>
            have unclosed := splitTag_of_notMem (List.not_mem_of_not_mem_cons closed)
            rw [List.cons_append, List.nil_append, tagAt?_bracket, unclosed]
            simp [tagAt?]
        | cons d s =>
          rw [List.cons_append, List.cons_append, tagAt?_bracket, tagAt?_bracket, splitTag_append_right closed]
          split <;> simp [Function.comp_def]
      · rw [List.cons_append, tagAt?_plain slash bracket, tagAt?_plain slash bracket]
        rfl

theorem Tags.append_right {s : List Char} {tags : List (List Char)} (h : Tags s tags) :
    Tags (s ++ tail) tags := by
  induction h with
  | nil => exact .of_notMem fun mem => (plain _ mem).1 rfl
  | @plain c s tags none _ ih =>
    have still := tagAt?_append_right plain (c :: s)
    rw [none] at still
    exact .plain still ih
  | @tag s slashes inside after tags some _ ih =>
    refine .tag ?_ ih
    rw [tagAt?_append_right plain, some]
    rfl

theorem tagsOf_between {front : List Char} (plainFront : ∀ c ∈ front, c ≠ '\\' ∧ c ≠ '[') (s : List Char) :
    tagsOf (front ++ (s ++ tail)) = tagsOf s :=
  (((tags_tagsOf s).append_right plain).append plainFront).tagsOf_eq

end

/-! ## Escaping -/

theorem escapeTags_plain {c : Char} {s : List Char} (none : tagAt? (c :: s) = none) (fuel : Nat) :
    escapeTags (fuel + 1) (c :: s) = c :: escapeTags fuel s := by
  simp only [escapeTags, none]

theorem escapeTags_tag {s inside after : List Char} {slashes : Nat}
    (some : tagAt? s = some (slashes, inside, after)) (fuel : Nat) :
    escapeTags (fuel + 1) s =
      List.replicate (2 * slashes + 1) '\\' ++ '[' :: (inside ++ ']' :: escapeTags fuel after) := by
  cases s with
  | nil => simp [tagAt?] at some
  | cons c s => simp only [escapeTags, some]

theorem splitTag_backslashes {s : List Char} (h : splitTag s = none) (slashes : Nat) :
    splitTag (List.replicate slashes '\\' ++ s) = none := by
  induction slashes with
  | zero => exact h
  | succ n ih => simp [List.replicate_succ, splitTag, ih]

theorem splitTag_bracket (s : List Char) : splitTag ('[' :: s) = none := by simp [splitTag]

theorem tagAt?_bracket_backslashes (slashes : Nat) (t : List Char) :
    tagAt? ('[' :: (List.replicate slashes '\\' ++ '[' :: t)) = none := by
  cases slashes with
  | zero => rfl
  | succ n => rfl

section
variable {tail : List Char} (noEnd : splitTag tail = none)
include noEnd

/-- What is no complete tag is none after escaping, unless what stands behind it completes it. -/
theorem splitTag_escapeTags : ∀ {fuel : Nat} {s : List Char}, s.length ≤ fuel → splitTag s = none →
    splitTag (escapeTags fuel s ++ tail) = none
  | 0, [], _, _ => noEnd
  | _ + 1, [], _, _ => noEnd
  | fuel + 1, c :: s, le, open' => by
    cases tag : tagAt? (c :: s) with
    | none =>
      rw [escapeTags_plain tag, List.cons_append]
      by_cases bracket : c = '['
      · simp [bracket, splitTag]
      · have close : c ≠ ']' := by
          rintro rfl
          simp [splitTag] at open'
        have rest : splitTag s = none := by simpa [splitTag, close, bracket] using open'
        have ih := splitTag_escapeTags (Nat.le_of_succ_le_succ le) rest
        simp [splitTag, close, bracket, ih]
    | some found =>
      obtain ⟨n, inside, after⟩ := found
      rw [escapeTags_tag tag, List.append_assoc]
      exact splitTag_backslashes (splitTag_bracket _) _

theorem tagAt?_bracket_escapeTags (noTag : tagAt? ('[' :: tail) = none) {fuel : Nat} {s : List Char}
    (le : s.length ≤ fuel) (free : tagAt? ('[' :: s) = none) :
    tagAt? ('[' :: (escapeTags fuel s ++ tail)) = none := by
  cases s with
  | nil =>
    have nothing : escapeTags fuel [] = [] := by cases fuel <;> rfl
    rw [nothing]
    exact noTag
  | cons c s =>
    obtain ⟨n, rfl⟩ : ∃ n, fuel = n + 1 := ⟨fuel - 1, by simp at le; omega⟩
    cases tag : tagAt? (c :: s) with
    | some found =>
      obtain ⟨m, inside, after⟩ := found
      rw [escapeTags_tag tag, List.append_assoc]
      exact tagAt?_bracket_backslashes _ _
    | none =>
      rw [escapeTags_plain tag, List.cons_append]
      rw [tagAt?_bracket] at free ⊢
      by_cases starts : startsTag c
      · rw [if_pos starts, Option.map_eq_none_iff] at free
        rw [if_pos starts, splitTag_escapeTags noEnd (Nat.le_of_succ_le_succ le) free]
        rfl
      · rw [if_neg starts]

end

section
variable {c : Char} {name t : List Char} (starts : startsTag c) (all : ∀ d ∈ name, d ≠ ']' ∧ d ≠ '[')
include starts all

/-- Where an escaped text has no tag, the next one that is seen stands behind the text. -/
theorem tagAt?_escapeTags (slashes : Nat) : ∀ {fuel : Nat} {s : List Char},
    s.length ≤ fuel → tagAt? s = none →
      tagAt? (escapeTags fuel s ++ (List.replicate slashes '\\' ++ '[' :: (c :: name ++ ']' :: t))) =
          none ∨
        ∃ n, tagAt? (escapeTags fuel s ++
          (List.replicate slashes '\\' ++ '[' :: (c :: name ++ ']' :: t))) = some (n, c :: name, t)
  | 0, [], _, _ => .inr ⟨slashes, tagAt?_of_tag starts all slashes t⟩
  | _ + 1, [], _, _ => .inr ⟨slashes, tagAt?_of_tag starts all slashes t⟩
  | fuel + 1, d :: s, le, free => by
    rw [escapeTags_plain free, List.cons_append]
    by_cases slash : d = '\\'
    · subst slash
      rw [tagAt?_backslash, Option.map_eq_none_iff] at free
      rw [tagAt?_backslash]
      rcases tagAt?_escapeTags slashes (Nat.le_of_succ_le_succ le) free with eq | ⟨n, eq⟩
      · exact .inl (by rw [eq]; rfl)
      · exact .inr ⟨n + 1, by rw [eq]; rfl⟩
    · by_cases bracket : d = '['
      · subst bracket
        exact .inl (tagAt?_bracket_escapeTags (splitTag_backslashes (splitTag_bracket _) slashes)
          (tagAt?_bracket_backslashes slashes _) (Nat.le_of_succ_le_succ le) free)
      · exact .inl (tagAt?_plain slash bracket _)

/-- An escaped text in front of a tag has no tags of its own. Backslashes at its end may make that tag
plain text. -/
theorem Tags.escapeTags {tags : List (List Char)} (h : Tags t tags) (slashes : Nat) :
    ∀ {fuel : Nat} {s : List Char}, s.length ≤ fuel →
      ∃ seen : Bool, Tags
        (Console.escapeTags fuel s ++ (List.replicate slashes '\\' ++ '[' :: (c :: name ++ ']' :: t)))
        ((if seen then [c :: name] else []) ++ tags)
  | 0, [], _ => ⟨_, .tag (tagAt?_of_tag starts all slashes t) h⟩
  | _ + 1, [], _ => ⟨_, .tag (tagAt?_of_tag starts all slashes t) h⟩
  | fuel + 1, d :: s, le => by
    cases tag : tagAt? (d :: s) with
    | none =>
      rcases tagAt?_escapeTags starts all slashes le tag with free | ⟨n, eq⟩
      · obtain ⟨seen, rest⟩ := Tags.escapeTags h slashes (Nat.le_of_succ_le_succ le)
        rw [escapeTags_plain tag] at free ⊢
        exact ⟨seen, .plain free rest⟩
      · exact ⟨_, .tag eq h⟩
    | some found =>
      obtain ⟨n, inside, after⟩ := found
      have shorter := length_of_tagAt? tag
      obtain ⟨e, inside, rfl, starts', all', -⟩ := tagAt?_eq_some tag
      obtain ⟨seen, rest⟩ := Tags.escapeTags h slashes (by omega : after.length ≤ fuel)
      have odd : (2 * n + 1) % 2 = 1 := by omega
      have escaped := Tags.tag (tagAt?_of_tag starts' all' (2 * n + 1) _) rest
      rw [escapeTags_tag tag]
      refine ⟨seen, ?_⟩
      simpa [odd] using escaped

theorem Tags.escapeMarkup {tags : List (List Char)} (h : Tags t tags) (s : List Char) :
    ∃ seen : Bool, Tags (Console.escapeMarkup s ++ '[' :: (c :: name ++ ']' :: t))
      ((if seen then [c :: name] else []) ++ tags) := by
  have none := Tags.escapeTags starts all h 0 (Nat.le_refl s.length)
  have one := Tags.escapeTags starts all h 1 (Nat.le_refl s.length)
  simp only [Console.escapeMarkup]
  split
  · exact none
  · simpa using one
  · exact none

end

/-! ## Escaped texts at the end -/

theorem tagAt?_bracket_slashes (slashes : Nat) : tagAt? ('[' :: List.replicate slashes '\\') = none := by
  cases slashes with
  | zero => rfl
  | succ n => rfl

theorem tagAt?_escapeTags_end (slashes : Nat) : ∀ {fuel : Nat} {s : List Char}, s.length ≤ fuel →
    tagAt? s = none → tagAt? (escapeTags fuel s ++ List.replicate slashes '\\') = none
  | 0, [], _, _ => tagAt?_of_notMem (by simp [escapeTags])
  | _ + 1, [], _, _ => tagAt?_of_notMem (by simp [escapeTags])
  | fuel + 1, d :: s, le, free => by
    rw [escapeTags_plain free, List.cons_append]
    by_cases slash : d = '\\'
    · subst slash
      rw [tagAt?_backslash, Option.map_eq_none_iff] at free ⊢
      exact tagAt?_escapeTags_end slashes (Nat.le_of_succ_le_succ le) free
    · by_cases bracket : d = '['
      · subst bracket
        exact tagAt?_bracket_escapeTags (splitTag_of_notMem (by simp)) (tagAt?_bracket_slashes slashes)
          (Nat.le_of_succ_le_succ le) free
      · exact tagAt?_plain slash bracket _

theorem Tags.escapeTags_end (slashes : Nat) : ∀ {fuel : Nat} {s : List Char}, s.length ≤ fuel →
    Tags (Console.escapeTags fuel s ++ List.replicate slashes '\\') []
  | 0, [], _ => .of_notMem (by simp [Console.escapeTags])
  | _ + 1, [], _ => .of_notMem (by simp [Console.escapeTags])
  | fuel + 1, d :: s, le => by
    cases tag : tagAt? (d :: s) with
    | none =>
      have free := tagAt?_escapeTags_end slashes le tag
      rw [escapeTags_plain tag] at free ⊢
      exact .plain free (Tags.escapeTags_end slashes (Nat.le_of_succ_le_succ le))
    | some found =>
      obtain ⟨n, inside, after⟩ := found
      have shorter := length_of_tagAt? tag
      have ends := Tags.escapeTags_end slashes (by omega : after.length ≤ fuel)
      obtain ⟨e, inside, rfl, starts, all, -⟩ := tagAt?_eq_some tag
      have odd : (2 * n + 1) % 2 = 1 := by omega
      have escaped := Tags.tag (tagAt?_of_tag starts all (2 * n + 1) _) ends
      rw [escapeTags_tag tag]
      simpa [odd] using escaped

/-- An escaped text has no tags. -/
theorem Tags.escapeMarkup_end (s : List Char) : Tags (Console.escapeMarkup s) [] := by
  have none := Tags.escapeTags_end 0 (Nat.le_refl s.length)
  have one := Tags.escapeTags_end 1 (Nat.le_refl s.length)
  rw [List.replicate_zero, List.append_nil] at none
  simp only [Console.escapeMarkup]
  split
  · exact none
  · exact one
  · exact none

end BundleAudit.Console

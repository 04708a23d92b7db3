import BundleAudit.Proofs.Console.Markup

/-!
# Texts that markup leaves as they are

A text is shown as it is if and only if it has no tag, no backslash in front of a bracket and no control character, and
no picture stands for a name in it (`render_eq_self_iff`). Each tag, and each backslash in front of a bracket, takes
an opening bracket or a backslash away, and pictures do not bring any back.
-/

namespace BundleAudit.Console

/-- A tag with its brackets. -/
def IsTag (t : List Char) : Prop :=
  ∃ c name, t = '[' :: c :: (name ++ [']']) ∧ startsTag c ∧ ∀ d ∈ name, d ≠ ']' ∧ d ≠ '['

/-- Nothing in the text means anything but itself. -/
structure Literal (s : List Char) : Prop where
  untagged : ∀ t, t <:+: s → ¬ IsTag t
  unescaped : ¬ ['\\', '['] <:+: s
  uncontrolled : ∀ c ∈ s, ¬ isControl c

theorem exists_isTag_of_tagAt? {s inside after : List Char} {slashes : Nat}
    (h : tagAt? s = some (slashes, inside, after)) : ∃ t, t <:+: s ∧ IsTag t := by
  obtain ⟨c, name, rfl, starts, all, rfl⟩ := tagAt?_eq_some h
  refine ⟨'[' :: c :: (name ++ [']']), ⟨List.replicate slashes '\\', after, ?_⟩, c, name, rfl, starts, all⟩
  simp

/-- A text without tags has none anywhere. -/
theorem tagAt?_of_untagged {s rest : List Char} (untagged : ∀ t, t <:+: s → ¬ IsTag t) (h : rest <:+ s) :
    tagAt? rest = none := by
  cases tag : tagAt? rest with
  | none => rfl
  | some found =>
    obtain ⟨slashes, inside, after⟩ := found
    obtain ⟨t, part, isTag⟩ := exists_isTag_of_tagAt? tag
    exact absurd isTag (untagged t (part.trans h.isInfix))

theorem untagged_of_tagAt? {s : List Char} (h : ∀ rest, rest <:+ s → tagAt? rest = none) :
    ∀ t, t <:+: s → ¬ IsTag t := by
  rintro t ⟨front, back, rfl⟩ ⟨c, name, rfl, starts, all⟩
  have tag := tagAt?_of_tag starts all 0 back
  have none := h ('[' :: (c :: name ++ ']' :: back)) ⟨front, by simp⟩
  rw [List.replicate_zero, List.nil_append, none] at tag
  cases tag

/-! ## Between plain texts -/

theorem infix_of_append_left {α : Type} {d : α} {t front s : List α} (notMem : d ∉ front)
    (h : d :: t <:+: front ++ s) : d :: t <:+: s := by
  induction front with
  | nil => exact h
  | cons c front ih =>
    obtain ⟨other, later⟩ := not_or.1 (mt List.mem_cons.2 notMem)
    rw [List.cons_append, List.infix_cons_iff] at h
    rcases h with here | later'
    · exact absurd (List.cons_prefix_cons.1 here).1 other
    · exact ih later later'

theorem infix_of_append_right {α : Type} {d : α} {t s back : List α} (notMem : d ∉ back)
    (h : t ++ [d] <:+: s ++ back) : t ++ [d] <:+: s := by
  rw [← List.reverse_infix] at h ⊢
  rw [List.reverse_append, List.reverse_append] at h
  rw [List.reverse_append]
  exact infix_of_append_left (by simpa using notMem) h

theorem literal_between {front back s : List Char}
    (plainFront : ∀ c ∈ front, c ≠ '\\' ∧ c ≠ '[' ∧ ¬ isControl c)
    (plainBack : ∀ c ∈ back, c ≠ '[' ∧ c ≠ ']' ∧ ¬ isControl c) :
    Literal (front ++ (s ++ back)) ↔ Literal s := by
  have inner : s <:+: front ++ (s ++ back) := ⟨front, back, by simp⟩
  constructor
  · intro h
    exact ⟨fun t part => h.untagged t (part.trans inner), fun part => h.unescaped (part.trans inner),
      fun c mem => h.uncontrolled c (inner.subset mem)⟩
  · intro h
    refine ⟨?_, fun part => h.unescaped ?_, fun c mem => ?_⟩
    · rintro t part ⟨c, name, rfl, tag⟩
      have later := infix_of_append_left (fun mem => (plainFront _ mem).2.1 rfl) part
      refine h.untagged _ ?_ ⟨c, name, rfl, tag⟩
      exact infix_of_append_right (t := '[' :: c :: name) (fun mem => (plainBack _ mem).2.1 rfl) later
    · have later := infix_of_append_left (fun mem => (plainFront _ mem).1 rfl) part
      exact infix_of_append_right (t := ['\\']) (fun mem => (plainBack _ mem).1 rfl) later
    · rcases List.mem_append.1 mem with inFront | mem
      · exact (plainFront c inFront).2.2
      · rcases List.mem_append.1 mem with inside | inBack
        · exact h.uncontrolled c inside
        · exact (plainBack c inBack).2.2

/-! ## Pictures -/

section
variable {picture? : List Char → Option (List Char)}

theorem splitName_eq_some : ∀ {s name after : List Char}, splitName s = some (name, after) →
    s = name ++ ':' :: after
  | [], _, _, h => by simp [splitName] at h
  | c :: s, name, after, h => by
    unfold splitName at h
    by_cases colon : c = ':'
    · obtain ⟨rfl, rfl⟩ : name = [] ∧ s = after := by simpa [colon, eq_comm] using h
      simp [colon]
    · rw [if_neg (by simpa using colon)] at h
      split at h
      · cases h
      · obtain ⟨⟨mid, rest⟩, split, eq⟩ := Option.map_eq_some_iff.1 h
        obtain ⟨rfl, rfl⟩ : c :: mid = name ∧ rest = after := by simpa using eq
        rw [splitName_eq_some split]
        rfl

theorem replaceNames_of_notMem : ∀ (fuel : Nat) {s : List Char}, ':' ∉ s → replaceNames picture? fuel s = s
  | 0, _, _ => rfl
  | _ + 1, [], _ => rfl
  | fuel + 1, c :: s, notMem => by
    obtain ⟨other, later⟩ := not_or.1 (mt List.mem_cons.2 notMem)
    have colon : ¬ (c == ':') = true := fun same => other (beq_iff_eq.1 same).symm
    unfold replaceNames
    rw [if_neg colon, replaceNames_of_notMem fuel later]

theorem splitName_append_right {tail : List Char} (noColon : ':' ∉ tail) : ∀ s : List Char,
    splitName (s ++ tail) = (splitName s).map fun (name, after) => (name, after ++ tail)
  | [] => by
    show splitName tail = none
    cases found : splitName tail with
    | none => rfl
    | some split => exact absurd (by rw [splitName_eq_some found]; simp) noColon
  | c :: s => by
    have ih := splitName_append_right noColon s
    by_cases colon : c = ':'
    · simp [splitName, colon]
    · by_cases blank : BundleAudit.Text.isBlank c
      · simp [splitName, colon, blank]
      · simp [splitName, colon, blank, ih, Function.comp_def]

theorem replaceNames_append_right {tail : List Char} (noColon : ':' ∉ tail) (more : Nat) :
    ∀ {fuel : Nat} {s : List Char}, s.length ≤ fuel →
      replaceNames picture? (fuel + more) (s ++ tail) = replaceNames picture? fuel s ++ tail
  | 0, [], _ => replaceNames_of_notMem _ noColon
  | _ + 1, [], _ => replaceNames_of_notMem _ noColon
  | fuel + 1, c :: s, le => by
    have next := replaceNames_append_right noColon more (Nat.le_of_succ_le_succ le)
    rw [Nat.add_right_comm, List.cons_append]
    unfold replaceNames
    rw [splitName_append_right noColon]
    cases split : splitName s with
    | none =>
      rw [Option.map_none, next]
      split <;> rfl
    | some found =>
      obtain ⟨name, after⟩ := found
      have shorter := congrArg List.length (splitName_eq_some split)
      simp only [List.length_append, List.length_cons] at shorter le
      have later := replaceNames_append_right noColon more (by omega : after.length ≤ fuel)
      rw [Option.map_some, next]
      simp only [later]
      split <;> simp

theorem replaceNames_append_left {front : List Char} (noColon : ':' ∉ front) (fuel : Nat) (s : List Char) :
    replaceNames picture? (front.length + fuel) (front ++ s) = front ++ replaceNames picture? fuel s := by
  induction front with
  | nil => simp
  | cons c front ih =>
    obtain ⟨other, later⟩ := not_or.1 (mt List.mem_cons.2 noColon)
    have colon : ¬ (c == ':') = true := fun same => other (beq_iff_eq.1 same).symm
    rw [List.length_cons, Nat.add_right_comm, List.cons_append, replaceNames, if_neg colon, ih later]
    rfl

/-- What stands around a text does not matter for the pictures in it if it has no colons. -/
theorem withPictures_between {front tail : List Char} (noColon : ':' ∉ front) (noColon' : ':' ∉ tail) (s : List Char) :
    withPictures picture? (front ++ (s ++ tail)) = front ++ (withPictures picture? s ++ tail) := by
  unfold withPictures
  rw [List.length_append, List.length_append, replaceNames_append_left noColon,
    replaceNames_append_right noColon' _ (Nat.le_refl _)]

/-- Pictures bring no character in, and names take none away, that is in none of them. -/
theorem countP_replaceNames {p : Char → Bool} (colon : p ':' = false)
    (apart : ∀ {name shown : List Char}, picture? name = some shown → ∀ c ∈ name ++ shown, p c = false) :
    ∀ (fuel : Nat) (s : List Char), (replaceNames picture? fuel s).countP p = s.countP p
  | 0, _ => rfl
  | _ + 1, [] => rfl
  | fuel + 1, c :: s => by
    have next := countP_replaceNames colon apart fuel s
    unfold replaceNames
    split
    · next isColon =>
      obtain rfl : c = ':' := beq_iff_eq.1 isColon
      split
      · next name after split =>
        have later := countP_replaceNames colon apart fuel after
        rw [splitName_eq_some split, List.countP_append, later]
        cases found : picture? name with
        | none => simp [colon]
        | some shown =>
          have none : (name ++ shown).countP p = 0 :=
            List.countP_eq_zero.2 fun d mem => Bool.eq_false_iff.1 (apart found d mem)
          rw [List.countP_append, Nat.add_eq_zero_iff] at none
          simp [colon, none]
      · rw [List.countP_cons, List.countP_cons, next]
    · rw [List.countP_cons, List.countP_cons, next]

end

/-! ## What rendering takes away -/

/-- An opening bracket or a backslash. -/
def isMarkup (c : Char) : Bool := c == '[' || c == '\\'

theorem countP_isMarkup_withPictures (renderer : Renderer) (s : List Char) :
    (withPictures renderer.picture? s).countP isMarkup = s.countP isMarkup := by
  refine countP_replaceNames rfl (fun found c mem => ?_) _ _
  obtain ⟨bracket, slash, -⟩ := renderer.picture?_plain found c mem
  simp [isMarkup, bracket, slash]

theorem countP_isControl_withPictures (renderer : Renderer) (s : List Char) :
    (withPictures renderer.picture? s).countP isControl = s.countP isControl := by
  refine countP_replaceNames rfl (fun found c mem => ?_) _ _
  simpa using (renderer.picture?_plain found c mem).2.2

theorem countP_dropControls {s : List Char} : (dropControls s).countP isMarkup = s.countP isMarkup := by
  rw [dropControls, List.countP_filter]
  refine List.countP_congr fun c _ => ?_
  have kept : isMarkup c = true → isControl c = false := by
    intro markup
    simp only [isMarkup, Bool.or_eq_true, beq_iff_eq] at markup
    rcases markup with rfl | rfl <;> decide
  simpa using kept

theorem unescapeBrackets_cons {c : Char} {s : List Char} (h : ¬ ['\\', '['] <+: c :: s) :
    unescapeBrackets (c :: s) = c :: unescapeBrackets s := by
  rw [unescapeBrackets]
  rintro rest rfl rfl
  exact h ⟨rest, rfl⟩

theorem countP_unescapeBrackets_le (s : List Char) : (unescapeBrackets s).countP isMarkup ≤ s.countP isMarkup := by
  fun_induction unescapeBrackets s with
  | case1 rest ih =>
    simp only [List.countP_cons]
    omega
  | case2 c rest other ih =>
    simp only [List.countP_cons]
    omega
  | case3 => exact Nat.le_refl 0

theorem unescapeBrackets_eq_self {s : List Char} (h : ¬ ['\\', '['] <:+: s) : unescapeBrackets s = s := by
  induction s with
  | nil => rfl
  | cons c s ih =>
    rw [List.infix_cons_iff, not_or] at h
    rw [unescapeBrackets_cons h.1, ih h.2]

theorem countP_unescapeBrackets_lt {s : List Char} (h : ['\\', '['] <:+: s) :
    (unescapeBrackets s).countP isMarkup < s.countP isMarkup := by
  induction s with
  | nil => simp at h
  | cons c s ih =>
    by_cases front : ['\\', '['] <+: c :: s
    · obtain ⟨rest, eq⟩ := front
      have le := countP_unescapeBrackets_le rest
      rw [← eq]
      simp [unescapeBrackets, isMarkup] at le ⊢
      omega
    · have later := ih ((List.infix_cons_iff.1 h).resolve_left front)
      rw [unescapeBrackets_cons front, List.countP_cons, List.countP_cons]
      omega

/-! ## Parts -/

/-- The part that a plain text makes up, if it is not empty. -/
def ofPlain (s : List Char) : List Piece := if s.isEmpty then [] else [.plain s]

theorem splitPieces_nil (fuel : Nat) (plain : List Char) :
    splitPieces (fuel + 1) plain [] = ofPlain plain.reverse := by
  simp [splitPieces, ofPlain]

theorem splitPieces_plain {c : Char} {s : List Char} (none : tagAt? (c :: s) = none) (fuel : Nat)
    (plain : List Char) : splitPieces (fuel + 1) plain (c :: s) = splitPieces fuel (c :: plain) s := by
  simp only [splitPieces, none]

theorem splitPieces_tag {s inside after : List Char} {slashes : Nat}
    (some : tagAt? s = some (slashes, inside, after)) (fuel : Nat) (plain : List Char) :
    splitPieces (fuel + 1) plain s = ofPlain plain.reverse ++ (ofPlain (List.replicate (slashes / 2) '\\') ++
      (if slashes % 2 == 0 then .tag inside else .plain ('[' :: (inside ++ [']']))) :: splitPieces fuel [] after) := by
  cases s with
  | nil => simp [tagAt?] at some
  | cons c s => simp [splitPieces, some, ofPlain]

def Piece.text : Piece → List Char
  | .plain s => s
  | .tag _ => []

/-- The markup in the plain parts. -/
def markupOf (pieces : List Piece) : Nat := (pieces.flatMap Piece.text).countP isMarkup

theorem markupOf_append (pieces more : List Piece) : markupOf (pieces ++ more) = markupOf pieces + markupOf more := by
  simp [markupOf]

theorem markupOf_ofPlain (s : List Char) : markupOf (ofPlain s) = s.countP isMarkup := by
  cases s <;> simp [ofPlain, markupOf, Piece.text]

theorem countP_shown_le (renderer : Renderer) : ∀ pieces : List Piece,
    (pieces.flatMap (Piece.shown renderer.picture?)).countP isMarkup ≤ markupOf pieces
  | [] => Nat.le_refl 0
  | .plain s :: pieces => by
    have later := countP_shown_le renderer pieces
    have unescaped := countP_unescapeBrackets_le s
    have pictures := countP_isMarkup_withPictures renderer (unescapeBrackets s)
    simp only [markupOf, List.flatMap_cons, List.countP_append, Piece.shown, Piece.text] at later ⊢
    omega
  | .tag inside :: pieces => countP_shown_le renderer pieces

/-- The markup in the parts from a tag on, by that in the parts behind it. -/
theorem markupOf_splitPieces_tag {fuel : Nat} {s inside after : List Char} {slashes : Nat}
    (tag : tagAt? s = some (slashes, inside, after))
    (le : markupOf (splitPieces fuel [] after) ≤ after.countP isMarkup) (plain : List Char) :
    markupOf (splitPieces (fuel + 1) plain s) < plain.countP isMarkup + s.countP isMarkup := by
  obtain ⟨c, name, rfl, -, -, rfl⟩ := tagAt?_eq_some tag
  rw [splitPieces_tag tag, markupOf_append, markupOf_append, markupOf_ofPlain, markupOf_ofPlain,
    ← List.singleton_append, markupOf_append]
  -- A backslash in front of the tag, or else the tag itself, is not shown.
  cases even : slashes % 2 == 0 with
  | true =>
    simp [markupOf, Piece.text, isMarkup, List.countP_cons, List.countP_replicate] at le ⊢
    omega
  | false =>
    have odd : slashes % 2 = 1 := by simpa using even
    simp [markupOf, Piece.text, isMarkup, List.countP_cons, List.countP_replicate] at le ⊢
    omega

theorem markupOf_splitPieces_le : ∀ (fuel : Nat) (plain s : List Char),
    markupOf (splitPieces fuel plain s) ≤ plain.countP isMarkup + s.countP isMarkup
  | 0, plain, s => by simp [splitPieces, markupOf, Piece.text]
  | _ + 1, plain, [] => by
    rw [splitPieces_nil, markupOf_ofPlain, List.countP_reverse]
    exact Nat.le_refl _
  | fuel + 1, plain, c :: s => by
    cases tag : tagAt? (c :: s) with
    | none =>
      have next := markupOf_splitPieces_le fuel (c :: plain) s
      rw [splitPieces_plain tag]
      simp only [List.countP_cons] at next ⊢
      omega
    | some found =>
      obtain ⟨slashes, inside, after⟩ := found
      have next := markupOf_splitPieces_le fuel [] after
      rw [List.countP_nil, Nat.zero_add] at next
      exact Nat.le_of_lt (markupOf_splitPieces_tag tag next plain)

theorem markupOf_splitPieces_lt : ∀ {fuel : Nat} {s rest : List Char}, s.length ≤ fuel → rest <:+ s →
    tagAt? rest ≠ none → ∀ plain : List Char,
      markupOf (splitPieces fuel plain s) < plain.countP isMarkup + s.countP isMarkup
  | _, [], rest, _, part, tagged, _ => by
    rw [List.suffix_nil.1 part] at tagged
    exact absurd rfl tagged
  | fuel + 1, c :: s, rest, le, part, tagged, plain => by
    cases tag : tagAt? (c :: s) with
    | none =>
      have later := (List.suffix_cons_iff.1 part).resolve_left fun whole => tagged (whole ▸ tag)
      have next := markupOf_splitPieces_lt (Nat.le_of_succ_le_succ le) later tagged (c :: plain)
      rw [splitPieces_plain tag]
      simp only [List.countP_cons] at next ⊢
      omega
    | some found =>
      obtain ⟨slashes, inside, after⟩ := found
      have next := markupOf_splitPieces_le fuel [] after
      rw [List.countP_nil, Nat.zero_add] at next
      exact markupOf_splitPieces_tag tag next plain

theorem splitPieces_of_untagged : ∀ {fuel : Nat} {s : List Char}, s.length ≤ fuel →
    (∀ rest, rest <:+ s → tagAt? rest = none) → ∀ plain : List Char, plain.reverse ++ s ≠ [] →
      splitPieces fuel plain s = [.plain (plain.reverse ++ s)]
  | 0, _, _, _, _, _ => rfl
  | _ + 1, [], _, _, plain, nonempty => by
    rw [List.append_nil] at nonempty ⊢
    rw [splitPieces_nil, ofPlain, if_neg (by simpa using nonempty)]
  | fuel + 1, c :: s, le, untagged, plain, _ => by
    have later : ∀ rest, rest <:+ s → tagAt? rest = none := fun rest part =>
      untagged rest (part.trans (List.suffix_cons c s))
    rw [splitPieces_plain (untagged _ (List.suffix_refl _)),
      splitPieces_of_untagged (Nat.le_of_succ_le_succ le) later _ (by simp)]
    simp

theorem uncontrolled_dropControls {s : List Char} : ∀ c ∈ dropControls s, ¬ isControl c := by
  intro c mem
  simpa using (List.mem_filter.1 mem).2

theorem dropControls_eq_self {s : List Char} (h : ∀ c ∈ s, ¬ isControl c) : dropControls s = s := by
  refine List.filter_eq_self.2 fun c mem => ?_
  simpa using h c mem

/-! ## Rendering -/

/-- What is shown of a text without tags. -/
theorem shownText_of_untagged {picture? : List Char → Option (List Char)} {s : List Char}
    (untagged : ∀ rest, rest <:+ s → tagAt? rest = none) :
    shownText picture? s = dropControls (withPictures picture? (unescapeBrackets s)) := by
  cases s with
  | nil => rfl
  | cons c s =>
    rw [shownText, pieces, splitPieces_of_untagged (Nat.le_refl _) untagged [] (List.cons_ne_nil c s)]
    exact congrArg dropControls (List.append_nil _)

/-- A text is shown as it is exactly if it is literal and names no picture. -/
theorem shownText_eq_self_iff (renderer : Renderer) {s : List Char} :
    shownText renderer.picture? s = s ↔ Literal s ∧ withPictures renderer.picture? s = s := by
  constructor
  · intro h
    have untagged : ∀ rest, rest <:+ s → tagAt? rest = none := by
      intro rest part
      refine Decidable.byContradiction fun tagged => ?_
      have fewer := markupOf_splitPieces_lt (Nat.le_refl _) part tagged []
      have most := countP_shown_le renderer (pieces s)
      rw [List.countP_nil, Nat.zero_add] at fewer
      rw [← countP_dropControls, ← shownText, h] at most
      exact absurd fewer (Nat.not_lt.2 most)
    rw [shownText_of_untagged untagged] at h
    have unescaped : ¬ ['\\', '['] <:+: s := by
      intro escaped
      have fewer := countP_unescapeBrackets_lt escaped
      rw [← countP_isMarkup_withPictures renderer, ← countP_dropControls, h] at fewer
      exact absurd fewer (Nat.lt_irrefl _)
    rw [unescapeBrackets_eq_self unescaped] at h
    have uncontrolled : ∀ c ∈ s, ¬ isControl c := h ▸ uncontrolled_dropControls
    refine ⟨⟨untagged_of_tagAt? untagged, unescaped, uncontrolled⟩, ?_⟩
    have none := countP_isControl_withPictures renderer s
    rw [List.countP_eq_zero.2 uncontrolled, List.countP_eq_zero] at none
    rwa [dropControls_eq_self none] at h
  · rintro ⟨literal, noPicture⟩
    rw [shownText_of_untagged fun rest => tagAt?_of_untagged literal.untagged,
      unescapeBrackets_eq_self literal.unescaped, noPicture, dropControls_eq_self literal.uncontrolled]

theorem tags_of_untagged : ∀ {s : List Char}, (∀ rest, rest <:+ s → tagAt? rest = none) → Tags s []
  | [], _ => .nil
  | c :: s, untagged => .plain (untagged _ (List.suffix_refl _)) <|
    tags_of_untagged fun rest part => untagged rest (part.trans (List.suffix_cons c s))

theorem render_eq_self_iff (renderer : Renderer) {s : List Char} :
    renderer.render s = .ok s ↔ Literal s ∧ withPictures renderer.picture? s = s := by
  rw [← shownText_eq_self_iff]
  constructor
  · exact fun shown => (renderer.render_eq shown).symm
  · intro same
    have literal := ((shownText_eq_self_iff renderer).1 same).1
    obtain ⟨shown, rendered⟩ :=
      renderer.render_isOk (tags_of_untagged fun rest => tagAt?_of_untagged literal.untagged) rfl
    rw [rendered, renderer.render_eq rendered, same]

end BundleAudit.Console

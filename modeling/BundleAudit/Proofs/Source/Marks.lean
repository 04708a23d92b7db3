import BundleAudit.Proofs.Source.Origin
import BundleAudit.Proofs.Source.Stripping

/-!
# What becomes of a piece

Of a comment all characters are dropped, except that the line ends in a block comment become blanks; the
characters of all other pieces are kept (`Piece.marks`). The trace of a script is what becomes of its pieces, one
after the other (`Decomposes.trace_eq`).
-/

namespace BundleAudit.Source

/-- What becomes of a character of a block comment. -/
def blockFate (c : Char) : Fate := if c == '\n' then .blank else .dropped

/-- The characters of a piece with what becomes of them. -/
def Piece.marks : Piece → List (Char × Fate)
  | .lineComment body => (Piece.lineComment body).text.map (·, .dropped)
  | .blockComment body closed => (Piece.blockComment body closed).text.map fun c => (c, blockFate c)
  | p => p.text.map (·, .kept)

theorem Piece.map_fst_marks (p : Piece) : p.marks.map (·.1) = p.text := by
  cases p <;> simp [marks, Function.comp_def]

namespace Scan

theorem trace_cons {s : Scan} {c : Char} {rest : List Char}
    (single : ∀ d ∈ rest.head?, s.readPair? c d = none) :
    s.trace (c :: rest) = (c, s.fate c) :: (s.read c).trace rest := by
  cases rest with
  | nil => rfl
  | cons d rest => simp [trace, single d rfl]

theorem trace_pair {s t : Scan} {c d : Char} (pair : s.readPair? c d = some t) (rest : List Char) :
    s.trace (c :: d :: rest) = (c, .dropped) :: (d, .dropped) :: t.trace rest := by
  simp [trace, pair]

/-- Characters of which none is read as one of a pair. What becomes of each depends on the scan that has read
those before it. -/
theorem trace_body (fate : Char → Fate) (rest : List Char) : ∀ (body : List Char) (s : Scan),
    (∀ before c after, body = before ++ c :: after →
      (s.run before).fate c = fate c ∧ ∀ d ∈ (after ++ rest).head?, (s.run before).readPair? c d = none) →
    s.trace (body ++ rest) = body.map (fun c => (c, fate c)) ++ (s.run body).trace rest
  | [], _, _ => rfl
  | c :: body, s, each => by
    obtain ⟨here, single⟩ : s.fate c = fate c ∧ ∀ d ∈ (body ++ rest).head?, s.readPair? c d = none :=
      each [] c body rfl
    have next : ∀ before after, body = before ++ after → (s.read c).run before = s.run (c :: before) := by
      intro before after split
      refine (run_cons fun d first => single d ?_).symm
      rw [Option.mem_def] at first ⊢
      rw [split, List.append_assoc, List.head?_append, first, Option.some_or]
    rw [List.cons_append, trace_cons single, here, List.map_cons, List.cons_append, ← next body [] (by simp),
      trace_body fate rest body (s.read c) fun before d after split => ?_]
    rw [next before (d :: after) split]
    exact each (c :: before) d after (by rw [split]; rfl)

/-! ## Bodies -/

section
variable (rest : List Char) (previous : Option Char) (line kept : List Char)

theorem trace_literal_body {kind : Literal} {body : List Char}
    (inside : ∀ before c after, body = before ++ c :: after →
      c ≠ '\n' ∧ (c = kind.closer → oddBackslashes (before.reverse ++ line) = true)) :
    trace ⟨.literal kind, previous, line, kept⟩ (body ++ rest) = body.map (·, .kept) ++
      trace ⟨.literal kind, previousAfter previous body, body.reverse ++ line, body.reverse ++ kept⟩ rest := by
  have reached : ∀ before after, body = before ++ after → run ⟨.literal kind, previous, line, kept⟩ before =
      ⟨.literal kind, previousAfter previous before, before.reverse ++ line, before.reverse ++ kept⟩ := by
    intro before after split
    have read := run_literal_body kind [] before previous line kept fun front c back split' =>
      inside front c (back ++ after) (by rw [split, split']; simp)
    rwa [List.append_nil] at read
  rw [trace_body (fun _ => .kept) rest body _ fun before c after split => ?_, reached body [] (by simp)]
  rw [reached before _ split]
  exact ⟨rfl, fun d _ => by simp [readPair?]⟩

theorem trace_block_body {body : List Char}
    (inside : ∀ before c after, body = before ++ c :: after → ¬ blockCloser <+: c :: after ++ rest) :
    ∃ line', trace ⟨.blockComment, previous, line, kept⟩ (body ++ rest) =
      body.map (fun c => (c, blockFate c)) ++
        trace ⟨.blockComment, previous, line', List.replicate (body.count '\n') ' ' ++ kept⟩ rest := by
  have reached : ∀ before after, body = before ++ after → ∃ line', run ⟨.blockComment, previous, line, kept⟩ before =
      ⟨.blockComment, previous, line', List.replicate (before.count '\n') ' ' ++ kept⟩ := by
    intro before after split
    obtain ⟨line', read⟩ := run_block_body [] before previous line kept fun front c back split' closer => by
      refine inside front c (back ++ after) (by rw [split, split']; simp) (closer.trans ?_)
      exact ⟨after ++ rest, by simp⟩
    exact ⟨line', by rwa [List.append_nil] at read⟩
  obtain ⟨line', read⟩ := reached body [] (by simp)
  refine ⟨line', ?_⟩
  rw [trace_body blockFate rest body _ fun before c after split => ?_, read]
  obtain ⟨line', read⟩ := reached before _ split
  rw [read]
  refine ⟨rfl, fun d first => ?_⟩
  have open_ : ¬ (c = '*' ∧ d = '/') := by
    rintro ⟨rfl, rfl⟩
    obtain ⟨tail, e⟩ := List.head?_eq_some_iff.1 first
    exact inside before '*' after split ⟨tail, by rw [List.cons_append, e]; rfl⟩
  unfold readPair?
  split <;> simp_all

theorem trace_line_body {body : List Char} (inside : '\n' ∉ body) :
    ∃ line', trace ⟨.lineComment, previous, line, kept⟩ (body ++ rest) =
      body.map (·, .dropped) ++ trace ⟨.lineComment, previous, line', kept⟩ rest := by
  have reached : ∀ before after, body = before ++ after → ∃ line', run ⟨.lineComment, previous, line, kept⟩ before =
      ⟨.lineComment, previous, line', kept⟩ := by
    intro before after split
    obtain ⟨line', read⟩ := run_line_body [] before previous line kept fun mem =>
      inside (split ▸ List.mem_append_left after mem)
    exact ⟨line', by rwa [List.append_nil] at read⟩
  obtain ⟨line', read⟩ := reached body [] (by simp)
  refine ⟨line', ?_⟩
  rw [trace_body (fun _ => .dropped) rest body _ fun before c after split => ?_, read]
  obtain ⟨line', read⟩ := reached before _ split
  rw [read]
  have noEnd : c ≠ '\n' := fun e => inside (by rw [split, e]; simp)
  exact ⟨by simp [fate, noEnd], fun d _ => by simp [readPair?]⟩

end

/-! ## Pieces -/

/-- What reading a piece in front of `rest` makes of its characters, on the way to a scan between pieces. -/
def Marks (s : Scan) (p : Piece) (rest : List Char) : Prop :=
  ∃ t : Scan, s.trace (p.text ++ rest) = p.marks ++ t.trace rest ∧ t.Between rest ∧
    t.previous = previousAfter s.previous p.kept

theorem trace_opening {previous : Option Char} (line kept : List Char) {rest : List Char} {c : Char}
    {o : Opening} {mode : Mode} (h : openingAt previous (c :: rest) = some o) (hm : openingMode? o = some mode) :
    trace ⟨.code, previous, line, kept⟩ (c :: rest) =
      (c, .kept) :: trace ⟨mode, previousAfter previous [c], c :: line, c :: kept⟩ rest := by
  obtain ⟨single, opened⟩ := read_opening line kept h hm
  rw [trace_cons single, opened]
  rfl

theorem marks_lineEnd {s : Scan} (rest : List Char) (noBlock : s.mode ≠ .blockComment) :
    s.Marks .lineEnd rest := by
  refine ⟨s.endLine, ?_, ?_, ?_⟩
  · have kept : s.fate '\n' = .kept := by unfold fate; split <;> simp_all
    rw [Piece.text, List.singleton_append, trace_cons (by simp [readPair?]), kept]
    rfl
  · left; unfold endLine; split <;> simp_all
  · show _ = previousAfter s.previous ['\n']
    rw [previousAfter_singleton, if_pos (by decide)]
    unfold endLine
    split <;> rfl

theorem marks_literal {previous : Option Char} {line kept rest body : List Char} {kind : Literal}
    {closed : Bool} (fits : (Piece.literal kind body closed).Fits previous rest) :
    Marks ⟨.code, previous, line, kept⟩ (.literal kind body closed) rest := by
  obtain ⟨opens, stop, off⟩ := fits
  have text : (Piece.literal kind body closed).text ++ rest =
      kind.closer :: (body ++ (closing [kind.closer] closed ++ rest)) := by simp [Piece.text]
  rw [text] at opens
  have body_marks := (trace_opening line kept opens rfl).trans
    (congrArg _ (trace_literal_body (closing [kind.closer] closed ++ rest) _ _ _ (escaped_of_firstStop stop line)))
  rw [← text] at body_marks
  cases closed with
  | false =>
    refine ⟨⟨.literal kind, previousAfter (previousAfter previous [kind.closer]) body,
      body.reverse ++ kind.closer :: line, body.reverse ++ kind.closer :: kept⟩, body_marks.trans ?_,
      .inr (.inl ⟨by simp, off rfl⟩), ?_⟩
    · simp [Piece.marks, Piece.text, closing]
    · simpa [Piece.kept, Piece.text, closing] using (previousAfter_cons previous kind.closer body).symm
  | true =>
    have even : oddBackslashes (body.reverse ++ kind.closer :: line) = false := by
      rcases stop.stops with lineEnd | ⟨-, even⟩
      · exact absurd lineEnd (kind.not_atLineEnd_closer rest)
      · rw [oddBackslashes_behind_opener, even]; rfl
    refine ⟨⟨.code, previousAfter (previousAfter (previousAfter previous [kind.closer]) body) [kind.closer],
      kind.closer :: (body.reverse ++ kind.closer :: line), kind.closer :: (body.reverse ++ kind.closer :: kept)⟩,
      body_marks.trans ?_, .inl rfl, ?_⟩
    · rw [closing, if_pos rfl, List.singleton_append, trace_cons (by simp [readPair?]), read_closer even]
      simp [Piece.marks, Piece.text, closing, fate]
    · show _ = previousAfter previous (kind.closer :: (body ++ [kind.closer]))
      rw [previousAfter_cons previous kind.closer (body ++ [kind.closer]), previousAfter_append _ body]

theorem marks_lineComment {previous : Option Char} {line kept rest body : List Char}
    (fits : (Piece.lineComment body).Fits previous rest) :
    Marks ⟨.code, previous, line, kept⟩ (.lineComment body) rest := by
  obtain ⟨line', h⟩ := trace_line_body rest previous ('/' :: '/' :: line) kept (noLineEnd_of_lineComment fits)
  have opened : trace ⟨.code, previous, line, kept⟩ ((Piece.lineComment body).text ++ rest) =
      ('/', .dropped) :: ('/', .dropped) ::
        trace ⟨.lineComment, previous, '/' :: '/' :: line, kept⟩ (body ++ rest) :=
    trace_pair rfl (body ++ rest)
  refine ⟨⟨.lineComment, previous, line', kept⟩, ?_, .inr (.inl ⟨by simp, fits.ends.stops⟩), rfl⟩
  rw [opened, h]
  rfl

theorem marks_blockComment {previous : Option Char} {line kept rest body : List Char} {closed : Bool}
    (fits : (Piece.blockComment body closed).Fits previous rest) :
    Marks ⟨.code, previous, line, kept⟩ (.blockComment body closed) rest := by
  obtain ⟨-, stop, off⟩ := fits
  have text : (Piece.blockComment body closed).text ++ rest =
      '/' :: '*' :: (body ++ (closing blockCloser closed ++ rest)) := by simp [Piece.text]
  obtain ⟨line', h⟩ := trace_block_body (closing blockCloser closed ++ rest) previous ('*' :: '/' :: line) kept
    fun before c after e closer => stop.first before c after e (.inr closer)
  have opened : trace ⟨.code, previous, line, kept⟩ ((Piece.blockComment body closed).text ++ rest) =
      ('/', .dropped) :: ('*', .dropped) :: trace ⟨.blockComment, previous, '*' :: '/' :: line, kept⟩
        (body ++ (closing blockCloser closed ++ rest)) := by
    rw [text]
    exact trace_pair rfl _
  rw [h] at opened
  cases closed with
  | false =>
    refine ⟨⟨.blockComment, previous, line', List.replicate (body.count '\n') ' ' ++ kept⟩, opened.trans ?_,
      .inr (.inr (off rfl)), (previousAfter_blanks previous _).symm⟩
    simp [Piece.marks, Piece.text, closing, blockFate]
  | true =>
    refine ⟨⟨.code, previous, '/' :: '*' :: line', List.replicate (body.count '\n') ' ' ++ kept⟩, opened.trans ?_,
      .inl rfl, (previousAfter_blanks previous _).symm⟩
    rw [closing, if_pos rfl, blockCloser, List.cons_append, List.cons_append, List.nil_append, trace_pair rfl]
    simp [Piece.marks, Piece.text, closing, blockCloser, blockFate]

theorem marks_piece {s : Scan} {p : Piece} {rest : List Char} (fits : p.Fits s.previous rest)
    (between : s.Between (p.text ++ rest)) : s.Marks p rest := by
  have code : p ≠ .lineEnd → s.mode = .code := by
    intro h
    refine between.code fits.opens ?_
    cases p <;> simp_all [Piece.opening]
  obtain ⟨mode, previous, line, kept⟩ := s
  cases p with
  | lineEnd => exact marks_lineEnd rest between.lineEnd
  | plain c =>
    obtain rfl := code (by simp)
    exact ⟨_, trace_opening line kept fits.opens rfl, .inl rfl, rfl⟩
  | division =>
    obtain rfl := code (by simp)
    exact ⟨_, trace_opening line kept fits.opens rfl, .inl rfl, rfl⟩
  | literal kind body closed =>
    obtain rfl := code (by simp)
    exact marks_literal fits
  | lineComment body =>
    obtain rfl := code (by simp)
    exact marks_lineComment fits
  | blockComment body closed =>
    obtain rfl := code (by simp)
    exact marks_blockComment fits

theorem trace_eq {previous : Option Char} {text : List Char} {ps : List Piece}
    (h : Decomposes previous text ps) {s : Scan} (same : s.previous = previous) (between : s.Between text) :
    s.trace text = ps.flatMap Piece.marks := by
  induction h generalizing s with
  | nil => rfl
  | cons fits _ ih =>
    subst same
    obtain ⟨t, marks, between', previous'⟩ := marks_piece fits between
    rw [marks, ih previous' between', List.flatMap_cons]

end Scan

/-- What becomes of the characters of a script is what becomes of its pieces. -/
theorem Decomposes.trace_eq {text : List Char} {ps : List Piece} (h : Decomposes none text ps) :
    trace text = ps.flatMap Piece.marks :=
  Scan.trace_eq h rfl (.inl rfl)

end BundleAudit.Source

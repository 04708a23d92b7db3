import BundleAudit.Proofs.Source.Piece

/-!
# Stripping reads pieces

The scan of a script goes from piece to piece: between two pieces it reads code, or what it reads ends
there with its line or with the script (`Scan.Between`). What it keeps of a piece depends on the piece
alone (`Scan.reads_piece`), so that `strip` keeps the pieces other than comments as they are, and of a comment
one blank for each of its line ends (`Decomposes.strip_eq`).
-/

namespace BundleAudit.Source

open BundleAudit.Text

theorem previousAfter_append (previous : Option Char) (kept more : List Char) :
    previousAfter previous (kept ++ more) = previousAfter (previousAfter previous kept) more := by
  simp [previousAfter, List.find?_append, Option.or_assoc]

theorem previousAfter_cons (previous : Option Char) (c : Char) (kept : List Char) :
    previousAfter previous (c :: kept) = previousAfter (previousAfter previous [c]) kept :=
  previousAfter_append previous [c] kept

theorem previousAfter_singleton (previous : Option Char) (c : Char) :
    previousAfter previous [c] = if isBlank c then previous else some c := by
  cases h : isBlank c <;> simp [previousAfter, h]

theorem previousAfter_blanks (previous : Option Char) (n : Nat) :
    previousAfter previous (List.replicate n ' ') = previous := by
  induction n with
  | zero => rfl
  | succ n ih =>
    rw [List.replicate_succ, previousAfter_cons, previousAfter_singleton, if_pos (by decide), ih]

/-! ## Backslashes -/

theorem oddBackslashes_eq (read : List Char) :
    oddBackslashes read = ((read.takeWhile (· == '\\')).length % 2 == 1) := by
  fun_induction oddBackslashes read with
  | case1 rest ih =>
    rw [ih, Bool.eq_iff_iff]
    simp
    omega
  | case2 read h =>
    cases read with
    | nil => rfl
    | cons c rest =>
      have : c ≠ '\\' := fun e => h rest (e ▸ rfl)
      simp [this]

theorem Literal.closer_ne_backslash (kind : Literal) : kind.closer ≠ '\\' := by cases kind <;> decide

/-- The run of backslashes before a place in a literal does not reach behind the opener. -/
theorem oddBackslashes_behind_opener (kind : Literal) (read line : List Char) :
    oddBackslashes (read.reverse ++ kind.closer :: line) = (trailingBackslashes read % 2 == 1) := by
  have stop : ((kind.closer :: line).takeWhile (· == '\\')) = [] := by simp [kind.closer_ne_backslash]
  rw [oddBackslashes_eq, trailingBackslashes, List.takeWhile_append, stop]
  split <;> simp_all

/-! ## Runs -/

namespace Scan

theorem run_cons {s : Scan} {c : Char} {rest : List Char}
    (single : ∀ d ∈ rest.head?, s.readPair? c d = none) : s.run (c :: rest) = (s.read c).run rest := by
  cases rest with
  | nil => rfl
  | cons d rest => simp [run, single d rfl]

theorem run_pair {s t : Scan} {c d : Char} (pair : s.readPair? c d = some t) (rest : List Char) :
    s.run (c :: d :: rest) = t.run rest := by
  simp [run, pair]

/-- Reads the body of a literal, in which every closer stands behind an odd run of backslashes. -/
theorem run_literal_body (kind : Literal) (rest : List Char) : ∀ (body : List Char) (previous : Option Char)
    (line kept : List Char),
    (∀ before c after, body = before ++ c :: after →
      c ≠ '\n' ∧ (c = kind.closer → oddBackslashes (before.reverse ++ line) = true)) →
    run ⟨.literal kind, previous, line, kept⟩ (body ++ rest) =
      run ⟨.literal kind, previousAfter previous body, body.reverse ++ line, body.reverse ++ kept⟩ rest
  | [], _, _, _, _ => rfl
  | c :: body, previous, line, kept, inside => by
    obtain ⟨noEnd, escaped⟩ := inside [] c body rfl
    have stays : modeAfterLiteral ⟨.literal kind, previous, line, kept⟩ kind c = .literal kind := by
      simp only [modeAfterLiteral, ite_eq_right_iff, Bool.and_eq_true, beq_iff_eq, Bool.not_eq_eq_eq_not,
        Bool.not_true, reduceCtorEq, imp_false, not_and, Bool.not_eq_false]
      exact fun e => by simpa using escaped e
    have step : read ⟨.literal kind, previous, line, kept⟩ c =
        ⟨.literal kind, previousAfter previous [c], c :: line, c :: kept⟩ := by
      simp [read, noEnd, stays, keep, previousAfter_singleton]
    rw [List.cons_append, run_cons (by simp [readPair?]), step,
      run_literal_body kind rest body _ (c :: line) (c :: kept), previousAfter_cons previous c body]
    · simp
    · intro before d after e
      have := inside (c :: before) d after (by rw [e]; rfl)
      simpa using this

theorem read_closer {kind : Literal} {previous : Option Char} {line kept : List Char}
    (even : oddBackslashes line = false) :
    read ⟨.literal kind, previous, line, kept⟩ kind.closer =
      ⟨.code, previousAfter previous [kind.closer], kind.closer :: line, kind.closer :: kept⟩ := by
  simp [read, kind.closer_ne_lineEnd, modeAfterLiteral, even, keep, previousAfter_singleton]

/-- Reads the character that closes a literal. -/
theorem run_closer {kind : Literal} {previous : Option Char} {line kept : List Char} (rest : List Char)
    (even : oddBackslashes line = false) :
    run ⟨.literal kind, previous, line, kept⟩ (kind.closer :: rest) =
      run ⟨.code, previousAfter previous [kind.closer], kind.closer :: line, kind.closer :: kept⟩ rest := by
  rw [run_cons (by simp [readPair?]), read_closer even]

/-- Reads the body of a block comment. What stands on the line after it does not matter, since only a
literal looks back, and no farther than to its opener. -/
theorem run_block_body (rest : List Char) : ∀ (body : List Char) (previous : Option Char)
    (line kept : List Char),
    (∀ before c after, body = before ++ c :: after → ¬ blockCloser <+: c :: after ++ rest) →
    ∃ line', run ⟨.blockComment, previous, line, kept⟩ (body ++ rest) =
      run ⟨.blockComment, previous, line', List.replicate (body.count '\n') ' ' ++ kept⟩ rest
  | [], _, line, _, _ => ⟨line, rfl⟩
  | c :: body, previous, line, kept, inside => by
    have single : ∀ d ∈ (body ++ rest).head?,
        readPair? ⟨.blockComment, previous, line, kept⟩ c d = none := by
      intro d hd
      have open_ : ¬ (c = '*' ∧ d = '/') := by
        rintro ⟨rfl, rfl⟩
        obtain ⟨tail, e⟩ := List.head?_eq_some_iff.1 hd
        exact inside [] '*' body rfl ⟨tail, by rw [List.cons_append, e]; rfl⟩
      unfold readPair?
      split <;> simp_all
    have inside' : ∀ before d after, body = before ++ d :: after → ¬ blockCloser <+: d :: after ++ rest :=
      fun before d after e => inside (c :: before) d after (by rw [e]; rfl)
    rw [List.cons_append, run_cons single]
    by_cases lineEnd : c = '\n'
    · subst lineEnd
      have step : read ⟨.blockComment, previous, line, kept⟩ '\n' = ⟨.blockComment, previous, [], ' ' :: kept⟩ := rfl
      obtain ⟨line', h⟩ := run_block_body rest body previous [] (' ' :: kept) inside'
      refine ⟨line', ?_⟩
      rw [step, h, List.count_cons_self, List.replicate_succ', List.append_assoc]
      rfl
    · have step : read ⟨.blockComment, previous, line, kept⟩ c = ⟨.blockComment, previous, c :: line, kept⟩ := by
        simp [read, lineEnd, drop]
      obtain ⟨line', h⟩ := run_block_body rest body previous (c :: line) kept inside'
      exact ⟨line', by rw [step, h, List.count_cons_of_ne lineEnd]⟩

/-- Reads the body of a line comment. -/
theorem run_line_body (rest : List Char) : ∀ (body : List Char) (previous : Option Char)
    (line kept : List Char), '\n' ∉ body →
    ∃ line', run ⟨.lineComment, previous, line, kept⟩ (body ++ rest) =
      run ⟨.lineComment, previous, line', kept⟩ rest
  | [], _, line, _, _ => ⟨line, rfl⟩
  | c :: body, previous, line, kept, inside => by
    obtain ⟨noEnd, inside'⟩ : '\n' ≠ c ∧ '\n' ∉ body := by simpa using inside
    have step : read ⟨.lineComment, previous, line, kept⟩ c = ⟨.lineComment, previous, c :: line, kept⟩ := by
      simp [read, noEnd.symm, drop]
    obtain ⟨line', h⟩ := run_line_body rest body previous (c :: line) kept inside'
    exact ⟨line', by rw [List.cons_append, run_cons (by simp [readPair?]), step, h]⟩

/-- The mode in which the first character of a piece is kept, if it is. -/
def openingMode? : Opening → Option Mode
  | .plain | .division => some .code
  | .literal kind => some (.literal kind)
  | _ => none

theorem read_opening {previous : Option Char} (line kept : List Char) {rest : List Char} {c : Char}
    {o : Opening} {mode : Mode} (h : openingAt previous (c :: rest) = some o) (hm : openingMode? o = some mode) :
    (∀ d ∈ rest.head?, readPair? ⟨.code, previous, line, kept⟩ c d = none) ∧
      read ⟨.code, previous, line, kept⟩ c = ⟨mode, previousAfter previous [c], c :: line, c :: kept⟩ := by
  -- It suffices that no comment opens and that the scan takes the mode of the opening.
  suffices c ≠ '\n' ∧ (∀ d ∈ rest.head?, readPair? ⟨.code, previous, line, kept⟩ c d = none) ∧
      modeAfterCode ⟨.code, previous, line, kept⟩ c = mode by
    obtain ⟨noEnd, single, after⟩ := this
    exact ⟨single, by simp [read, noEnd, after, keep, previousAfter_singleton]⟩
  unfold openingAt at h
  split at h
  · simp at h
  · cases h; simp [openingMode?] at hm
  · cases h; simp [openingMode?] at hm
  · cases h; simp [openingMode?] at hm
  · rename_i tail noLine noBlock e
    obtain ⟨rfl, rfl⟩ := List.cons.inj e
    refine ⟨by decide, fun d hd => ?_, ?_⟩
    · obtain ⟨tail, rfl⟩ := List.head?_eq_some_iff.1 hd
      unfold readPair?
      split <;> simp_all
    · obtain rfl := Option.some.inj h
      by_cases starts : patternMayStart previous <;>
        simp_all [openingMode?, modeAfterCode, Literal.ofQuote?]
  · rename_i noEnd _ _ noSlash e
    obtain ⟨rfl, rfl⟩ := List.cons.inj e
    refine ⟨noEnd, fun d _ => ?_, ?_⟩
    · unfold readPair?
      split <;> simp_all
    · obtain rfl := Option.some.inj h
      have noSlash' : (c == '/') = false := by simpa using noSlash
      cases quote : Literal.ofQuote? c <;> simp_all [openingMode?, modeAfterCode]

theorem run_opening {previous : Option Char} (line kept : List Char) {rest : List Char} {c : Char}
    {o : Opening} {mode : Mode} (h : openingAt previous (c :: rest) = some o) (hm : openingMode? o = some mode) :
    run ⟨.code, previous, line, kept⟩ (c :: rest) =
      run ⟨mode, previousAfter previous [c], c :: line, c :: kept⟩ rest := by
  obtain ⟨single, opened⟩ := read_opening line kept h hm
  rw [run_cons single, opened]

/-- Between two pieces a scan reads code, or what it reads ends there with its line or the script. -/
def Between (s : Scan) (rest : List Char) : Prop :=
  s.mode = .code ∨ s.mode ≠ .blockComment ∧ AtLineEnd rest ∨ rest = []

theorem Between.lineEnd {s : Scan} {rest : List Char} (between : s.Between ('\n' :: rest)) :
    s.mode ≠ .blockComment := by
  rcases between with code | ⟨noBlock, -⟩ | nil
  · simp [code]
  · exact noBlock
  · simp at nil

theorem Between.code {s : Scan} {previous : Option Char} {text : List Char} {o : Opening}
    (between : s.Between text) (opens : openingAt previous text = some o) (noEnd : o ≠ .lineEnd) :
    s.mode = .code := by
  rcases between with code | ⟨-, lineEnd⟩ | rfl
  · exact code
  · cases text with
    | nil => simp [openingAt] at opens
    | cons c text =>
      obtain rfl : c = '\n' := lineEnd c rfl
      cases opens
      exact absurd rfl noEnd
  · simp [openingAt] at opens

/-- What reading the text of a piece in front of `rest` comes to: a scan between pieces that has kept
what stands for the piece. -/
def Reads (s : Scan) (text : List Char) (kept rest : List Char) : Prop :=
  ∃ t : Scan, s.run (text ++ rest) = t.run rest ∧ t.Between rest ∧
    t.previous = previousAfter s.previous kept ∧ t.kept = kept.reverse ++ s.kept

theorem reads_lineEnd {s : Scan} (rest : List Char) (noBlock : s.mode ≠ .blockComment) :
    s.Reads ['\n'] ['\n'] rest := by
  have single : ∀ d ∈ rest.head?, s.readPair? '\n' d = none := by simp [readPair?]
  refine ⟨s.endLine, ?_, ?_, ?_, ?_⟩
  · rw [List.singleton_append, run_cons single]; rfl
  · left; unfold endLine; split <;> simp_all
  · rw [previousAfter_singleton, if_pos (by decide)]; unfold endLine; split <;> rfl
  · unfold endLine; split <;> simp_all

theorem reads_plain {previous : Option Char} {line kept rest : List Char} {c : Char} {o : Opening}
    (opens : openingAt previous (c :: rest) = some o) (plain : openingMode? o = some .code) :
    Reads ⟨.code, previous, line, kept⟩ [c] [c] rest :=
  ⟨_, run_opening line kept opens plain, .inl rfl, rfl, rfl⟩

/-- In the body of a literal there is no line end, and each closer stands behind an odd run of backslashes. -/
theorem escaped_of_firstStop {kind : Literal} {body rest : List Char} (stop : FirstStop kind.MayEnd body rest)
    (line : List Char) : ∀ before c after, body = before ++ c :: after →
      c ≠ '\n' ∧ (c = kind.closer → oddBackslashes (before.reverse ++ kind.closer :: line) = true) := by
  intro before c after e
  have goesOn := stop.first before c after e
  simp only [Literal.MayEnd, not_or] at goesOn
  refine ⟨fun lineEnd => goesOn.1 (by simp [AtLineEnd, lineEnd]), fun closer => ?_⟩
  rw [oddBackslashes_behind_opener]
  have odd : ¬ trailingBackslashes before % 2 = 0 := fun even => goesOn.2 ⟨by simp [closer], even⟩
  simp only [beq_iff_eq]
  omega

theorem reads_literal {previous : Option Char} {line kept rest body : List Char} {kind : Literal}
    {closed : Bool} (fits : (Piece.literal kind body closed).Fits previous rest) :
    Reads ⟨.code, previous, line, kept⟩ (Piece.literal kind body closed).text
      (Piece.literal kind body closed).text rest := by
  obtain ⟨opens, stop, off⟩ := fits
  have inside := escaped_of_firstStop stop line
  have text : (Piece.literal kind body closed).text ++ rest =
      kind.closer :: (body ++ (closing [kind.closer] closed ++ rest)) := by simp [Piece.text]
  rw [text] at opens
  have body_read := (run_opening line kept opens rfl).trans
    (run_literal_body kind (closing [kind.closer] closed ++ rest) body _ _ _ inside)
  rw [← text] at body_read
  cases closed with
  | false =>
    refine ⟨_, body_read, .inr (.inl ⟨by simp, off rfl⟩), ?_, ?_⟩
    · simpa [Piece.text, closing] using (previousAfter_cons previous kind.closer body).symm
    · simp [Piece.text, closing]
  | true =>
    have even : oddBackslashes (body.reverse ++ kind.closer :: line) = false := by
      rcases stop.stops with lineEnd | ⟨-, even⟩
      · exact absurd lineEnd (kind.not_atLineEnd_closer rest)
      · rw [oddBackslashes_behind_opener, even]; rfl
    have closed_read := body_read.trans (run_closer rest even)
    refine ⟨_, closed_read, .inl rfl, ?_, ?_⟩
    · show _ = previousAfter previous (kind.closer :: (body ++ [kind.closer]))
      rw [previousAfter_cons previous kind.closer (body ++ [kind.closer]), previousAfter_append _ body]
    · simp [Piece.text, closing]

theorem noLineEnd_of_lineComment {previous : Option Char} {rest body : List Char}
    (fits : (Piece.lineComment body).Fits previous rest) : '\n' ∉ body := by
  intro mem
  obtain ⟨before, after, e⟩ := List.append_of_mem mem
  exact fits.ends.first before '\n' after e (by simp [AtLineEnd])

theorem reads_lineComment {previous : Option Char} {line kept rest body : List Char}
    (fits : (Piece.lineComment body).Fits previous rest) :
    Reads ⟨.code, previous, line, kept⟩ (Piece.lineComment body).text [] rest := by
  have noEnd := noLineEnd_of_lineComment fits
  have opened : run ⟨.code, previous, line, kept⟩ ((Piece.lineComment body).text ++ rest) =
      run ⟨.lineComment, previous, '/' :: '/' :: line, kept⟩ (body ++ rest) := run_pair rfl _
  obtain ⟨line', h⟩ := run_line_body rest body previous ('/' :: '/' :: line) kept noEnd
  exact ⟨_, opened.trans h, .inr (.inl ⟨by simp, fits.ends.stops⟩), rfl, rfl⟩

theorem reads_blockComment {previous : Option Char} {line kept rest body : List Char} {closed : Bool}
    (fits : (Piece.blockComment body closed).Fits previous rest) :
    Reads ⟨.code, previous, line, kept⟩ (Piece.blockComment body closed).text
      (Piece.blockComment body closed).kept rest := by
  obtain ⟨-, stop, off⟩ := fits
  have inside : ∀ before c after, body = before ++ c :: after →
      ¬ blockCloser <+: c :: after ++ (closing blockCloser closed ++ rest) :=
    fun before c after e closer => stop.first before c after e (.inr closer)
  have text : (Piece.blockComment body closed).text ++ rest =
      '/' :: '*' :: (body ++ (closing blockCloser closed ++ rest)) := by simp [Piece.text]
  have opened : run ⟨.code, previous, line, kept⟩ ((Piece.blockComment body closed).text ++ rest) =
      run ⟨.blockComment, previous, '*' :: '/' :: line, kept⟩ (body ++ (closing blockCloser closed ++ rest)) := by
    rw [text, run_pair rfl]
  obtain ⟨line', h⟩ :=
    run_block_body (closing blockCloser closed ++ rest) body previous ('*' :: '/' :: line) kept inside
  cases closed with
  | false =>
    refine ⟨_, opened.trans h, .inr (.inr (off rfl)), ?_, ?_⟩
    · exact (previousAfter_blanks previous _).symm
    · simp [Piece.kept]
  | true =>
    refine ⟨_, (opened.trans h).trans (run_pair rfl rest), .inl rfl, ?_, ?_⟩
    · exact (previousAfter_blanks previous _).symm
    · simp [Piece.kept]

/-- Reading a piece keeps what stands for it in the cleaned script. -/
theorem reads_piece {s : Scan} {p : Piece} {rest : List Char} (fits : p.Fits s.previous rest)
    (between : s.Between (p.text ++ rest)) : s.Reads p.text p.kept rest := by
  have code : p ≠ .lineEnd → s.mode = .code := by
    intro h
    refine between.code fits.opens ?_
    cases p <;> simp_all [Piece.opening]
  obtain ⟨mode, previous, line, kept⟩ := s
  cases p with
  | lineEnd => exact reads_lineEnd rest between.lineEnd
  | plain c =>
    obtain rfl := code (by simp)
    exact reads_plain fits.opens rfl
  | division =>
    obtain rfl := code (by simp)
    exact reads_plain fits.opens rfl
  | literal kind body closed =>
    obtain rfl := code (by simp)
    exact reads_literal fits
  | lineComment body =>
    obtain rfl := code (by simp)
    exact reads_lineComment fits
  | blockComment body closed =>
    obtain rfl := code (by simp)
    exact reads_blockComment fits

theorem kept_run {previous : Option Char} {text : List Char} {ps : List Piece}
    (h : Decomposes previous text ps) {s : Scan} (same : s.previous = previous) (between : s.Between text) :
    (s.run text).kept = (ps.flatMap Piece.kept).reverse ++ s.kept := by
  induction h generalizing s with
  | nil => rfl
  | cons fits _ ih =>
    subst same
    obtain ⟨t, run, between', previous', kept'⟩ := reads_piece fits between
    rw [run, ih previous' between', kept', List.flatMap_cons, List.reverse_append, List.append_assoc]

end Scan

/-- `strip` keeps what stands for the pieces of a script. -/
theorem Decomposes.strip_eq {text : List Char} {ps : List Piece} (h : Decomposes none text ps) :
    strip text = ps.flatMap Piece.kept := by
  simp [strip, Scan.kept_run h (s := {}) rfl (.inl rfl)]

/-- A script falls into pieces in exactly one way, and the cleaned script holds them in order: line ends,
code, divisions and literals as they are, nothing for a line comment, and one blank for each line end in a
block comment. -/
theorem strip_eq_flatMap_kept (text : List Char) :
    (∃! ps, Decomposes none text ps) ∧
      ∃ ps, Decomposes none text ps ∧
        ps.flatMap Piece.text = text ∧ strip text = ps.flatMap Piece.kept := by
  obtain ⟨ps, h⟩ := exists_decomposes none text
  exact ⟨existsUnique_decomposes none text, ps, h, h.flatMap_text, h.strip_eq⟩

/-- A comment behind a pattern literal, and an opener that does not close itself. -/
example : strip "x = /'/ /*/ a\n*/ // b\ny /*".toList = "x = /'/   \ny ".toList := by decide

end BundleAudit.Source

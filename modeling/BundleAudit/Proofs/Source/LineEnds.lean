import BundleAudit.Proofs.Source.Stripping

/-!
# What crosses a line end

A line changes how the lines behind it are read by two bits only: whether a block comment is open at its end,
and whether a slash would open a pattern there (`Carry`). Scans that carry the same stay in step from the line
end on (`Scan.InStep.run`), whatever they have read and kept before. So a literal that is not closed harms
its own line alone: the lines behind it are read as behind an empty line, or as behind a name.
-/

namespace BundleAudit.Source

open BundleAudit.Text

/-- What a scan carries over a line end. -/
@[ext] structure Carry where
  /-- A block comment is open. -/
  inBlock : Bool
  /-- A slash would open a pattern and not divide. -/
  operand : Bool
deriving DecidableEq, Repr

/-- What stands for a line end in the cleaned script. -/
def Carry.lineEnd (c : Carry) : Char := if c.inBlock then ' ' else '\n'

namespace Scan

def carry (s : Scan) : Carry where
  inBlock := s.mode == .blockComment
  operand := patternMayStart s.previous

theorem kept_endLine (s : Scan) : s.endLine.kept = s.carry.lineEnd :: s.kept := by
  cases h : s.mode <;> simp [endLine, carry, Carry.lineEnd, h]

/-! ## Scans in step -/

/-- Two scans read the same line in the same way, and have kept the same behind what stood in front. -/
structure InStep (front front' : List Char) (s t : Scan) : Prop where
  mode : s.mode = t.mode
  operand : patternMayStart s.previous = patternMayStart t.previous
  line : s.line = t.line
  kept : ∃ more, s.kept = more ++ front ∧ t.kept = more ++ front'

/-- A line end brings scans into step that carry the same over it. -/
theorem inStep_endLine {s t : Scan} (same : s.carry = t.carry) :
    InStep s.endLine.kept t.endLine.kept s.endLine t.endLine := by
  obtain ⟨block, operand⟩ := Carry.mk.inj same
  have mode : s.endLine.mode = t.endLine.mode := by
    unfold endLine
    split <;> split <;> simp_all
  refine ⟨mode, ?_, ?_, [], rfl, rfl⟩
  · unfold endLine
    split <;> split <;> exact operand
  · unfold endLine
    split <;> split <;> rfl

namespace InStep

variable {front front' : List Char} {s t : Scan}

theorem endLine (h : InStep front front' s t) : InStep front front' s.endLine t.endLine := by
  obtain ⟨more, kept, kept'⟩ := h.kept
  have same : s.carry = t.carry := by rw [carry, carry, h.mode, h.operand]
  obtain ⟨mode, operand, line, -⟩ := inStep_endLine same
  refine ⟨mode, operand, line, s.carry.lineEnd :: more, ?_, ?_⟩
  · rw [kept_endLine, kept, List.cons_append]
  · rw [kept_endLine, kept', ← same, List.cons_append]

/-- Both scans keep the character and go on in one mode. -/
theorem keep (h : InStep front front' s t) (mode : Mode) (c : Char) :
    InStep front front' ({ s with mode := mode }.keep c) ({ t with mode := mode }.keep c) := by
  obtain ⟨more, kept, kept'⟩ := h.kept
  refine ⟨rfl, ?_, ?_, c :: more, ?_, ?_⟩
  · show patternMayStart (if isBlank c then s.previous else some c) =
      patternMayStart (if isBlank c then t.previous else some c)
    split
    · exact h.operand
    · rfl
  · show c :: s.line = c :: t.line
    rw [h.line]
  · exact congrArg (c :: ·) kept
  · exact congrArg (c :: ·) kept'

theorem read (h : InStep front front' s t) (c : Char) : InStep front front' (s.read c) (t.read c) := by
  have dropped : InStep front front' (s.drop c) (t.drop c) :=
    ⟨h.mode, h.operand, congrArg (c :: ·) h.line, h.kept⟩
  unfold Scan.read
  by_cases lineEnd : (c == '\n') = true
  · rw [if_pos lineEnd, if_pos lineEnd]
    exact h.endLine
  rw [if_neg lineEnd, if_neg lineEnd, ← h.mode]
  cases s.mode with
  | lineComment => exact dropped
  | blockComment => exact dropped
  | code =>
    -- The mode behind a slash depends on what could open there, and on no more of what was kept.
    have mode : s.modeAfterCode c = t.modeAfterCode c := by
      unfold modeAfterCode
      rw [h.operand]
    dsimp only
    rw [mode]
    exact h.keep _ c
  | literal kind =>
    have mode : s.modeAfterLiteral kind c = t.modeAfterLiteral kind c := by
      unfold modeAfterLiteral
      rw [h.line]
    dsimp only
    rw [mode]
    exact h.keep _ c

/-- Both scans read two characters as a pair, or neither does. -/
theorem readPair? (h : InStep front front' s t) (c d : Char) :
    s.readPair? c d = none ∧ t.readPair? c d = none ∨
      ∃ s' t', s.readPair? c d = some s' ∧ t.readPair? c d = some t' ∧ InStep front front' s' t' := by
  have pair (mode : Mode) : InStep front front' { s with mode := mode, line := d :: c :: s.line }
      { t with mode := mode, line := d :: c :: t.line } :=
    ⟨rfl, h.operand, congrArg (d :: c :: ·) h.line, h.kept⟩
  unfold Scan.readPair?
  rw [← h.mode]
  split
  · exact .inr ⟨_, _, rfl, rfl, pair _⟩
  · exact .inr ⟨_, _, rfl, rfl, pair _⟩
  · exact .inr ⟨_, _, rfl, rfl, pair _⟩
  · exact .inl ⟨rfl, rfl⟩

theorem run : ∀ {s t : Scan} (_ : InStep front front' s t) (text : List Char),
    InStep front front' (s.run text) (t.run text)
  | _, _, h, [] => h
  | _, _, h, [c] => h.read c
  | s, t, h, c :: d :: rest => by
    rcases h.readPair? c d with ⟨none, none'⟩ | ⟨s', t', some, some', pair⟩
    · simp only [Scan.run, none, none']
      exact (h.read c).run (d :: rest)
    · simp only [Scan.run, some, some']
      exact pair.run rest

end InStep

/-! ## The two sides of a line end -/

theorem readPair?_lineEnd (s : Scan) (c : Char) : s.readPair? c '\n' = none := by
  simp [readPair?]

/-- No pair of characters reaches over a line end. -/
theorem run_append_lineEnd (b : List Char) : ∀ (s : Scan) (a : List Char),
    s.run (a ++ '\n' :: b) = (s.run a).endLine.run b
  | s, [] => run_cons fun _ _ => by simp [readPair?]
  | s, [c] => by
    rw [List.singleton_append, run_cons (by simp [readPair?_lineEnd])]
    exact run_append_lineEnd b (s.read c) []
  | s, c :: d :: rest => by
    simp only [List.cons_append, run]
    cases s.readPair? c d with
    | some t => exact run_append_lineEnd b t rest
    | none => exact run_append_lineEnd b (s.read c) (d :: rest)

/-! ## Literals that are not closed -/

/-- The scan of a text comes to its last piece between two pieces. -/
theorem exists_run_last {p : Piece} : ∀ {ps : List Piece} {previous : Option Char} {text : List Char}
    {s : Scan}, Decomposes previous text (ps ++ [p]) → s.previous = previous → s.Between text →
      ∃ t : Scan, s.run text = t.run p.text ∧ p.Fits t.previous [] ∧ t.Between p.text
  | [], _, _, s, h, same, between => by
    cases h with
    | cons fits tail =>
      cases tail
      subst same
      rw [List.append_nil] at between ⊢
      exact ⟨s, rfl, fits, between⟩
  | q :: ps, _, _, s, h, same, between => by
    cases h with
    | cons fits tail =>
      subst same
      obtain ⟨t, run, between', previous', -⟩ := reads_piece fits between
      rw [run]
      exact exists_run_last tail previous' between'

end Scan

/-- The piece ends with its line, because it is a line comment or a literal that is not closed. -/
def Piece.BreaksOff : Piece → Prop
  | literal _ _ closed => closed = false
  | lineComment _ => True
  | _ => False

/-- A piece that breaks off leaves no block comment open. -/
theorem Scan.mode_run_breaksOff {s : Scan} {p : Piece} (fits : p.Fits s.previous []) (between : s.Between p.text)
    (off : p.BreaksOff) : (s.run p.text).mode ≠ .blockComment := by
  have code : s.mode = .code := by
    have opens : openingAt s.previous p.text = some p.opening := by simpa using fits.opens
    refine between.code opens ?_
    cases p <;> simp_all [Piece.BreaksOff, Piece.opening]
  obtain ⟨mode, previous, line, kept⟩ := s
  obtain rfl := code
  cases p with
  | literal kind body closed =>
    obtain rfl : closed = false := off
    obtain ⟨opens, stop, -⟩ := fits
    have opens : openingAt previous (kind.closer :: body) = some (.literal kind) := by
      simpa [Piece.text, Piece.opening, closing] using opens
    have read := run_literal_body kind [] body (previousAfter previous [kind.closer]) (kind.closer :: line)
      (kind.closer :: kept) (escaped_of_firstStop stop line)
    rw [List.append_nil] at read
    have text : (Piece.literal kind body false).text = kind.closer :: body := by simp [Piece.text, closing]
    rw [text, run_opening line kept opens rfl, read]
    simp [run]
  | lineComment body =>
    obtain ⟨line', read⟩ :=
      run_line_body [] body previous ('/' :: '/' :: line) kept (noLineEnd_of_lineComment fits)
    rw [List.append_nil] at read
    rw [Piece.text, run_pair rfl, read]
    simp [run]
  | lineEnd => cases off
  | plain c => cases off
  | division => cases off
  | blockComment body closed => cases off

/-! ## Scripts behind a line end -/

/-- What the scan of a text carries over its end. -/
def carryOf (text : List Char) : Carry := (({} : Scan).run text).carry

theorem inBlock_of_breaksOff {a : List Char} {ps : List Piece} {p : Piece} (h : Decomposes none a (ps ++ [p]))
    (off : p.BreaksOff) : (carryOf a).inBlock = false := by
  obtain ⟨t, run, fits, between⟩ := Scan.exists_run_last (s := {}) h rfl (.inl rfl)
  rw [carryOf, run]
  simpa [Scan.carry] using Scan.mode_run_breaksOff fits between off

/-- Behind texts that carry the same over their ends, the same is kept of what follows on the next lines. -/
theorem exists_kept_behind {a a' : List Char} (same : carryOf a = carryOf a') (b : List Char) :
    ∃ suffix, strip (a ++ '\n' :: b) = strip a ++ (carryOf a).lineEnd :: suffix ∧
      strip (a' ++ '\n' :: b) = strip a' ++ (carryOf a).lineEnd :: suffix := by
  obtain ⟨more, kept, kept'⟩ := ((Scan.inStep_endLine same).run b).kept
  refine ⟨more.reverse, ?_, ?_⟩
  · simp [strip, Scan.run_append_lineEnd, kept, Scan.kept_endLine, carryOf]
  · rw [same]
    simp [strip, Scan.run_append_lineEnd, kept', Scan.kept_endLine, carryOf]

/-- What is kept of the lines behind a line end outside of block comments: what is kept behind an empty line if
a slash would open a pattern, and what is kept behind a name if it would divide. -/
def keptOfLines (operand : Bool) (b : List Char) : List Char :=
  if operand then strip b else (strip ('x' :: '\n' :: b)).drop 2

/-- An empty line in front of a script is kept, and changes nothing. -/
theorem strip_lineEnd (b : List Char) : strip ('\n' :: b) = '\n' :: strip b := by
  have start : Scan.InStep ['\n'] [] ({} : Scan).endLine {} := ⟨rfl, rfl, rfl, [], rfl, rfl⟩
  obtain ⟨more, kept, kept'⟩ := (start.run b).kept
  have run := Scan.run_append_lineEnd b {} []
  rw [List.nil_append, Scan.run] at run
  simp [strip, run, kept, kept']

theorem strip_of_outside {a : List Char} (outside : (carryOf a).inBlock = false) (b : List Char) :
    strip (a ++ '\n' :: b) = strip a ++ '\n' :: keptOfLines (carryOf a).operand b := by
  have lineEnd : (carryOf a).lineEnd = '\n' := by simp [Carry.lineEnd, outside]
  cases operand : (carryOf a).operand with
  | true =>
    have same : carryOf a = carryOf [] := Carry.ext outside operand
    obtain ⟨suffix, here, there⟩ := exists_kept_behind same b
    rw [lineEnd] at here there
    obtain rfl : strip b = suffix := by simpa [strip_lineEnd, show strip [] = [] from rfl] using there
    exact here
  | false =>
    have same : carryOf a = carryOf ['x'] := Carry.ext outside (operand.trans (by decide))
    obtain ⟨suffix, here, there⟩ := exists_kept_behind same b
    rw [lineEnd] at here there
    have there : strip ('x' :: '\n' :: b) = 'x' :: '\n' :: suffix := there
    rw [here, keptOfLines, there]
    rfl

/-- Two texts that agree, at their ends, on whether a block comment is open and on whether a slash would open a
pattern are stripped alike behind a line end, whatever stands in them: the same is kept of the lines that
follow, behind a blank in a block comment and a line end elsewhere. Behind a literal that is not closed, or
a line comment, these lines are stripped as behind an empty line or a name, by the second bit alone. -/
theorem strip_behind_lineEnd {a a' : List Char} (same : carryOf a = carryOf a') (b : List Char) :
    (∃ suffix, strip (a ++ '\n' :: b) = strip a ++ suffix ∧ strip (a' ++ '\n' :: b) = strip a' ++ suffix ∧
      suffix.head? = some (if (carryOf a).inBlock then ' ' else '\n')) ∧
    ∀ (ps : List Piece) (p : Piece), Decomposes none a (ps ++ [p]) → p.BreaksOff →
      strip (a ++ '\n' :: b) = strip a ++ '\n' :: keptOfLines (carryOf a).operand b := by
  refine ⟨?_, fun ps p h off => strip_of_outside (inBlock_of_breaksOff h off) b⟩
  obtain ⟨suffix, here, there⟩ := exists_kept_behind same b
  exact ⟨_, here, there, rfl⟩

/-- A string that is not closed, and a name behind a comment. -/
theorem strip_behind_lineEnd_of_unclosed :
    let a := "s='it".toList
    let a' := "/* ' */ y".toList
    let b := "/ 2 // '\n'z".toList
    carryOf a = carryOf a' ∧
      (∃ suffix, strip (a ++ '\n' :: b) = strip a ++ suffix ∧ strip (a' ++ '\n' :: b) = strip a' ++ suffix ∧
        suffix.head? = some '\n') ∧
      Decomposes none a [.plain 's', .plain '=', .literal .single ['i', 't'] false] ∧
      strip (a ++ '\n' :: b) = strip a ++ '\n' :: keptOfLines false b ∧
      keptOfLines false b = "/ 2 \n'z".toList := by
  intro a a' b
  have same : carryOf a = carryOf a' := by decide
  have literal : (Piece.literal .single ['i', 't'] false).Fits (some '=') [] := by
    refine ⟨rfl, ⟨.inl (by simp [AtLineEnd, closing]), fun before c after e stops => ?_⟩,
      by simp [AtLineEnd]⟩
    have inside : c ∈ ['i', 't'] := by simp [e]
    rcases stops with lineEnd | ⟨closes, -⟩
    · obtain rfl : c = '\n' := lineEnd c rfl
      exact absurd inside (by decide)
    · obtain rfl : c = '\'' := by simpa [Literal.closer] using closes
      exact absurd inside (by decide)
  have pieces : Decomposes none a [.plain 's', .plain '=', .literal .single ['i', 't'] false] :=
    .cons (p := .plain 's') ⟨rfl, trivial⟩ (.cons (p := .plain '=') ⟨rfl, trivial⟩ (.cons literal .nil))
  obtain ⟨alike, alone⟩ := strip_behind_lineEnd same b
  exact ⟨same, alike, pieces, alone [.plain 's', .plain '='] _ pieces rfl, by decide⟩

end BundleAudit.Source

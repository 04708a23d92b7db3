import BundleAudit.Proofs.Source.Origin
import BundleAudit.Proofs.Source.Stripping

/-!
# One bit for escapes

At each character of a literal, `strip` counts the backslashes before it, back over the line. A pass from left to
right does without: it carries a bit that is cleared where a literal opens and then tells, character by character,
whether an odd run of backslashes has just been read (`Pass`). An opener is no backslash, so the run before a
character of the literal does not reach behind it, and the bit is the parity of that run (`Scan.Tracks`). So
the pass writes what `strip` keeps (`strip_eq_written`).
-/

namespace BundleAudit.Source

open BundleAudit.Text

/-! ## The pass -/

/-- All that is carried from one character to the next. -/
structure Pass where
  mode : Mode := .code
  /-- In a literal: the character to come stands behind an odd run of backslashes. -/
  escaped : Bool := false
  /-- The last character kept that is no blank. -/
  previous : Option Char := none
deriving DecidableEq, Repr

/-- The mode behind two characters that open or close a comment. -/
def Mode.behindPair? : Mode → Char → Char → Option Mode
  | .code, '/', '/' => some .lineComment
  | .code, '/', '*' => some .blockComment
  | .blockComment, '*', '/' => some .code
  | _, _, _ => none

/-- The literal that a character of code opens. -/
def opens? (previous : Option Char) (c : Char) : Option Literal :=
  if c == '/' && patternMayStart previous then some .pattern else Literal.ofQuote? c

namespace Pass

def keep (p : Pass) (c : Char) : Pass := { p with previous := if isBlank c then p.previous else some c }

def endLine (p : Pass) : Pass := { p with mode := if p.mode = .blockComment then .blockComment else .code }

/-- Reads one character. -/
def read (p : Pass) (c : Char) : Pass :=
  if c == '\n' then p.endLine
  else
    match p.mode with
    | .lineComment | .blockComment => p
    | .code =>
      match opens? p.previous c with
      | some kind => { p.keep c with mode := .literal kind, escaped := false }
      | none => p.keep c
    | .literal kind =>
      { p.keep c with
        mode := if c == kind.closer && !p.escaped then .code else .literal kind
        escaped := c == '\\' && !p.escaped }

/-- What is written for a character that is read by itself. -/
def write (p : Pass) (c : Char) : List Char :=
  match p.mode with
  | .blockComment => if c == '\n' then [' '] else []
  | .lineComment => if c == '\n' then ['\n'] else []
  | .code | .literal _ => [c]

/-- Reads two characters that open or close a comment, if they do. Nothing is written for them. -/
def readPair? (p : Pass) (c d : Char) : Option Pass :=
  (p.mode.behindPair? c d).map fun mode => { p with mode }

/-- What is written for a text. -/
def written : Pass → List Char → List Char
  | _, [] => []
  | p, [c] => p.write c
  | p, c :: d :: rest =>
    match p.readPair? c d with
    | some q => q.written rest
    | none => p.write c ++ (p.read c).written (d :: rest)

theorem reverse_write (p : Pass) (c : Char) : (p.write c).reverse = p.write c := by
  unfold write
  split <;> try split
  all_goals rfl

theorem written_pair {p q : Pass} {c d : Char} (pair : p.readPair? c d = some q) (rest : List Char) :
    p.written (c :: d :: rest) = q.written rest := by
  simp [written, pair]

theorem written_single {p : Pass} {c : Char} {rest : List Char}
    (single : ∀ d ∈ rest.head?, p.readPair? c d = none) :
    p.written (c :: rest) = p.write c ++ (p.read c).written rest := by
  cases rest with
  | nil => simp [written]
  | cons d rest => simp [written, single d rfl]

end Pass

/-! ## The bit is the parity of the run -/

theorem oddBackslashes_cons (c : Char) (read : List Char) :
    oddBackslashes (c :: read) = (c == '\\' && !oddBackslashes read) := by
  by_cases h : c = '\\'
  · subst h
    simp [oddBackslashes]
  · rw [oddBackslashes]
    · simp [h]
    · rintro rest ⟨⟩
      exact h rfl

theorem ne_backslash_of_opens? {previous : Option Char} {c : Char} {kind : Literal}
    (h : opens? previous c = some kind) : c ≠ '\\' := by
  rintro rfl
  simp [opens?, Literal.ofQuote?] at h

theorem Mode.behindPair?_ne_literal (mode : Mode) (c d : Char) (kind : Literal) :
    mode.behindPair? c d ≠ some (.literal kind) := by
  unfold behindPair?
  split <;> simp

namespace Scan

theorem modeAfterCode_eq (s : Scan) (c : Char) :
    s.modeAfterCode c = match opens? s.previous c with
      | some kind => .literal kind
      | none => .code := by
  unfold modeAfterCode opens?
  split <;> rfl

theorem readPair?_eq (s : Scan) (c d : Char) : s.readPair? c d =
    (s.mode.behindPair? c d).map fun mode => { s with mode := mode, line := d :: c :: s.line } := by
  unfold readPair? Mode.behindPair?
  generalize s.mode = mode
  split <;> simp_all

/-- A scan and a pass that stand at the same place. -/
structure Tracks (s : Scan) (p : Pass) : Prop where
  mode : s.mode = p.mode
  previous : s.previous = p.previous
  escaped : ∀ kind, p.mode = .literal kind → oddBackslashes s.line = p.escaped

namespace Tracks

variable {s : Scan} {p : Pass}

theorem endLine (h : Tracks s p) : Tracks s.endLine p.endLine := by
  have mode : s.endLine.mode = p.endLine.mode := by
    rw [Pass.endLine, ← h.mode]
    cases mode : s.mode <;> simp [Scan.endLine, mode]
  refine ⟨mode, ?_, ?_⟩
  · unfold Scan.endLine
    split <;> exact h.previous
  · intro kind literal
    simp only [Pass.endLine] at literal
    split at literal <;> cases literal

theorem read (h : Tracks s p) (c : Char) : Tracks (s.read c) (p.read c) := by
  by_cases lineEnd : c = '\n'
  · subst lineEnd
    exact h.endLine
  have mode := h.mode
  cases here : p.mode with
  | lineComment =>
    rw [here] at mode
    simp only [Scan.read, Pass.read, lineEnd, beq_iff_eq, if_false, mode, here]
    exact ⟨h.mode, h.previous, fun kind literal => by rw [here] at literal; cases literal⟩
  | blockComment =>
    rw [here] at mode
    simp only [Scan.read, Pass.read, lineEnd, beq_iff_eq, if_false, mode, here]
    exact ⟨h.mode, h.previous, fun kind literal => by rw [here] at literal; cases literal⟩
  | code =>
    rw [here] at mode
    simp only [Scan.read, Pass.read, lineEnd, beq_iff_eq, if_false, mode, here, modeAfterCode_eq, h.previous]
    cases opened : opens? p.previous c with
    | none => exact ⟨here.symm, rfl, fun kind literal => by rw [Pass.keep, here] at literal; cases literal⟩
    | some kind =>
      refine ⟨rfl, rfl, fun _ _ => ?_⟩
      -- The opener stands before the first character of the literal.
      simp [Scan.keep, oddBackslashes_cons, ne_backslash_of_opens? opened]
  | literal kind =>
    rw [here] at mode
    have parity : oddBackslashes s.line = p.escaped := h.escaped kind here
    simp only [Scan.read, Pass.read, lineEnd, beq_iff_eq, if_false, mode, here, h.previous]
    refine ⟨?_, rfl, fun _ _ => ?_⟩
    · simp [Scan.keep, modeAfterLiteral, parity]
    · simp [Scan.keep, oddBackslashes_cons, parity]

/-- A scan and a pass read two characters as a pair, or neither does. -/
theorem readPair? (h : Tracks s p) (c d : Char) :
    s.readPair? c d = none ∧ p.readPair? c d = none ∨
      ∃ s' p', s.readPair? c d = some s' ∧ p.readPair? c d = some p' ∧ Tracks s' p' := by
  rw [readPair?_eq, Pass.readPair?, ← h.mode]
  cases behind : s.mode.behindPair? c d with
  | none => exact .inl ⟨rfl, rfl⟩
  | some mode =>
    refine .inr ⟨_, _, rfl, rfl, rfl, h.previous, fun kind literal => ?_⟩
    obtain rfl : mode = .literal kind := literal
    exact absurd behind (Mode.behindPair?_ne_literal _ c d kind)

theorem write (h : Tracks s p) (c : Char) : ((s.fate c).standIn? c).toList = p.write c := by
  unfold fate Pass.write
  rw [← h.mode]
  by_cases lineEnd : c = '\n' <;> cases s.mode <;> simp [lineEnd, Fate.standIn?]

end Tracks

theorem kept_run_of_tracks : ∀ {s : Scan} {p : Pass}, s.Tracks p → ∀ text : List Char,
    (s.run text).kept = (p.written text).reverse ++ s.kept
  | s, p, _, [] => rfl
  | s, p, h, [c] => by
    rw [run, kept_read, h.write c, Pass.written, p.reverse_write c]
  | s, p, h, c :: d :: rest => by
    rcases h.readPair? c d with ⟨none, none'⟩ | ⟨s', p', some, some', pair⟩
    · simp only [run, Pass.written, none, none']
      rw [kept_run_of_tracks (h.read c) (d :: rest), kept_read, h.write c, List.reverse_append,
        p.reverse_write c, List.append_assoc]
    · simp only [run, Pass.written, some, some']
      rw [kept_run_of_tracks pair rest, kept_readPair? some]

end Scan

/-- The pass writes what `strip` keeps. -/
theorem strip_eq_written (text : List Char) : strip text = ({} : Pass).written text := by
  have start : ({} : Scan).Tracks {} := ⟨rfl, rfl, nofun⟩
  simp [strip, Scan.kept_run_of_tracks start text]

/-- A backslash in front of the opener does not escape the closer, and one in front of the closer does. -/
example : ({} : Pass).written "\\'' // a\n'\\' // b".toList = "\\'' \n'\\' // b".toList := by decide

end BundleAudit.Source

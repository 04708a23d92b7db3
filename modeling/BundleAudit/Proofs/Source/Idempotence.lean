import BundleAudit.Proofs.Source.Stripping

/-!
# Stripping twice

A cleaned script falls into the pieces that the script fell into, with blanks in the place of comments
(`Decomposes.residue`). What stands behind a comment cannot change how the piece before it opens: a slash
that is kept and could open a comment is a division or opens a pattern, and neither stands in front of a
comment.
-/

namespace BundleAudit.Source

open BundleAudit.Text

namespace Piece

def isComment : Piece → Bool
  | lineComment _ | blockComment _ _ => true
  | _ => false

/-- The pieces of the cleaned script that a piece leaves behind. -/
def residue : Piece → List Piece
  | lineComment _ => []
  | blockComment body _ => List.replicate (body.count '\n') (plain ' ')
  | p => [p]

theorem kept_of_not_comment {p : Piece} (h : p.isComment = false) : p.kept = p.text := by
  cases p <;> simp_all [isComment, kept]

theorem residue_of_not_comment {p : Piece} (h : p.isComment = false) : p.residue = [p] := by
  cases p <;> simp_all [isComment, residue]

theorem flatMap_kept_residue (p : Piece) : p.residue.flatMap kept = p.kept := by
  cases p <;> simp [residue, kept, text, List.flatMap_replicate]

/-- The text of a comment begins with a slash. -/
theorem head?_text_of_comment {p : Piece} (h : p.isComment = true) : p.text.head? = some '/' := by
  cases p <;> simp_all [isComment, text]

theorem head?_text_append (p : Piece) (rest : List Char) : (p.text ++ rest).head? = p.text.head? := by
  cases p <;> rfl

end Piece

/-- Stripping leaves the first character of a text, unless it is a slash, which may open a comment. -/
theorem Decomposes.head?_kept {previous : Option Char} {text : List Char} {ps : List Piece}
    (h : Decomposes previous text ps) (noSlash : text.head? ≠ some '/') :
    (ps.flatMap Piece.kept).head? = text.head? := by
  cases h with
  | nil => rfl
  | @cons _ p rest ps fits tail =>
    rw [p.head?_text_append] at noSlash ⊢
    have kept : p.kept = p.text := by
      refine Piece.kept_of_not_comment (Bool.eq_false_iff.2 fun comment => noSlash ?_)
      exact Piece.head?_text_of_comment comment
    rw [List.flatMap_cons, kept, p.head?_text_append]

/-! ## What stands behind a piece -/

theorem openingAt_congr {previous : Option Char} {c : Char} {rest rest' : List Char}
    (same : c = '/' → rest'.head? = rest.head?) :
    openingAt previous (c :: rest') = openingAt previous (c :: rest) := by
  by_cases slash : c = '/'
  · subst slash
    rw [openingAt_slash, openingAt_slash, same rfl]
  · rw [openingAt_of_ne_slash slash rest', openingAt_of_ne_slash slash rest]

theorem openingAt_slash_ne_plain (previous : Option Char) (rest : List Char) :
    openingAt previous ('/' :: rest) ≠ some .plain := by
  rw [openingAt_slash]
  split
  · simp
  split
  · simp
  · split <;> simp

theorem atLineEnd_congr {rest rest' : List Char} (same : rest'.head? = rest.head?) :
    AtLineEnd rest' ↔ AtLineEnd rest := by
  simp [AtLineEnd, same]

theorem AtLineEnd.head?_ne_slash {rest : List Char} (h : AtLineEnd rest) : rest.head? ≠ some '/' :=
  fun slash => absurd (h _ slash) (by decide)

/-- Whether a literal ends somewhere depends on one character behind that place. -/
theorem firstStop_literal_congr {kind : Literal} {body rest rest' : List Char}
    (same : rest'.head? = rest.head?) (h : FirstStop kind.MayEnd body rest) :
    FirstStop kind.MayEnd body rest' := by
  refine ⟨?_, fun before c after e stop => h.first before c after e ?_⟩
  · simpa [Literal.MayEnd, atLineEnd_congr same, same] using h.stops
  · simpa [Literal.MayEnd, AtLineEnd] using stop

/-- A piece that is no comment is read in front of any text that begins alike, and if the text begins with
a slash, in front of any text whatsoever. -/
theorem Piece.Fits.congr {previous : Option Char} {p : Piece} {rest rest' : List Char}
    (fits : p.Fits previous rest) (code : p.isComment = false)
    (same : rest.head? ≠ some '/' → rest'.head? = rest.head?) : p.Fits previous rest' := by
  obtain ⟨opens, ends⟩ := fits
  cases p with
  | lineEnd => exact ⟨rfl, trivial⟩
  | plain c =>
    refine ⟨?_, trivial⟩
    rw [← opens]
    refine openingAt_congr fun slash => ?_
    subst slash
    exact absurd opens (openingAt_slash_ne_plain previous rest)
  | division =>
    refine ⟨?_, trivial⟩
    rw [← opens]
    refine openingAt_congr fun _ => same fun slash => ?_
    simp [text, opening, openingAt_slash, slash] at opens
  | literal kind body closed =>
    obtain ⟨stop, off⟩ := ends
    have head : (closing [kind.closer] closed ++ rest').head? = (closing [kind.closer] closed ++ rest).head? := by
      cases closed with
      | false => exact same (off rfl).head?_ne_slash
      | true => rfl
    refine ⟨?_, firstStop_literal_congr head stop, fun h => ?_⟩
    · rw [← opens]
      refine openingAt_congr fun _ => ?_
      simp [List.head?_append, head]
    · exact (atLineEnd_congr (same (off h).head?_ne_slash)).2 (off h)
  | lineComment body => cases code
  | blockComment body closed => cases code

/-! ## Cleaned scripts -/

theorem Decomposes.blanks {previous : Option Char} {text : List Char} {ps : List Piece}
    (h : Decomposes previous text ps) : ∀ n : Nat,
    Decomposes previous (List.replicate n ' ' ++ text) (List.replicate n (.plain ' ') ++ ps)
  | 0 => h
  | n + 1 => by
    have fits : (Piece.plain ' ').Fits previous (List.replicate n ' ' ++ text) := ⟨rfl, trivial⟩
    have unchanged : previousAfter previous (Piece.plain ' ').kept = previous := previousAfter_blanks previous 1
    exact .cons fits (unchanged.symm ▸ h.blanks n)

/-- A cleaned script falls into what the pieces of the script leave behind. -/
theorem Decomposes.residue {previous : Option Char} {text : List Char} {ps : List Piece}
    (h : Decomposes previous text ps) :
    Decomposes previous (ps.flatMap Piece.kept) (ps.flatMap Piece.residue) := by
  induction h with
  | nil => exact .nil
  | @cons previous p rest ps fits tail ih =>
    rw [List.flatMap_cons, List.flatMap_cons]
    by_cases code : p.isComment = false
    · rw [Piece.kept_of_not_comment code, Piece.residue_of_not_comment code]
      exact .cons (fits.congr code tail.head?_kept) ih
    · cases p <;> simp only [Piece.isComment, not_true_eq_false] at code
      case lineComment body => exact ih
      case blockComment body closed =>
        have unchanged := previousAfter_blanks previous (body.count '\n')
        rw [Piece.kept, unchanged] at ih
        exact ih.blanks _

/-- What is kept of a script has no comments left. -/
theorem Decomposes.strip_flatMap_kept {text : List Char} {ps : List Piece} (h : Decomposes none text ps) :
    strip (ps.flatMap Piece.kept) = ps.flatMap Piece.kept := by
  rw [h.residue.strip_eq, List.flatMap_assoc]
  simp [Piece.flatMap_kept_residue]

/-- Stripping a script twice is stripping it once: where a comment is gone, or a line end in it, the pieces
around it open as they did before, and nothing in the cleaned script opens as a comment. -/
theorem strip_strip (text : List Char) :
    strip (strip text) = strip text ∧
      ∃ ps, Decomposes none text ps ∧ Decomposes none (strip text) (ps.flatMap Piece.residue) := by
  obtain ⟨ps, h⟩ := exists_decomposes none text
  have cleaned : Decomposes none (strip text) (ps.flatMap Piece.residue) := h.strip_eq ▸ h.residue
  refine ⟨?_, ps, h, cleaned⟩
  rw [h.strip_eq]
  exact h.strip_flatMap_kept

end BundleAudit.Source

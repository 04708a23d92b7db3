import BundleAudit.Proofs.Source.Idempotence
import Mathlib.Data.List.Forall2

/-!
# What comments hold

Two scripts that fall into the same pieces except for what their comments hold are stripped to the same
text, provided that the block comments have as many line ends (`SameCode.strip_eq`). A script and its
cleaned form are stripped to the same text as well.
-/

namespace BundleAudit.Source

/-- The pieces are equal, or comments of one kind. Block comments have as many line ends. -/
inductive Piece.SameCode : Piece → Piece → Prop
  | refl (p : Piece) : SameCode p p
  | lineComment (body body' : List Char) : SameCode (.lineComment body) (.lineComment body')
  | blockComment {body body' : List Char} (closed closed' : Bool) (lines : body.count '\n' = body'.count '\n') :
    SameCode (.blockComment body closed) (.blockComment body' closed')

/-- The texts fall into the same pieces except for what their comments hold. -/
def SameCode (text text' : List Char) : Prop :=
  ∃ ps ps', Decomposes none text ps ∧ Decomposes none text' ps' ∧ List.Forall₂ Piece.SameCode ps ps'

theorem Piece.SameCode.kept_eq {p p' : Piece} (h : p.SameCode p') : p.kept = p'.kept := by
  cases h with
  | refl => rfl
  | lineComment => rfl
  | blockComment closed closed' lines => rw [kept, kept, lines]

theorem SameCode.strip_eq {text text' : List Char} (h : SameCode text text') : strip text = strip text' := by
  obtain ⟨ps, ps', decomposes, decomposes', same⟩ := h
  rw [decomposes.strip_eq, decomposes'.strip_eq]
  clear decomposes decomposes'
  induction same with
  | nil => rfl
  | cons piece _ ih => rw [List.flatMap_cons, List.flatMap_cons, piece.kept_eq, ih]

/-- The text is the other one up to what comments hold, or the other one without its comments. -/
def DiffersInComments (text text' : List Char) : Prop := SameCode text text' ∨ text' = strip text

theorem DiffersInComments.strip_eq {text text' : List Char} (h : DiffersInComments text text') :
    strip text = strip text' := by
  rcases h with same | rfl
  · exact same.strip_eq
  · obtain ⟨ps, decomposes⟩ := exists_decomposes none text
    rw [decomposes.strip_eq, decomposes.strip_flatMap_kept]

end BundleAudit.Source

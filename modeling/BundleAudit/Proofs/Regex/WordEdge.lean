import BundleAudit.Proofs.Regex.Language
import BundleAudit.Text.Word

/-!
# Edges of words

Beside a character that is no word character there is an edge of a word exactly where a word character stands on its
other side (`wordEdge_front`, `wordEdge_back`). What may not follow a place is looked for after everything else
(`Expr.match_sequence_concat`).
-/

namespace BundleAudit.Text

theorem exists_of_inRanges : ∀ {rs : List CodeRange} {code : Nat}, inRanges rs code = true →
    ∃ r ∈ rs, r.low ≤ code ∧ code ≤ r.high
  | [], _, h => by cases h
  | r :: rs, code, h => by
    unfold inRanges at h
    split at h
    · cases h
    · next within =>
      by_cases here : code ≤ r.high
      · exact ⟨r, List.mem_cons_self, Nat.le_of_not_lt within, here⟩
      · obtain ⟨r', mem, found⟩ := exists_of_inRanges (by simpa [here] using h)
        exact ⟨r', List.mem_cons_of_mem r mem, found⟩

theorem blankRanges_apart_wordRanges :
    ∀ b ∈ blankRanges, ∀ w ∈ wordRanges, b.high < w.low ∨ w.high < b.low := by
  decide +kernel

/-- No word character is blank. -/
theorem not_isBlank_of_isWordChar {c : Char} (word : isWordChar c = true) : isBlank c = false := by
  refine Bool.eq_false_iff.2 fun blank => ?_
  obtain ⟨w, mem, low, high⟩ := exists_of_inRanges word
  obtain ⟨b, mem', low', high'⟩ := exists_of_inRanges blank
  have apart := blankRanges_apart_wordRanges b mem' w mem
  omega

end BundleAudit.Text

namespace BundleAudit.Regex

open BundleAudit.Text

/-- A word character stands at the front of a text. -/
def WordAhead (text : List Char) : Prop := ∃ c rest, text = c :: rest ∧ isWordChar c = true

theorem wordEdge_front {c : Char} (noWord : isWordChar c = false) (before after : List Char) :
    (Anchor.wordEdge false).holds ⟨before, c :: after, 0, []⟩ = true ↔ WordAhead before := by
  cases before with
  | nil =>
    have holds : (Anchor.wordEdge false).holds ⟨[], c :: after, 0, []⟩ = (false != isWordChar c) := rfl
    simp [holds, noWord, WordAhead]
  | cons b before =>
    have holds : (Anchor.wordEdge false).holds ⟨b :: before, c :: after, 0, []⟩ =
      (isWordChar b != isWordChar c) := rfl
    simp [holds, noWord, WordAhead]

theorem wordEdge_back {c : Char} (noWord : isWordChar c = false) (before after : List Char) :
    (Anchor.wordEdge false).holds ⟨c :: before, after, 0, []⟩ = true ↔ WordAhead after := by
  cases after with
  | nil =>
    have holds : (Anchor.wordEdge false).holds ⟨c :: before, [], 0, []⟩ = (isWordChar c != false) := rfl
    simp [holds, noWord, WordAhead]
  | cons a after =>
    have holds : (Anchor.wordEdge false).holds ⟨c :: before, a :: after, 0, []⟩ =
      (isWordChar c != isWordChar a) := rfl
    simp [holds, noWord, WordAhead]

/-- There is an edge of a word where a word character stands on one side alone. -/
theorem wordEdge_holds_iff (before after : List Char) :
    (Anchor.wordEdge false).holds ⟨before, after, 0, []⟩ = true ↔ ¬ (WordAhead before ↔ WordAhead after) := by
  have bool (a b : Bool) : (a != b) = true ↔ ¬ (a = true ↔ b = true) := by cases a <;> cases b <;> simp
  have side (text : List Char) : WordAhead text ↔ text.head?.any isWordChar = true := by
    cases text <;> simp [WordAhead]
  rw [side, side, ← bool]
  cases before <;> cases after <;> rfl

theorem contains_blank (c : Char) : CharClass.blank.contains c = isBlank c := by
  simp [CharClass.blank, CharClass.contains, ClassItem.holds, Category.holds, Folding.apply, isBlank]

namespace Expr

theorem match_sequence_cons (e : Expr) (k : Continuation) (p : Place) : ∀ es : List Expr,
    (sequence (e :: es)).match k p = e.match ((sequence es).match k) p
  | [] => rfl
  | _ :: _ => rfl

theorem match_sequence_append (k : Continuation) (fs : List Expr) : ∀ (es : List Expr) (p : Place),
    (sequence (es ++ fs)).match k p = (sequence es).match ((sequence fs).match k) p
  | [], _ => rfl
  | e :: es, p => by
    have rest : (sequence (es ++ fs)).match k = (sequence es).match ((sequence fs).match k) :=
      funext (match_sequence_append k fs es)
    rw [List.cons_append, match_sequence_cons, match_sequence_cons, rest]

theorem match_sequence_concat (f : Expr) (k : Continuation) (es : List Expr) (p : Place) :
    (sequence (es ++ [f])).match k p = (sequence es).match (f.match k) p := match_sequence_append k [f] es p

theorem match_notFollowedBy (e : Expr) (k : Continuation) (p : Place) :
    (notFollowedBy e).match k p = if (e.match some p).isSome then none else k p := rfl

end Expr

end BundleAudit.Regex

import BundleAudit.Proofs.Regex.WordEdge

/-!
# Expressions without anchors

An expression without anchors matches the same texts wherever they stand (`Expr.accepts_unanchored`). One that starts
with an edge of a word and has no other anchor needs the word characters on both sides of that edge, and nothing that
stands farther away (`Expr.accepts_edge`).
-/

namespace BundleAudit.Regex

theorem Iterates.congr {R S : MatchRelation} (same : ∀ before s after before' after', R before s after →
    S before' s after') : ∀ (n : Nat) {before s after before' after' : List Char}, Iterates R n before s after →
      Iterates S n before' s after'
  | 0, _, _, _, _, _, all => all
  | n + 1, _, _, _, _, _, ⟨s₁, s₂, split, first, later⟩ =>
    ⟨s₁, s₂, split, same _ _ _ _ _ first, Iterates.congr same n later⟩

theorem wordAhead_append {s : List Char} (nonempty : s ≠ []) (text : List Char) :
    WordAhead (s ++ text) ↔ WordAhead s := by
  obtain ⟨c, rest, rfl⟩ := List.exists_cons_of_ne_nil nonempty
  simp [WordAhead]

namespace Expr

/-- There is no anchor in the expression, nor anything else that looks at its surroundings. -/
def IsUnanchored : Expr → Bool
  | .empty | .one _ | .run .. => true
  | .seq first second | .alt first second => first.IsUnanchored && second.IsUnanchored
  | .loop body _ _ _ => body.IsUnanchored
  | _ => false

theorem accepts_unanchored : ∀ {e : Expr} {before s after before' after' : List Char}, e.IsUnanchored = true →
    e.Accepts before s after → e.Accepts before' s after'
  | .empty, _, _, _, _, _, _, accepts => accepts
  | .one _, _, _, _, _, _, _, accepts => accepts
  | .run .., _, _, _, _, _, _, accepts => accepts
  | .seq _ _, _, _, _, _, _, free, ⟨s₁, s₂, split, first, second⟩ =>
    have both := Bool.and_eq_true_iff.1 free
    ⟨s₁, s₂, split, accepts_unanchored both.1 first, accepts_unanchored both.2 second⟩
  | .alt _ _, _, _, _, _, _, free, accepts =>
    have both := Bool.and_eq_true_iff.1 free
    accepts.imp (accepts_unanchored both.1) (accepts_unanchored both.2)
  | .loop body _ _ _, _, _, _, _, _, free, ⟨more, fits, all⟩ =>
    ⟨more, fits, Iterates.congr (R := body.Accepts) (S := body.Accepts)
      (fun _ _ _ _ _ accepts => accepts_unanchored free accepts) _ all⟩

theorem isUnanchored_sequence {es : List Expr} (free : ∀ e ∈ es, e.IsUnanchored = true) :
    (sequence es).IsUnanchored = true := by
  induction es with
  | nil => rfl
  | cons e es ih =>
    obtain ⟨first, rest⟩ := List.forall_mem_cons.1 free
    cases es with
    | nil => exact first
    | cons f es => exact Bool.and_eq_true_iff.2 ⟨first, ih rest⟩

theorem isUnanchored_choice {es : List Expr} (free : ∀ e ∈ es, e.IsUnanchored = true) :
    (choice es).IsUnanchored = true := by
  induction es with
  | nil => rfl
  | cons e es ih =>
    obtain ⟨first, rest⟩ := List.forall_mem_cons.1 free
    cases es with
    | nil => exact first
    | cons f es => exact Bool.and_eq_true_iff.2 ⟨first, ih rest⟩

theorem isUnanchored_literal (text : List Char) : (literal text).IsUnanchored = true := by
  refine isUnanchored_sequence fun e mem => ?_
  obtain ⟨c, -, rfl⟩ := List.mem_map.1 mem
  rfl

theorem accepts_edge {es : List Expr} {before s after : List Char} :
    (sequence (edge :: es)).Accepts before s after ↔
      ¬ (WordAhead before ↔ WordAhead (s ++ after)) ∧ (sequence es).Accepts before s after := by
  rw [accepts_sequence_cons, ← wordEdge_holds_iff]
  constructor
  · rintro ⟨_, s, rfl, ⟨rfl, holds⟩, accepts⟩
    exact ⟨holds, accepts⟩
  · rintro ⟨holds, accepts⟩
    exact ⟨[], s, rfl, ⟨rfl, holds⟩, accepts⟩

end Expr

end BundleAudit.Regex

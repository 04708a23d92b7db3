import Mathlib.Data.List.Basic
import Mathlib.Order.Defs.LinearOrder

/-!
# Stable sorting

Sorting by a comparison that need not tell elements apart depends on more than the elements, but only on
the sequence of those that tie: where each of these is the same, two lists are sorted alike
(`mergeSort_congr`).
-/

namespace BundleAudit

section
variable {α : Type} {cmp : α → α → Ordering}

/-- The comparison does not tell the elements apart. -/
def ties (cmp : α → α → Ordering) (a b : α) : Bool := (cmp a b).isEq

theorem ties_iff {a b : α} : ties cmp a b = true ↔ cmp a b = .eq := Ordering.isEq_iff_eq_eq

variable [Std.TransCmp cmp]

theorem ties_self (a : α) : ties cmp a a = true := ties_iff.2 Std.ReflCmp.compare_self

theorem isLE_trans_of_cmp (a b c : α) (ab : (cmp a b).isLE = true) (bc : (cmp b c).isLE = true) :
    (cmp a c).isLE = true :=
  Std.TransCmp.isLE_trans ab bc

theorem isLE_total_of_cmp (a b : α) : ((cmp a b).isLE || (cmp b a).isLE) = true := by
  cases h : cmp a b with
  | lt => rfl
  | eq => rfl
  | gt => simp [Std.OrientedCmp.lt_of_gt h]

theorem filter_mergeSort (l : List α) (a : α) :
    (l.mergeSort fun x y => (cmp x y).isLE).filter (ties cmp a) = l.filter (ties cmp a) := by
  have tied : (l.filter (ties cmp a)).Pairwise fun x y => (cmp x y).isLE = true := by
    refine List.pairwise_of_forall_mem_list fun x hx y hy => ?_
    have ax := ties_iff.1 (List.mem_filter.1 hx).2
    have ay := ties_iff.1 (List.mem_filter.1 hy).2
    exact Ordering.isLE_of_eq_eq (Std.TransCmp.eq_trans (Std.OrientedCmp.eq_symm ax) ay)
  have kept := (List.sublist_mergeSort isLE_trans_of_cmp isLE_total_of_cmp tied List.filter_sublist).filter
    (ties cmp a)
  rw [List.filter_filter] at kept
  simp only [Bool.and_self] at kept
  exact (kept.eq_of_length ((List.mergeSort_perm l _).filter _).length_eq.symm).symm

/-- A sorted list is determined by its sequences of elements that tie. -/
theorem eq_of_filter_eq : ∀ {l l' : List α},
    l.Pairwise (fun x y => (cmp x y).isLE = true) → l'.Pairwise (fun x y => (cmp x y).isLE = true) →
    (∀ a, l.filter (ties cmp a) = l'.filter (ties cmp a)) → l = l'
  | [], [], _, _, _ => rfl
  | [], b :: l', _, _, same => by simpa [ties_self] using same b
  | a :: l, [], _, _, same => by simpa [ties_self] using same a
  | a :: l, b :: l', sorted, sorted', same => by
    have ha : a ∈ (b :: l').filter (ties cmp a) := by rw [← same a]; simp [ties_self]
    have hb : b ∈ (a :: l).filter (ties cmp b) := by rw [same b]; simp [ties_self]
    have ba : (cmp b a).isLE = true := by
      rcases List.mem_cons.1 (List.mem_filter.1 ha).1 with rfl | mem
      · exact Std.ReflCmp.isLE_rfl
      · exact List.rel_of_pairwise_cons sorted' mem
    have ab : (cmp a b).isLE = true := by
      rcases List.mem_cons.1 (List.mem_filter.1 hb).1 with rfl | mem
      · exact Std.ReflCmp.isLE_rfl
      · exact List.rel_of_pairwise_cons sorted mem
    have tie : ties cmp a b = true := ties_iff.2 (Std.OrientedCmp.isLE_antisymm ab ba)
    have heads := same a
    rw [List.filter_cons_of_pos (ties_self a), List.filter_cons_of_pos tie] at heads
    obtain rfl : a = b := (List.cons.inj heads).1
    rw [eq_of_filter_eq (List.Pairwise.of_cons sorted) (List.Pairwise.of_cons sorted') fun c => ?_]
    have tails := same c
    by_cases h : ties cmp c a = true
    · rw [List.filter_cons_of_pos h, List.filter_cons_of_pos h] at tails
      exact (List.cons.inj tails).2
    · rwa [List.filter_cons_of_neg h, List.filter_cons_of_neg h] at tails

theorem mergeSort_congr {l l' : List α} (same : ∀ a, l.filter (ties cmp a) = l'.filter (ties cmp a)) :
    l.mergeSort (fun x y => (cmp x y).isLE) = l'.mergeSort fun x y => (cmp x y).isLE :=
  eq_of_filter_eq (List.pairwise_mergeSort isLE_trans_of_cmp isLE_total_of_cmp l)
    (List.pairwise_mergeSort isLE_trans_of_cmp isLE_total_of_cmp l') fun a => by
      rw [filter_mergeSort, filter_mergeSort, same a]

variable (cmp) in
/-- Blocks of elements, of which no two hold elements that tie, may be put in any order. -/
theorem mergeSort_flatMap_perm {β : Type} (f : β → List α) {blocks blocks' : List β}
    (perm : blocks.Perm blocks')
    (apart : blocks.Pairwise fun b c => ∀ x ∈ f b, ∀ y ∈ f c, cmp x y ≠ .eq) :
    (blocks.flatMap f).mergeSort (fun x y => (cmp x y).isLE) =
      (blocks'.flatMap f).mergeSort fun x y => (cmp x y).isLE := by
  refine mergeSort_congr fun a => ?_
  have alone : blocks.Pairwise fun b c => (f b).filter (ties cmp a) = [] ∨ (f c).filter (ties cmp a) = [] := by
    refine apart.imp fun {b c} h => or_iff_not_imp_left.2 fun some => ?_
    obtain ⟨x, hx⟩ := List.exists_mem_of_ne_nil _ some
    obtain ⟨xb, ax⟩ := List.mem_filter.1 hx
    refine List.filter_eq_nil_iff.2 fun y yc ay => h x xb y yc ?_
    exact Std.TransCmp.eq_trans (Std.OrientedCmp.eq_symm (ties_iff.1 ax)) (ties_iff.1 ay)
  clear apart
  induction perm with
  | nil => rfl
  | cons b _ ih => simp [ih (List.pairwise_cons.1 alone).2]
  | swap b c l => rcases (List.pairwise_cons.1 alone).1 b (by simp) with h | h <;> simp [h]
  | trans p _ ih ih' => rw [ih alone, ih' ((p.pairwise_iff fun h => h.symm).1 alone)]

end

/-! ## Names -/

/-- Names that differ are in strictly ascending order once they are sorted. -/
theorem ascending_mergeSort {names : List String} (distinct : names.Nodup) :
    (names.mergeSort fun m n => (compare m n).isLE).Pairwise (· < ·) := by
  have sorted : (names.mergeSort fun m n => (compare m n).isLE).Pairwise fun m n => (compare m n).isLE = true :=
    List.pairwise_mergeSort isLE_trans_of_cmp isLE_total_of_cmp _
  refine (sorted.and ((List.mergeSort_perm _ _).nodup_iff.2 distinct)).imp fun {m n} h => ?_
  have lt : compare m n = .lt := by
    cases c : compare m n with
    | lt => rfl
    | eq => exact absurd (Std.LawfulEqCmp.eq_of_compare c) h.2
    | gt => simp [c] at h
  exact compareOfLessAndEq_eq_lt.1 lt

/-- Names are sorted alike in whatever order they stand. -/
theorem mergeSort_eq_of_perm {names names' : List String} (perm : names.Perm names') :
    (names.mergeSort fun m n => (compare m n).isLE) = names'.mergeSort fun m n => (compare m n).isLE := by
  have sorted (l : List String) : (l.mergeSort fun m n => (compare m n).isLE).Pairwise fun m n =>
      (compare m n).isLE = true := List.pairwise_mergeSort isLE_trans_of_cmp isLE_total_of_cmp l
  refine List.Perm.eq_of_pairwise (fun m n _ _ mn nm => ?_) (sorted names) (sorted names')
    ((List.mergeSort_perm names _).trans (perm.trans (List.mergeSort_perm names' _).symm))
  exact Std.LawfulEqCmp.eq_of_compare (Std.OrientedCmp.isLE_antisymm mn nm)

end BundleAudit

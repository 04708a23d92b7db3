import Mathlib.Data.List.Basic

/-!
# The first of those that share a key

Of the elements of a list that share a key, the first one is kept. A pass that keeps an element unless one with
its key was kept before ends with these (`foldl_keep_firsts`).
-/

namespace BundleAudit

variable {α κ : Type} [BEq κ] (key : α → κ)

def firsts : List α → List α
  | [] => []
  | a :: l => a :: (firsts l).filter fun b => !(key a == key b)

variable {key} in
theorem firsts_sublist : ∀ l : List α, (firsts key l).Sublist l
  | [] => .slnil
  | a :: l => (List.filter_sublist.trans (firsts_sublist l)).cons_cons a

theorem firsts_map {β : Type} (f : β → α) : ∀ l : List β, firsts key (l.map f) = (firsts (key ∘ f) l).map f
  | [] => rfl
  | b :: l => by
    rw [List.map_cons, firsts, firsts_map f l, firsts, List.map_cons, List.filter_map]
    rfl

variable [LawfulBEq κ]

theorem foldl_keep_firsts : ∀ l kept : List α,
    l.foldl (fun kept a => if kept.any (key · == key a) then kept else kept ++ [a]) kept =
      kept ++ (firsts key l).filter fun a => !kept.any (key · == key a)
  | [], kept => by simp [firsts]
  | a :: l, kept => by
    rw [List.foldl_cons, foldl_keep_firsts l, firsts]
    by_cases held : kept.any (key · == key a) = true
    · rw [if_pos held, List.filter_cons_of_neg (by simp [held]), List.filter_filter]
      refine congrArg _ (List.filter_congr fun b _ => ?_)
      by_cases same : key a = key b
      · simp [← same, held]
      · simp [same]
    · simp [held, List.filter_filter]

theorem firsts_append (l l' : List α) :
    firsts key (l ++ l') =
      firsts key l ++ (firsts key l').filter fun a => !(firsts key l).any (key · == key a) := by
  have whole := foldl_keep_firsts key (l ++ l') []
  have front := foldl_keep_firsts key l []
  simp only [List.any_nil, Bool.not_false, List.filter_true, List.nil_append] at whole front
  rw [← whole, List.foldl_append, front, foldl_keep_firsts]

variable {key}

/-- An element is kept if it is the first with its key. -/
theorem mem_firsts {a : α} : ∀ {l : List α}, a ∈ firsts key l ↔ l.find? (key a == key ·) = some a
  | [] => by simp [firsts]
  | b :: l => by
    rw [firsts, List.find?_cons, List.mem_cons, List.mem_filter, mem_firsts]
    by_cases same : key a = key b
    · simp [same, eq_comm]
    · have other : a ≠ b := fun h => same (congrArg key h)
      have key_bne : (key a == key b) = false := beq_false_of_ne same
      simp [key_bne, other, Ne.symm same]

theorem nodup_firsts : ∀ l : List α, ((firsts key l).map key).Nodup
  | [] => .nil
  | a :: l => by
    rw [firsts, List.map_cons, List.nodup_cons]
    refine ⟨fun mem => ?_, (nodup_firsts l).sublist (List.filter_sublist.map key)⟩
    obtain ⟨b, kept, same⟩ := List.mem_map.1 mem
    simpa [same] using (List.mem_filter.1 kept).2

/-- Of elements with different keys all are kept. -/
theorem firsts_eq_self : ∀ {l : List α}, (l.map key).Nodup → firsts key l = l
  | [], _ => rfl
  | a :: l, distinct => by
    obtain ⟨fresh, rest⟩ := List.nodup_cons.1 distinct
    rw [firsts, firsts_eq_self rest, List.filter_eq_self.2]
    intro b mem
    have other : key a ≠ key b := fun same => fresh (same ▸ List.mem_map_of_mem mem)
    simp [other]

end BundleAudit

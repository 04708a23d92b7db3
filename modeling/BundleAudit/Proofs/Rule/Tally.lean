import BundleAudit.Rule.Basic

/-!
# Tallies

A tally gives for a name the first of its counts that is not zero (`lookup_tally`), and it has each name once
(`nodup_names_tally`). It is empty if everything has been counted as zero.
-/

namespace BundleAudit

theorem foldl_tally_ne_nil : ∀ (counts found : List (String × Nat)), found ≠ [] →
    counts.foldl (fun found (name, n) =>
      if n == 0 || (found.lookup name).isSome then found else found ++ [(name, n)]) found ≠ []
  | [], _, h => h
  | (name, n) :: counts, found, h => by
    rw [List.foldl_cons]
    refine foldl_tally_ne_nil counts _ ?_
    dsimp only
    split
    · exact h
    · simp

/-- A tally is empty if everything has been counted as zero. -/
theorem tally_eq_nil_iff : ∀ {counts : List (String × Nat)}, tally counts = [] ↔ ∀ c ∈ counts, c.2 = 0
  | [] => by simp [tally]
  | (name, n) :: counts => by
    have rest : tally counts = [] ↔ ∀ c ∈ counts, c.2 = 0 := tally_eq_nil_iff
    unfold tally at rest ⊢
    rw [List.foldl_cons, List.forall_mem_cons]
    by_cases zero : n = 0
    · simpa [zero] using rest
    · refine iff_of_false ?_ fun all => zero all.1
      simpa [zero] using foldl_tally_ne_nil counts [(name, n)] (by simp)

theorem lookup_foldl_tally (name : String) : ∀ (counts found : List (String × Nat)),
    (counts.foldl (fun found (name, n) =>
      if n == 0 || (found.lookup name).isSome then found else found ++ [(name, n)]) found).lookup name =
        (found.lookup name).or ((counts.filter (·.2 != 0)).lookup name)
  | [], found => by simp
  | (key, n) :: counts, found => by
    rw [List.foldl_cons, lookup_foldl_tally name counts]
    by_cases zero : n = 0
    · simp [zero]
    by_cases same : name = key
    · subst same
      cases known : found.lookup name with
      | some m => simp [zero, known]
      | none => simp [zero, known, List.lookup_append]
    · have apart : (name == key) = false := beq_eq_false_iff_ne.2 same
      cases known : found.lookup key with
      | some m => simp [zero, known, List.lookup_cons, apart]
      | none => simp [zero, known, List.lookup_append, List.lookup_cons, apart]

theorem lookup_tally (name : String) (counts : List (String × Nat)) :
    (tally counts).lookup name = (counts.filter (·.2 != 0)).lookup name :=
  lookup_foldl_tally name counts []

theorem nodup_names_foldl_tally : ∀ (counts found : List (String × Nat)), (found.map (·.1)).Nodup →
    ((counts.foldl (fun found (name, n) =>
      if n == 0 || (found.lookup name).isSome then found else found ++ [(name, n)]) found).map (·.1)).Nodup
  | [], found, h => h
  | (key, n) :: counts, found, h => by
    rw [List.foldl_cons]
    refine nodup_names_foldl_tally counts _ ?_
    dsimp only
    split
    · exact h
    · next new =>
      have unknown : ∀ entry ∈ found, key ≠ entry.1 := by
        simp only [Bool.or_eq_true, not_or, Bool.not_eq_true, Option.isSome_eq_false_iff,
          Option.isNone_iff_eq_none, List.lookup_eq_none_iff] at new
        simpa using new.2
      rw [List.map_append, List.nodup_append]
      refine ⟨h, by simp, ?_⟩
      rintro _ mem _ last rfl
      obtain ⟨entry, known, same⟩ := List.mem_map.1 mem
      exact unknown entry known ((List.mem_singleton.1 last).symm.trans same.symm)

theorem nodup_names_tally (counts : List (String × Nat)) : ((tally counts).map (·.1)).Nodup :=
  nodup_names_foldl_tally counts [] List.nodup_nil

/-- A tally that counts each name by a function gives the counts of the function. -/
theorem lookup_tally_map {names : List String} {f : String → Nat} {name : String} {n : Nat} :
    (tally (names.map fun s => (s, f s))).lookup name = some n ↔ name ∈ names ∧ 0 < n ∧ f name = n := by
  rw [lookup_tally]
  induction names with
  | nil => simp
  | cons s rest ih =>
    by_cases zero : f s = 0
    · rw [List.map_cons, List.filter_cons_of_neg (by simp [zero]), ih, List.mem_cons]
      constructor
      · exact fun ⟨mem, pos, count⟩ => ⟨.inr mem, pos, count⟩
      · rintro ⟨rfl | mem, pos, count⟩
        · omega
        · exact ⟨mem, pos, count⟩
    · rw [List.map_cons, List.filter_cons_of_pos (by simpa using zero), List.lookup_cons]
      by_cases same : name = s
      · subst same
        simp only [beq_self_eq_true, Option.some.injEq, List.mem_cons, true_or, true_and]
        constructor
        · rintro rfl
          exact ⟨Nat.pos_of_ne_zero zero, rfl⟩
        · exact fun h => h.2
      · simp only [beq_eq_false_iff_ne.2 same, ih, List.mem_cons, same, false_or]

end BundleAudit

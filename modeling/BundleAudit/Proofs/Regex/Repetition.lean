import BundleAudit.Proofs.Regex.Occurrence

/-!
# Repetitions

A repetition matches a number of texts in a row, each of which its body matches. Two things about it do not follow
from the body alone. An iteration that consumes nothing ends the repetition, but whatever is matched with such
iterations is matched without them (`Iterates.exists_consuming`). And the fuel of a repetition is enough, because
each further iteration consumes a character (`Matcher.isSome_upToGreedy`).

So a repetition finds only what it should find (`Matcher.OnlyFinds.loop`) and finds something if there is something to
find (`Matcher.Finds.loop`), if its body does; one that gives nothing back is another matter.
-/

namespace BundleAudit.Regex

/-- Which texts are matched behind a text (nearest character first) and in front of a text. -/
abbrev MatchRelation := (before s after : List Char) → Prop

/-- So many texts in a row that are matched. -/
def Iterates (R : MatchRelation) : Nat → MatchRelation
  | 0, _, s, _ => s = []
  | n + 1, before, s, after => ∃ s₁ s₂, s = s₁ ++ s₂ ∧ R before s₁ (s₂ ++ after) ∧
      Iterates R n (s₁.reverse ++ before) s₂ after

/-- At least so many texts in a row that are matched, and further ones up to a limit. -/
def Repeats (R : MatchRelation) (least : Nat) (most : Option Nat) : MatchRelation := fun before s after =>
  ∃ more, (most.map (· - least)).all (more ≤ ·) = true ∧ Iterates R (least + more) before s after

/-- Some further texts in a row, up to a limit, lead from a place to where the continuation goes on. -/
def Further (R : MatchRelation) (room : Option Nat) (k : Continuation) (p r : Place) : Prop :=
  ∃ n, room.all (n ≤ ·) = true ∧
    ∃ s after, p.after = s ++ after ∧ Iterates R n p.before s after ∧ k (p.behind s after) = some r

variable {R : MatchRelation} {m : Matcher}

theorem Further.stop {room : Option Nat} {k : Continuation} {p r : Place} (h : k p = some r) : Further R room k p r :=
  ⟨0, by cases room <;> simp, [], p.after, rfl, rfl, h⟩

theorem Iterates.append {i j : Nat} : ∀ {before s₁ s₂ after : List Char}, Iterates R i before s₁ (s₂ ++ after) →
    Iterates R j (s₁.reverse ++ before) s₂ after → Iterates R (i + j) before (s₁ ++ s₂) after := by
  induction i with
  | zero =>
    rintro before _ s₂ after rfl rest
    rwa [Nat.zero_add]
  | succ i ih =>
    rintro before _ s₂ after ⟨t, s₁, rfl, first, later⟩ rest
    rw [Nat.succ_add]
    refine ⟨t, s₁ ++ s₂, List.append_assoc _ _ _, by rwa [List.append_assoc], ih later ?_⟩
    rwa [← List.append_assoc, ← List.reverse_append]

theorem Iterates.split {i j : Nat} : ∀ {before s after : List Char}, Iterates R (i + j) before s after →
    ∃ s₁ s₂, s = s₁ ++ s₂ ∧ Iterates R i before s₁ (s₂ ++ after) ∧ Iterates R j (s₁.reverse ++ before) s₂ after := by
  induction i with
  | zero =>
    intro before s after all
    rw [Nat.zero_add] at all
    exact ⟨[], s, rfl, rfl, all⟩
  | succ i ih =>
    intro before s after all
    rw [Nat.succ_add] at all
    obtain ⟨t, rest, rfl, first, later⟩ := all
    obtain ⟨s₁, s₂, rfl, front, back⟩ := ih later
    refine ⟨t ++ s₁, s₂, (List.append_assoc _ _ _).symm, ⟨t, s₁, rfl, ?_, front⟩, ?_⟩
    · rwa [← List.append_assoc]
    · rwa [List.reverse_append, List.append_assoc]

/-- The matches that consume something. -/
def Consuming (R : MatchRelation) : MatchRelation := fun before s after => s ≠ [] ∧ R before s after

theorem Iterates.exists_consuming {n : Nat} : ∀ {before s after : List Char}, Iterates R n before s after →
    ∃ i ≤ n, Iterates (Consuming R) i before s after := by
  induction n with
  | zero => exact fun all => ⟨0, Nat.le_refl 0, all⟩
  | succ n ih =>
    rintro before _ after ⟨s₁, s₂, rfl, first, later⟩
    obtain ⟨i, fewer, rest⟩ := ih later
    by_cases empty : s₁ = []
    · subst empty
      exact ⟨i, Nat.le_succ_of_le fewer, rest⟩
    · exact ⟨i + 1, Nat.succ_le_succ fewer, s₁, s₂, rfl, ⟨empty, first⟩, rest⟩

namespace Matcher

/-- Whatever the matcher finds is in the relation, and the continuation accepts the place behind it. -/
def OnlyFinds (m : Matcher) (R : MatchRelation) : Prop :=
  ∀ {k : Continuation} {p r : Place}, m k p = some r →
    ∃ s after, p.after = s ++ after ∧ R p.before s after ∧ k (p.behind s after) = some r

/-- The matcher finds something if a text is in the relation and the continuation accepts the place behind it. -/
def Finds (m : Matcher) (R : MatchRelation) : Prop :=
  ∀ {k : Continuation} {p : Place} {s after : List Char}, p.after = s ++ after → R p.before s after →
    (k (p.behind s after)).isSome → (m k p).isSome

/-! ## What repetitions find -/

section
variable (sound : m.OnlyFinds R)
include sound

theorem exists_of_times : ∀ (n : Nat) {k : Continuation} {p r : Place}, m.times k n p = some r →
    ∃ s after, p.after = s ++ after ∧ Iterates R n p.before s after ∧ k (p.behind s after) = some r
  | 0, k, p, r, found => ⟨[], p.after, rfl, rfl, found⟩
  | n + 1, k, p, r, found => by
    rw [times] at found
    obtain ⟨s₁, _, split, first, found⟩ := sound found
    obtain ⟨s₂, after, rfl, later, found⟩ := exists_of_times n found
    rw [Place.behind_behind] at found
    exact ⟨s₁ ++ s₂, after, by rw [split, List.append_assoc], ⟨s₁, s₂, rfl, first, later⟩, found⟩

/-- One iteration of a repetition, which ends it if nothing was consumed. -/
theorem further_of_iteration {next : Option Nat → Place → Option Place} {k : Continuation} {room : Option Nat}
    {p r : Place} (more : room ≠ some 0)
    (rest : ∀ {room : Option Nat} {q : Place}, next room q = some r → Further R room k q r)
    (found : m (fun q => if q.offset == p.offset then k q else next (room.map (· - 1)) q) p = some r) :
    Further R room k p r := by
  have within {n : Nat} (h : (room.map (· - 1)).all (n ≤ ·) = true) : room.all (n + 1 ≤ ·) = true := by
    cases room with
    | none => rfl
    | some most =>
      simp only [Option.map_some, Option.all_some, decide_eq_true_eq, ne_eq, Option.some.injEq] at h more ⊢
      omega
  obtain ⟨s₁, back, split, first, found⟩ := sound found
  split at found
  · exact ⟨1, within (by cases room <;> simp), s₁, back, split, ⟨s₁, [], by simp, by simpa using first, rfl⟩, found⟩
  · obtain ⟨n, fits, s₂, after, rfl, later, found⟩ := rest found
    rw [Place.behind_behind] at found
    exact ⟨n + 1, within fits, s₁ ++ s₂, after, by rw [split, List.append_assoc], ⟨s₁, s₂, rfl, first, later⟩, found⟩

theorem further_of_upToGreedy {k : Continuation} {r : Place} : ∀ (fuel : Nat) {room : Option Nat} {p : Place},
    m.upToGreedy k fuel room p = some r → Further R room k p r
  | 0, room, p, found => .stop found
  | fuel + 1, room, p, found => by
    rw [upToGreedy] at found
    split at found
    · exact .stop found
    · next more =>
      split at found
      · next q first =>
        exact further_of_iteration sound (by simpa using more) (further_of_upToGreedy fuel) (first.trans found)
      · exact .stop found

theorem further_of_upToLazy {k : Continuation} {r : Place} : ∀ (fuel : Nat) {room : Option Nat} {p : Place},
    m.upToLazy k fuel room p = some r → Further R room k p r
  | 0, room, p, found => .stop found
  | fuel + 1, room, p, found => by
    rw [upToLazy] at found
    split at found
    · next q first => exact .stop (first.trans found)
    · split at found
      · cases found
      · next more => exact further_of_iteration sound (by simpa using more) (further_of_upToLazy fuel) found

theorem OnlyFinds.loop {least : Nat} {most : Option Nat} {greed : Greed} (yields : greed ≠ .possessive) :
    (m.loop least most greed).OnlyFinds (Repeats R least most) := by
  intro k p r found
  have whole {more : Continuation}
      (further : ∀ {q : Place}, more q = some r → Further R (most.map (· - least)) k q r)
      (found : m.times more least p = some r) :
      ∃ s after, p.after = s ++ after ∧ Repeats R least most p.before s after ∧ k (p.behind s after) = some r := by
    obtain ⟨s₁, _, split, front, found⟩ := exists_of_times sound least found
    obtain ⟨n, fits, s₂, after, rfl, back, found⟩ := further found
    rw [Place.behind_behind] at found
    exact ⟨s₁ ++ s₂, after, by rw [split, List.append_assoc], ⟨n, fits, front.append back⟩, found⟩
  cases greed with
  | greedy => exact whole (further_of_upToGreedy sound _) found
  | lazy => exact whole (further_of_upToLazy sound _) found
  | possessive => exact absurd rfl yields

end

/-! ## That repetitions find something -/

section
variable (complete : m.Finds R)
include complete

theorem isSome_times : ∀ (n : Nat) {k : Continuation} {p : Place} {s after : List Char}, p.after = s ++ after →
    Iterates R n p.before s after → (k (p.behind s after)).isSome → (m.times k n p).isSome
  | 0, k, p, s, after, split, all, goesOn => by
    obtain rfl : s = [] := all
    obtain rfl : p.after = after := split
    exact goesOn
  | n + 1, k, p, s, after, split, all, goesOn => by
    obtain ⟨s₁, s₂, rfl, first, later⟩ := all
    rw [List.append_assoc] at split
    rw [times]
    refine complete split first (isSome_times n rfl later ?_)
    rwa [Place.behind_behind]

/-- An iteration that consumes something goes on behind it. -/
theorem isSome_iteration {next : Place → Option Place} {k : Continuation} {p : Place} {s₁ s₂ after : List Char}
    (split : p.after = s₁ ++ (s₂ ++ after)) (first : Consuming R p.before s₁ (s₂ ++ after))
    (rest : (next (p.behind s₁ (s₂ ++ after))).isSome) :
    (m (fun q => if q.offset == p.offset then k q else next q) p).isSome := by
  obtain ⟨consumes, first⟩ := first
  refine complete split first ?_
  have ahead : ((p.behind s₁ (s₂ ++ after)).offset == p.offset) = false := by
    have := List.length_pos_iff.2 consumes
    simp only [Place.behind, beq_eq_false_iff_ne]
    omega
  simpa only [ahead, Bool.false_eq_true, if_false] using rest

theorem isSome_upToGreedy {k : Continuation} : ∀ (n : Nat) {fuel : Nat} {room : Option Nat} {p : Place}
    {s after : List Char}, room.all (n ≤ ·) = true → p.after.length < fuel → p.after = s ++ after →
    Iterates (Consuming R) n p.before s after → (k (p.behind s after)).isSome → (m.upToGreedy k fuel room p).isSome
  | _, 0, _, _, _, _, _, enough, _, _, _ => absurd enough (Nat.not_lt_zero _)
  | 0, fuel + 1, room, p, s, after, _, _, split, all, goesOn => by
    obtain rfl : s = [] := all
    obtain rfl : p.after = after := split
    have goesOn : (k p).isSome := goesOn
    rw [upToGreedy]
    split
    · exact goesOn
    · split
      · rfl
      · exact goesOn
  | n + 1, fuel + 1, room, p, s, after, fits, enough, split, all, goesOn => by
    obtain ⟨s₁, s₂, rfl, first, later⟩ := all
    have open_ : (room == some 0) = false := by cases room <;> simp_all; omega
    have fits' : (room.map (· - 1)).all (n ≤ ·) = true := by cases room <;> simp_all; omega
    have consumes := List.length_pos_iff.2 first.1
    rw [List.append_assoc] at split
    rw [split, List.length_append] at enough
    have rest : (m.upToGreedy k fuel (room.map (· - 1)) (p.behind s₁ (s₂ ++ after))).isSome :=
      isSome_upToGreedy n fits' (by simp only [Place.behind]; omega) rfl later (by rwa [Place.behind_behind])
    have iterated := isSome_iteration complete (k := k) split first rest
    rw [upToGreedy, open_, if_neg Bool.false_ne_true]
    split
    · rfl
    · next none =>
      rw [none] at iterated
      cases iterated

theorem isSome_upToLazy {k : Continuation} : ∀ (n : Nat) {fuel : Nat} {room : Option Nat} {p : Place}
    {s after : List Char}, room.all (n ≤ ·) = true → p.after.length < fuel → p.after = s ++ after →
    Iterates (Consuming R) n p.before s after → (k (p.behind s after)).isSome → (m.upToLazy k fuel room p).isSome
  | _, 0, _, _, _, _, _, enough, _, _, _ => absurd enough (Nat.not_lt_zero _)
  | 0, fuel + 1, room, p, s, after, _, _, split, all, goesOn => by
    obtain rfl : s = [] := all
    obtain rfl : p.after = after := split
    have goesOn : (k p).isSome := goesOn
    rw [upToLazy]
    split
    · rfl
    · next none =>
      rw [none] at goesOn
      cases goesOn
  | n + 1, fuel + 1, room, p, s, after, fits, enough, split, all, goesOn => by
    obtain ⟨s₁, s₂, rfl, first, later⟩ := all
    have open_ : (room == some 0) = false := by cases room <;> simp_all; omega
    have fits' : (room.map (· - 1)).all (n ≤ ·) = true := by cases room <;> simp_all; omega
    have consumes := List.length_pos_iff.2 first.1
    rw [List.append_assoc] at split
    rw [split, List.length_append] at enough
    have rest : (m.upToLazy k fuel (room.map (· - 1)) (p.behind s₁ (s₂ ++ after))).isSome :=
      isSome_upToLazy n fits' (by simp only [Place.behind]; omega) rfl later (by rwa [Place.behind_behind])
    rw [upToLazy, open_]
    split
    · rfl
    · exact isSome_iteration complete split first rest

theorem Finds.loop {least : Nat} {most : Option Nat} {greed : Greed} (yields : greed ≠ .possessive) :
    (m.loop least most greed).Finds (Repeats R least most) := by
  rintro k p s after split ⟨more, fits, all⟩ goesOn
  obtain ⟨s₁, s₂, rfl, front, back⟩ := all.split
  obtain ⟨n, fewer, back⟩ := back.exists_consuming
  rw [List.append_assoc] at split
  rw [← Place.behind_behind p s₁ s₂ after (s₂ ++ after)] at goesOn
  have fits' : (most.map (· - least)).all (n ≤ ·) = true := by cases most <;> simp_all; omega
  have enough : (p.behind s₁ (s₂ ++ after)).after.length < (p.behind s₁ (s₂ ++ after)).after.length + 1 :=
    Nat.lt_succ_self _
  cases greed with
  | greedy => exact isSome_times complete least split front (isSome_upToGreedy complete n fits' enough rfl back goesOn)
  | lazy => exact isSome_times complete least split front (isSome_upToLazy complete n fits' enough rfl back goesOn)
  | possessive => exact absurd rfl yields

end

end Matcher

end BundleAudit.Regex

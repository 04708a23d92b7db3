import BundleAudit.Proofs.Regex.Language
import Mathlib.Data.List.Sort

/-!
# Leftmost places

Reading a text from left to right, one takes each place at which a piece stands, unless it lies within a piece that was
taken before. These places are determined by the text and the pieces (`LeftmostPlaces.unique`), so they can be counted
(`CountsApart`). An expression that matches texts of one length only, whatever stands around them, is found at
exactly these places (`Expr.leftmostPlaces_findAll`).
-/

namespace BundleAudit.Regex

/-- A piece of some kind stands at a place of a text. -/
def StandsAt (piece : List Char → Prop) (text : List Char) (place : Nat) : Prop :=
  ∃ front s back, text = front ++ (s ++ back) ∧ piece s ∧ front.length = place

/-- The places at which pieces of a length are taken from left to right, without overlap. -/
structure LeftmostPlaces (stands : Nat → Prop) (length : Nat) (places : List Nat) : Prop where
  stand : ∀ i ∈ places, stands i
  apart : places.Pairwise fun i j => i < j ∧ i + length ≤ j
  leftmost : ∀ i, stands i → i ∈ places ∨ ∃ j ∈ places, j < i ∧ i < j + length

namespace LeftmostPlaces

variable {stands : Nat → Prop} {length : Nat} {places places' : List Nat}

/-- Two of the places do not overlap. -/
theorem le_of_lt (h : LeftmostPlaces stands length places) {i j : Nat} (hi : i ∈ places) (hj : j ∈ places)
    (before : i < j) : i + length ≤ j := by
  have apart : ∀ {ps : List Nat}, ps.Pairwise (fun i j => i < j ∧ i + length ≤ j) → i ∈ ps → j ∈ ps → i + length ≤ j := by
    intro ps pairwise hi hj
    induction pairwise with
    | nil => cases hi
    | cons first _ ih =>
      rcases List.mem_cons.1 hi with rfl | later
      · rcases List.mem_cons.1 hj with rfl | later'
        · exact absurd before (Nat.lt_irrefl _)
        · exact (first j later').2
      · rcases List.mem_cons.1 hj with rfl | later'
        · exact absurd (first i later).1 (Nat.lt_asymm before)
        · exact ih later later'
  exact apart h.apart hi hj

/-- A place that is taken the one way is taken the other way, if those before it are. -/
theorem mem_of_mem (h : LeftmostPlaces stands length places) (h' : LeftmostPlaces stands length places') {i : Nat}
    (earlier : ∀ j < i, j ∈ places' → j ∈ places) (mem : i ∈ places) : i ∈ places' := by
  rcases h'.leftmost i (h.stand i mem) with mem' | ⟨j, mem', before, covers⟩
  · exact mem'
  · exact absurd (h.le_of_lt (earlier j before mem') mem before) (Nat.not_le_of_lt covers)

theorem unique (h : LeftmostPlaces stands length places) (h' : LeftmostPlaces stands length places') :
    places = places' := by
  have same (i : Nat) : i ∈ places ↔ i ∈ places' := by
    induction i using Nat.strong_induction_on with
    | _ i ih => exact ⟨h.mem_of_mem h' fun j before => (ih j before).2, h'.mem_of_mem h fun j before => (ih j before).1⟩
  have increasing {ps : List Nat} (hp : LeftmostPlaces stands length ps) : ps.Pairwise (· < ·) :=
    hp.apart.imp fun both => both.1
  refine List.Perm.eq_of_pairwise (fun _ _ _ _ before after => absurd before (Nat.lt_asymm after)) (increasing h)
    (increasing h') ?_
  exact (List.perm_ext_iff_of_nodup ((increasing h).imp Nat.ne_of_lt) ((increasing h').imp Nat.ne_of_lt)).2 same

end LeftmostPlaces

/-- So many pieces are taken from left to right, without overlap. -/
def CountsApart (stands : Nat → Prop) (length count : Nat) : Prop :=
  ∃ places, LeftmostPlaces stands length places ∧ places.length = count

theorem CountsApart.unique {stands : Nat → Prop} {length count count' : Nat} (h : CountsApart stands length count)
    (h' : CountsApart stands length count') : count = count' := by
  obtain ⟨places, taken, rfl⟩ := h
  obtain ⟨places', taken', rfl⟩ := h'
  rw [taken.unique taken']

/-- Something is counted exactly if a piece stands somewhere. -/
theorem CountsApart.pos_iff {stands : Nat → Prop} {length count : Nat} (h : CountsApart stands length count) :
    0 < count ↔ ∃ i, stands i := by
  obtain ⟨places, taken, rfl⟩ := h
  constructor
  · intro pos
    obtain ⟨i, mem⟩ := List.exists_mem_of_length_pos pos
    exact ⟨i, taken.stand i mem⟩
  · rintro ⟨i, stands⟩
    rcases taken.leftmost i stands with mem | ⟨j, mem, -⟩
    · exact List.length_pos_of_mem mem
    · exact List.length_pos_of_mem mem

namespace Expr

section
variable {e : Expr} {piece : List Char → Prop} {length : Nat} (plain : e.IsPlain = true)
  (takes : ∀ {before s after : List Char}, e.Accepts before s after ↔ piece s)
include plain takes

theorem standsAt_of_mem_findAll {text : List Char} {m : Match} (mem : m ∈ e.findAll text) :
    piece m.text ∧ StandsAt piece text m.start := by
  obtain ⟨front, back, split, start, accepts⟩ := accepts_of_mem_findAll plain mem
  have isPiece := takes.1 accepts
  exact ⟨isPiece, front, m.text, back, split, isPiece, start.symm⟩

variable (long : ∀ {s : List Char}, piece s → s.length = length)
include long

/-- There is one match at a place or none. -/
theorem allHere_eq (p : Place) : e.allHere p = (e.matchHere? false p).toList := by
  unfold allHere
  cases first : e.matchHere? false p with
  | none => rfl
  | some m =>
    dsimp only
    split
    · next empty =>
      have second : e.matchHere? true p = none := by
        refine Option.eq_none_iff_forall_ne_some.2 fun m' matched => ?_
        obtain ⟨_, _, _, accepts⟩ := accepts_of_matchHere? plain first
        obtain ⟨r, matched, -⟩ := Option.map_eq_some_iff.1 matched
        obtain ⟨s, after, -, accepts', ended⟩ := exists_of_match plain matched
        have short : s.length = m.text.length := (long (takes.1 accepts')).trans (long (takes.1 accepts)).symm
        rw [List.isEmpty_iff.1 empty, List.length_nil] at short
        simp [Place.behind, short] at ended
      rw [second]
      rfl
    · rfl

theorem starts_findAllFrom : ∀ (rest : List Char) (skip : Nat) (p : Place), p.after = rest → skip ≤ rest.length →
    (∀ m ∈ e.findAllFrom rest skip p, p.offset + skip ≤ m.start) ∧
      (e.findAllFrom rest skip p).Pairwise fun m m' => m.start < m'.start ∧ m.start + length ≤ m'.start
  | [], skip, p, here, fits => by
    obtain rfl : skip = 0 := Nat.le_zero.1 fits
    rw [findAllFrom, allHere_eq plain takes long]
    cases first : e.matchHere? false p with
    | none => simp
    | some m => simp [(isPrefix_of_matchHere? first).1]
  | c :: rest, skip + 1, p, here, fits => by
    obtain ⟨later, apart⟩ := starts_findAllFrom rest skip (p.step c rest) rfl (Nat.le_of_succ_le_succ fits)
    refine ⟨fun m mem => ?_, apart⟩
    have behind : p.offset + 1 + skip ≤ m.start := later m mem
    omega
  | c :: rest, 0, p, here, fits => by
    rw [findAllFrom, allHere_eq plain takes long]
    cases first : e.matchHere? false p with
    | none =>
      obtain ⟨later, apart⟩ := starts_findAllFrom rest 0 (p.step c rest) rfl (Nat.zero_le _)
      exact ⟨fun m mem => Nat.le_of_succ_le (later m mem), apart⟩
    | some m =>
      obtain ⟨start, after, split, accepts⟩ := accepts_of_matchHere? plain first
      have textLength : m.text.length = length := long (takes.1 accepts)
      have room : length ≤ rest.length + 1 := by
        rw [← textLength, ← List.length_cons, ← here, split, List.length_append]
        exact Nat.le_add_right _ _
      have coveredHere : covered (some m).toList = length := textLength
      obtain ⟨later, apart⟩ := starts_findAllFrom rest (length - 1) (p.step c rest) rfl (by omega)
      have behind {m'} (mem : m' ∈ e.findAllFrom rest (length - 1) (p.step c rest)) :
          p.offset + 1 + (length - 1) ≤ m'.start := later m' mem
      dsimp only [Option.toList_some] at coveredHere ⊢
      rw [coveredHere, List.singleton_append]
      refine ⟨List.forall_mem_cons.2 ⟨start.ge, fun m' mem => ?_⟩, List.pairwise_cons.2 ⟨fun m' mem => ?_, apart⟩⟩
      · have := behind mem
        omega
      · have := behind mem
        omega

theorem leftmostPlaces_findAll (text : List Char) :
    LeftmostPlaces (StandsAt piece text) length ((e.findAll text).map (·.start)) where
  stand i mem := by
    obtain ⟨m, found, rfl⟩ := List.mem_map.1 mem
    exact (standsAt_of_mem_findAll plain takes found).2
  apart := List.pairwise_map.2 (starts_findAllFrom plain takes long text 0 (Place.start text) rfl (Nat.zero_le _)).2
  leftmost := by
    rintro _ ⟨front, s, back, rfl, isPiece, rfl⟩
    obtain ⟨m, matched⟩ := exists_matchHere? plain
      (p := (Place.start (front ++ (s ++ back))).behind front (s ++ back)) rfl (takes.2 isPiece)
    have start : m.start = front.length := (isPrefix_of_matchHere? matched).1.trans (Nat.zero_add _)
    rw [← start]
    refine (mem_findAll_or_covered matched).imp (fun found => List.mem_map_of_mem found) ?_
    rintro ⟨m', found, before, covers⟩
    rw [long (standsAt_of_mem_findAll plain takes found).1] at covers
    exact ⟨_, List.mem_map_of_mem found, before, covers⟩

theorem countsApart_findAll (text : List Char) :
    CountsApart (StandsAt piece text) length (e.findAll text).length :=
  ⟨_, leftmostPlaces_findAll plain takes long text, List.length_map _⟩

end

end Expr

end BundleAudit.Regex

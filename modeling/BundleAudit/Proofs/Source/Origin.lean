import BundleAudit.Source.Comments
import BundleAudit.Source.Location
import Mathlib.Data.List.Basic

/-!
# Where the characters of a cleaned script come from

A scan keeps a character as it is, puts a blank in its place or drops it (`Fate`), and `Scan.trace` lists what
becomes of each. So the character at an offset of the cleaned script comes from one place of the script
(`ComesFrom`), behind as many more characters as were dropped.

No line end is dropped: one in a block comment becomes a blank, and every other one is kept. A line that is
counted in the cleaned script therefore lacks the line ends in block comments (`ComesFrom.lineAt_strip`), and
one that is counted in the script, up to the offset in the cleaned script, those from the offset to the place
(`ComesFrom.lineAt_offset`).
-/

namespace BundleAudit.Source

open BundleAudit.Text

/-! ## Fates -/

/-- What becomes of a character. -/
inductive Fate
  | kept
  | blank
  | dropped
deriving DecidableEq, Repr

/-- What stands for a character in the cleaned script. -/
def Fate.standIn? : Fate → Char → Option Char
  | .kept, c => some c
  | .blank, _ => some ' '
  | .dropped, _ => none

namespace Scan

/-- What becomes of a character that is read by itself. -/
def fate (s : Scan) (c : Char) : Fate :=
  match s.mode with
  | .blockComment => if c == '\n' then .blank else .dropped
  | .lineComment => if c == '\n' then .kept else .dropped
  | .code | .literal _ => .kept

/-- A text with what becomes of its characters. Those of a pair are dropped. -/
def trace : Scan → List Char → List (Char × Fate)
  | _, [] => []
  | s, [c] => [(c, s.fate c)]
  | s, c :: d :: rest =>
    match s.readPair? c d with
    | some t => (c, .dropped) :: (d, .dropped) :: t.trace rest
    | none => (c, s.fate c) :: (s.read c).trace (d :: rest)

theorem map_fst_trace : ∀ (s : Scan) (text : List Char), (s.trace text).map (·.1) = text
  | _, [] => rfl
  | _, [_] => rfl
  | s, c :: d :: rest => by
    rw [trace]
    split
    · next t _ => rw [List.map_cons, List.map_cons, map_fst_trace t rest]
    · rw [List.map_cons, map_fst_trace (s.read c) (d :: rest)]

/-! ## What a scan keeps -/

theorem kept_read (s : Scan) (c : Char) : (s.read c).kept = ((s.fate c).standIn? c).toList ++ s.kept := by
  by_cases lineEnd : c = '\n'
  · subst lineEnd
    cases h : s.mode <;> simp [read, endLine, fate, Fate.standIn?, h]
  · cases h : s.mode <;> simp [read, fate, Fate.standIn?, keep, drop, h, lineEnd]

theorem kept_readPair? {s t : Scan} {c d : Char} (pair : s.readPair? c d = some t) : t.kept = s.kept := by
  unfold readPair? at pair
  split at pair <;> cases pair <;> rfl

theorem kept_run_eq : ∀ (s : Scan) (text : List Char),
    (s.run text).kept = ((s.trace text).filterMap fun x => x.2.standIn? x.1).reverse ++ s.kept
  | _, [] => rfl
  | s, [c] => by
    rw [run, kept_read, trace]
    cases h : (s.fate c).standIn? c <;> simp [h]
  | s, c :: d :: rest => by
    cases pair : s.readPair? c d with
    | some t =>
      simp only [run, trace, pair]
      rw [kept_run_eq t rest, kept_readPair? pair]
      rfl
    | none =>
      simp only [run, trace, pair]
      rw [kept_run_eq (s.read c) (d :: rest), kept_read]
      cases h : (s.fate c).standIn? c <;> simp [h]

/-! ## Line ends -/

/-- Only a line end becomes a blank, and no line end is dropped. -/
def RespectsLineEnds (x : Char × Fate) : Prop := (x.2 = .blank → x.1 = '\n') ∧ (x.2 = .dropped → x.1 ≠ '\n')

theorem respectsLineEnds_fate (s : Scan) (c : Char) : RespectsLineEnds (c, s.fate c) := by
  unfold RespectsLineEnds fate
  by_cases lineEnd : c = '\n' <;> cases s.mode <;> simp [lineEnd]

theorem respectsLineEnds_trace : ∀ (s : Scan) (text : List Char), ∀ x ∈ s.trace text, RespectsLineEnds x
  | _, [] => List.forall_mem_nil _
  | s, [c] => List.forall_mem_singleton.2 (s.respectsLineEnds_fate c)
  | s, c :: d :: rest => by
    rw [trace]
    split
    · next t pair =>
      have noEnds : c ≠ '\n' ∧ d ≠ '\n' := by
        unfold readPair? at pair
        split at pair <;> simp_all
      refine List.forall_mem_cons.2 ⟨?_, List.forall_mem_cons.2 ⟨?_, respectsLineEnds_trace t rest⟩⟩
      · exact ⟨nofun, fun _ => noEnds.1⟩
      · exact ⟨nofun, fun _ => noEnds.2⟩
    · exact List.forall_mem_cons.2 ⟨s.respectsLineEnds_fate c, respectsLineEnds_trace (s.read c) (d :: rest)⟩

end Scan

/-- What becomes of the characters of a script. -/
def trace (text : List Char) : List (Char × Fate) := ({} : Scan).trace text

theorem map_fst_trace (text : List Char) : (trace text).map (·.1) = text := Scan.map_fst_trace _ text

theorem strip_eq_filterMap_trace (text : List Char) :
    strip text = (trace text).filterMap fun x => x.2.standIn? x.1 := by
  simp [strip, trace, Scan.kept_run_eq]

/-! ## Places -/

/-- Something stands for the character in the cleaned script. -/
def stays (x : Char × Fate) : Bool := x.2 != .dropped

theorem isSome_standIn? (x : Char × Fate) : (x.2.standIn? x.1).isSome = stays x := by
  obtain ⟨c, fate⟩ := x
  cases fate <;> rfl

theorem length_filterMap_standIn? (xs : List (Char × Fate)) :
    (xs.filterMap fun x => x.2.standIn? x.1).length = xs.countP stays := by
  rw [List.length_filterMap_eq_countP]
  exact congrFun (congrArg _ (funext isSome_standIn?)) xs

/-- The character at an offset of the cleaned script comes from a place of the script: something stands for
the character at the place, and for as many before it as the offset says. -/
structure ComesFrom (text : List Char) (offset place : Nat) : Prop where
  here : ∃ x, (trace text)[place]? = some x ∧ stays x
  ahead : ((trace text).take place).countP stays = offset

theorem exists_place_of_lt : ∀ {xs : List (Char × Fate)} {offset : Nat}, offset < xs.countP stays →
    ∃ place, (∃ x, xs[place]? = some x ∧ stays x) ∧ (xs.take place).countP stays = offset
  | [], _, h => absurd h (Nat.not_lt_zero _)
  | x :: xs, offset, h => by
    by_cases here : stays x
    · cases offset with
      | zero => exact ⟨0, ⟨x, rfl, here⟩, rfl⟩
      | succ offset =>
        rw [List.countP_cons_of_pos here] at h
        obtain ⟨place, found, ahead⟩ := exists_place_of_lt (Nat.lt_of_succ_lt_succ h)
        exact ⟨place + 1, found, by rw [List.take_succ_cons, List.countP_cons_of_pos here, ahead]⟩
    · rw [List.countP_cons_of_neg here] at h
      obtain ⟨place, found, ahead⟩ := exists_place_of_lt h
      exact ⟨place + 1, found, by rw [List.take_succ_cons, List.countP_cons_of_neg here, ahead]⟩

theorem exists_comesFrom {text : List Char} {offset : Nat} (inside : offset < (strip text).length) :
    ∃ place, ComesFrom text offset place := by
  rw [strip_eq_filterMap_trace, length_filterMap_standIn?] at inside
  obtain ⟨place, stays, ahead⟩ := exists_place_of_lt inside
  exact ⟨place, stays, ahead⟩

namespace ComesFrom

variable {text : List Char} {offset place : Nat} (h : ComesFrom text offset place)
include h

theorem offset_le : offset ≤ place := by
  rw [← h.ahead]
  exact Nat.le_trans List.countP_le_length (List.length_take_le _ _)

/-- What stands before the offset is what stands for the characters before the place. -/
theorem take_strip : (strip text).take offset = ((trace text).take place).filterMap fun x => x.2.standIn? x.1 := by
  have split : strip text = (((trace text).take place).filterMap fun x => x.2.standIn? x.1) ++
      ((trace text).drop place).filterMap fun x => x.2.standIn? x.1 := by
    rw [← List.filterMap_append, List.take_append_drop, strip_eq_filterMap_trace]
  rw [split, List.take_left' (by rw [length_filterMap_standIn?, h.ahead])]

end ComesFrom

/-! ## Lines -/

/-- The number of the line that an offset lies on. -/
def lineAt (text : List Char) (offset : Nat) : Nat := (text.take offset).count '\n' + 1

theorem lineNumber_locate (text : List Char) (offset : Nat) : (locate text offset).lineNumber = lineAt text offset := by
  show (text.take (min (offset : Int).toNat text.length)).count '\n' + 1 = _
  rw [Int.toNat_natCast, ← List.take_eq_take_min]
  rfl

/-- How many line ends stand in block comments before a place. -/
def blanksBefore (text : List Char) (place : Nat) : Nat := ((trace text).take place).countP (·.2 == .blank)

/-- Each line end is kept or became a blank. -/
theorem count_lineEnd_eq : ∀ {xs : List (Char × Fate)}, (∀ x ∈ xs, Scan.RespectsLineEnds x) →
    (xs.map (·.1)).count '\n' =
      (xs.filterMap fun x => x.2.standIn? x.1).count '\n' + xs.countP (·.2 == .blank)
  | [], _ => rfl
  | (c, fate) :: xs, respects => by
    obtain ⟨⟨blank, dropped⟩, rest⟩ := List.forall_mem_cons.1 respects
    rw [List.map_cons, List.count_cons, count_lineEnd_eq rest, List.filterMap_cons, List.countP_cons]
    cases fate with
    | kept =>
      simp only [Fate.standIn?, List.count_cons]
      simp
      omega
    | blank =>
      obtain rfl := blank rfl
      simp only [Fate.standIn?, List.count_cons]
      simp
      omega
    | dropped =>
      simp only [Fate.standIn?]
      simp [dropped rfl]

namespace ComesFrom

variable {text : List Char} {offset place : Nat} (h : ComesFrom text offset place)
include h

/-- A line that is counted in the cleaned script lacks the line ends in block comments. -/
theorem lineAt_strip : lineAt text place = lineAt (strip text) offset + blanksBefore text place := by
  have respects : ∀ x ∈ (trace text).take place, Scan.RespectsLineEnds x := fun x mem =>
    Scan.respectsLineEnds_trace _ text x (List.mem_of_mem_take mem)
  have before : text.take place = ((trace text).take place).map (·.1) := by
    rw [List.map_take, map_fst_trace]
  unfold lineAt blanksBefore
  rw [h.take_strip, before, count_lineEnd_eq respects]
  omega

/-- A line that is counted up to the offset lacks the line ends from there to the place. -/
theorem lineAt_offset : lineAt text place = lineAt text offset + ((text.take place).drop offset).count '\n' := by
  have split : text.take place = text.take offset ++ (text.take place).drop offset := by
    conv_lhs => rw [← List.take_append_drop offset (text.take place), List.take_take, Nat.min_eq_left h.offset_le]
  unfold lineAt
  conv_lhs => rw [split, List.count_append]
  omega

end ComesFrom

end BundleAudit.Source

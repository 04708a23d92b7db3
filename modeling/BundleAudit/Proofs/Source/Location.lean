import BundleAudit.Proofs.Text.Words
import Mathlib.Data.List.DropRight

/-!
# What a place says

A text falls into the lines before an offset, the line of the offset and the lines behind it. The number of a
place, its line and its window are found apart from each other, and all of them belong to these three parts
(`Location.IsAt`), whether the offset stands at a line end, at an end of the text or outside of it
(`locate_consistent`).
-/

namespace BundleAudit.Source

open BundleAudit.Text

/-! ## The parts of a text -/

/-- The front of a text up to its last line end. -/
def earlierLines (s : List Char) : List Char := (s.reverse.dropWhile (· != '\n')).reverse

/-- The rest of a text from its first line end. -/
def laterLines (s : List Char) : List Char := s.dropWhile (· != '\n')

theorem earlierLines_append_lastLine (s : List Char) : earlierLines s ++ lastLine s = s := by
  unfold earlierLines lastLine
  rw [← List.reverse_append, List.takeWhile_append_dropWhile, List.reverse_reverse]

theorem firstLine_append_laterLines (s : List Char) : firstLine s ++ laterLines s = s :=
  List.takeWhile_append_dropWhile

theorem dropWhile_eq_nil_or_lineEnd (s : List Char) :
    s.dropWhile (· != '\n') = [] ∨ ∃ t, s.dropWhile (· != '\n') = '\n' :: t := by
  induction s with
  | nil => exact .inl rfl
  | cons c s ih =>
    by_cases lineEnd : c = '\n'
    · exact .inr ⟨s, by simp [lineEnd]⟩
    · simpa [List.dropWhile_cons, lineEnd] using ih

theorem earlierLines_eq (s : List Char) : earlierLines s = [] ∨ ∃ t, earlierLines s = t ++ ['\n'] := by
  unfold earlierLines
  rcases dropWhile_eq_nil_or_lineEnd s.reverse with none | ⟨t, some⟩
  · exact .inl (by rw [none]; rfl)
  · exact .inr ⟨t.reverse, by rw [some, List.reverse_cons]⟩

theorem lineEnd_notMem_takeWhile (s : List Char) : '\n' ∉ s.takeWhile (· != '\n') := by
  intro mem
  have other := List.mem_takeWhile_imp mem
  simp at other

theorem lineEnd_notMem_line (before after : List Char) : '\n' ∉ lastLine before ++ firstLine after := by
  intro mem
  rcases List.mem_append.1 mem with mem | mem
  · exact lineEnd_notMem_takeWhile _ (List.mem_reverse.1 mem)
  · exact lineEnd_notMem_takeWhile _ mem

/-! ## Lines -/

theorem flatMap_lineEnd_splitOn (s : List Char) : (s.splitOn '\n').flatMap (· ++ ['\n']) = s ++ ['\n'] := by
  induction s with
  | nil => rfl
  | cons c s ih =>
    rw [List.splitOn, List.splitOnP_cons_eq_if_modifyHead]
    rw [List.splitOn] at ih
    cases split : s.splitOnP (· == '\n') with
    | nil => exact absurd split (List.splitOnP_ne_nil _ s)
    | cons line lines =>
      rw [split] at ih
      by_cases lineEnd : c = '\n'
      · simp [lineEnd, ih]
      · simp only [beq_iff_eq, lineEnd, if_false, List.modifyHead_cons, List.flatMap_cons, List.cons_append] at ih ⊢
        rw [ih]

/-- The lines of a text, with a line end between two of them, are the text. -/
theorem rejoin_splitOn {s line : List Char} {later : List (List Char)} (lines : s.splitOn '\n' = line :: later) :
    line ++ later.flatMap ('\n' :: ·) = s := by
  have shifted (ls : List (List Char)) :
      '\n' :: ls.flatMap (· ++ ['\n']) = ls.flatMap ('\n' :: ·) ++ ['\n'] := by
    induction ls with
    | nil => rfl
    | cons l ls ih => simp [← ih]
  have ended := flatMap_lineEnd_splitOn s
  rw [lines, List.flatMap_cons, List.append_assoc, List.singleton_append, shifted, ← List.append_assoc] at ended
  exact List.append_cancel_right ended

theorem lineEnd_notMem_of_mem_splitOn {s line : List Char} (mem : line ∈ s.splitOn '\n') : '\n' ∉ line := by
  induction s generalizing line with
  | nil =>
    obtain rfl : line = [] := by simpa using mem
    exact List.not_mem_nil
  | cons c s ih =>
    rw [List.splitOn] at ih mem
    rw [List.splitOnP_cons_eq_if_modifyHead] at mem
    cases split : s.splitOnP (· == '\n') with
    | nil => exact absurd split (List.splitOnP_ne_nil _ s)
    | cons l lines =>
      rw [split] at ih mem
      by_cases lineEnd : c = '\n'
      · simp only [lineEnd, beq_self_eq_true, if_true, List.mem_cons] at mem
        rcases mem with rfl | mem
        · exact List.not_mem_nil
        · exact ih (List.mem_cons.2 mem)
      · simp only [beq_iff_eq, lineEnd, if_false, List.modifyHead_cons, List.mem_cons] at mem
        rcases mem with rfl | mem
        · simpa [Ne.symm lineEnd] using ih List.mem_cons_self
        · exact ih (List.mem_cons_of_mem _ mem)

theorem length_splitOn_lineEnd (s : List Char) : (s.splitOn '\n').length = s.count '\n' + 1 := by
  induction s with
  | nil => rfl
  | cons c s ih =>
    rw [List.splitOn] at ih ⊢
    rw [List.splitOnP_cons_eq_if_modifyHead]
    by_cases lineEnd : c = '\n'
    · simp [lineEnd, ih]
    · simp [lineEnd, ih]

theorem exists_splitOn_eq_cons {line : List Char} (oneLine : '\n' ∉ line) {back : List Char}
    (behind : back = [] ∨ ∃ t, back = '\n' :: t) : ∃ later, (line ++ back).splitOn '\n' = line :: later := by
  rcases behind with rfl | ⟨t, rfl⟩
  · exact ⟨[], by rw [List.append_nil, List.splitOn_eq_singleton oneLine]⟩
  · refine ⟨t.splitOn '\n', ?_⟩
    rw [List.splitOn_append_cons_self, List.splitOn_eq_singleton oneLine]
    rfl

/-- The lines of a text whose front ends with a line and whose back starts with a line end. -/
theorem exists_lines_around {front line back : List Char} (before : front = [] ∨ ∃ t, front = t ++ ['\n'])
    (oneLine : '\n' ∉ line) (behind : back = [] ∨ ∃ t, back = '\n' :: t) :
    ∃ earlier later, (front ++ (line ++ back)).splitOn '\n' = earlier ++ line :: later ∧
      earlier.length = front.count '\n' ∧ earlier.flatMap (· ++ ['\n']) = front := by
  obtain ⟨later, split⟩ := exists_splitOn_eq_cons oneLine behind
  rcases before with rfl | ⟨t, rfl⟩
  · exact ⟨[], later, split, rfl, rfl⟩
  · refine ⟨t.splitOn '\n', later, ?_, ?_, flatMap_lineEnd_splitOn t⟩
    · rw [List.append_assoc, List.singleton_append, List.splitOn_append_cons_self, split]
    · rw [length_splitOn_lineEnd, List.count_append]
      rfl

/-! ## Places -/

/-- What a place says of an index of a text that falls into the lines in front, the line of the place and the
lines behind. -/
structure Location.IsAt (place : Location) (text : List Char) (index : Nat) (front back : List Char) : Prop where
  text_eq : text = front ++ (place.line ++ back)
  /-- The lines are counted from one. -/
  counted : 1 ≤ place.lineNumber ∧ place.lineNumber ≤ (text.splitOn '\n').length
  line : (text.splitOn '\n')[place.lineNumber - 1]? = some place.line
  front_eq : front = ((text.splitOn '\n').take (place.lineNumber - 1)).flatMap (· ++ ['\n'])
  within : front.length ≤ index ∧ index ≤ front.length + place.line.length
  /-- The window reaches as far as it may to both sides, or up to the end of the text. -/
  window : place.window = front.rtake (contextRadius + 1) ++ (place.line ++ back.take contextRadius)
  snippet : SingleSpaced place.snippet
  /-- The snippet shows what stands around the index, apart from blanks. -/
  content : place.snippet.filter (!isBlank ·) =
    ((text.take (index + snippetRadius)).drop (index - snippetRadius)).filter (!isBlank ·)

theorem take_drop_around (front line back : List Char) (radius : Nat) :
    ((front ++ (line ++ back)).take (front.length + line.length + radius)).drop (front.length - (radius + 1)) =
      front.rtake (radius + 1) ++ (line ++ back.take radius) := by
  have length : (front ++ line).length = front.length + line.length := List.length_append
  rw [← List.append_assoc, List.take_append, List.take_of_length_le (by omega), length, Nat.add_sub_cancel_left,
    List.append_assoc, List.drop_append_of_le_length (by omega)]
  rfl

theorem count_earlierLines (s : List Char) : (earlierLines s).count '\n' = s.count '\n' := by
  have none : (lastLine s).count '\n' = 0 := by
    rw [List.count_eq_zero]
    intro mem
    exact lineEnd_notMem_takeWhile _ (List.mem_reverse.1 mem)
  have whole := congrArg (List.count '\n') (earlierLines_append_lastLine s)
  rw [List.count_append, none] at whole
  exact whole

theorem locate_of_le {text : List Char} {index : Nat} (inside : index ≤ text.length) :
    locate text index =
      { lineNumber := (text.take index).count '\n' + 1
        line := lastLine (text.take index) ++ firstLine (text.drop index)
        window := (text.take (index + (firstLine (text.drop index)).length + contextRadius)).drop
          (index - (lastLine (text.take index)).length - (contextRadius + 1))
        snippet := joinWords (fields ((text.take (index + snippetRadius)).drop (index - snippetRadius))) } := by
  simp only [locate, Int.toNat_natCast, Nat.min_eq_left inside]

theorem isAt_locate {text : List Char} {index : Nat} (inside : index ≤ text.length) :
    (locate text index).IsAt text index (earlierLines (text.take index)) (laterLines (text.drop index)) := by
  have lead := earlierLines_append_lastLine (text.take index)
  have tail := firstLine_append_laterLines (text.drop index)
  have whole : earlierLines (text.take index) ++ ((lastLine (text.take index) ++ firstLine (text.drop index)) ++
      laterLines (text.drop index)) = text := by
    rw [List.append_assoc, tail, ← List.append_assoc, lead, List.take_append_drop]
  have reached : (earlierLines (text.take index)).length + (lastLine (text.take index)).length = index := by
    rw [← List.length_append, lead, List.length_take, Nat.min_eq_left inside]
  obtain ⟨earlier, later, split, count, joined⟩ := exists_lines_around (earlierLines_eq (text.take index))
    (lineEnd_notMem_line (text.take index) (text.drop index)) (dropWhile_eq_nil_or_lineEnd (text.drop index))
  change (_ ++ (_ ++ laterLines (text.drop index))).splitOn '\n' = _ at split
  have window := take_drop_around (earlierLines (text.take index))
    (lastLine (text.take index) ++ firstLine (text.drop index)) (laterLines (text.drop index)) contextRadius
  rw [whole] at split window
  -- The line number is counted in the text before the index, and the lines before it are those in front.
  rw [count_earlierLines] at count
  rw [locate_of_le inside, ← count]
  exact
  { text_eq := whole.symm
    counted := by
      rw [split, List.length_append, List.length_cons]
      exact ⟨Nat.succ_pos _, Nat.add_le_add_left (Nat.succ_pos _) _⟩
    line := by
      rw [split, Nat.add_sub_cancel, List.getElem?_append_right (Nat.le_refl _), Nat.sub_self]
      rfl
    front_eq := by rw [split, Nat.add_sub_cancel, List.take_left, joined]
    within := by
      rw [List.length_append]
      omega
    window := by
      have start : index - (lastLine (text.take index)).length = (earlierLines (text.take index)).length := by
        omega
      rw [← window, List.length_append, ← Nat.add_assoc, reached, ← start]
    snippet := .fields _
    content := filter_joinWords_fields _ }

/-- An offset that lies outside of a text stands for its nearest end. -/
theorem locate_clamped (text : List Char) (offset : Int) :
    locate text offset = locate text ((max 0 (min offset text.length)).toNat : Nat) := by
  have same : min offset.toNat text.length =
      min (((max 0 (min offset text.length)).toNat : Nat) : Int).toNat text.length := by omega
  simp only [locate, same]

theorem lineNumber_locate_mono (text : List Char) {offset offset' : Int} (le : offset ≤ offset') :
    (locate text offset).lineNumber ≤ (locate text offset').lineNumber := by
  have fewer : min offset.toNat text.length ≤ min offset'.toNat text.length := by omega
  have shorter : (text.take (min offset.toNat text.length)).Sublist (text.take (min offset'.toNat text.length)) :=
    (List.take_prefix_take_left fewer).sublist
  have count := shorter.count_le '\n'
  simp only [locate]
  omega

/-- The place of an offset is that of the nearest index of the text. Its number and its line are those of the line
on which the index stands, its window reaches from there as far as it may, its snippet has single blanks between
words only, and a greater offset has no smaller line number. -/
theorem locate_consistent (text : List Char) (offset : Int) :
    let index := (max 0 (min offset text.length)).toNat
    locate text offset = locate text index ∧
    (∃ front back, (locate text offset).IsAt text index front back) ∧
    ∀ offset', offset ≤ offset' → (locate text offset).lineNumber ≤ (locate text offset').lineNumber := by
  intro index
  have inside : index ≤ text.length := by omega
  have clamped : locate text offset = locate text index := locate_clamped text offset
  refine ⟨clamped, ?_, fun _ => lineNumber_locate_mono text⟩
  rw [clamped]
  exact ⟨_, _, isAt_locate inside⟩

/-- At a line end the line is the one that it ends, and behind the text the last one. -/
example : (locate "ab\n\nc".toList 2).lineNumber = 1 ∧ (locate "ab\n\nc".toList 3).line = [] ∧
    (locate "ab\n\nc".toList 99).lineNumber = 3 ∧ (locate "ab\n\nc".toList (-1)).line = ['a', 'b'] := by
  decide

end BundleAudit.Source

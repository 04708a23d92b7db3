import BundleAudit.Proofs.Source.Marks
import Mathlib.Order.Fin.Basic

/-!
# How far a cleaned script drifts

A character of the cleaned script stands before its place in the script, by as many characters as were removed
before it (`Origins`). The rules look up an offset of the cleaned script in the script itself, so what they see
around it is a window that starts early enough for the place, and ends behind it as long as fewer characters were
removed than the window has behind its line (`covers_iff`).

A script without comments does not drift: it is cleaned to itself exactly if no comment is read in it
(`strip_eq_self_iff`).
-/

namespace BundleAudit.Source

open BundleAudit.Text

/-! ## Places in pieces -/

/-- The place lies in a block comment of a script in pieces. -/
def InBlockComment (ps : List Piece) (place : Nat) : Prop :=
  ∃ before body closed after, ps = before ++ .blockComment body closed :: after ∧
    (before.flatMap Piece.text).length ≤ place ∧
    place < (before.flatMap Piece.text).length + (Piece.blockComment body closed).text.length

theorem Piece.length_marks (p : Piece) : p.marks.length = p.text.length := by
  rw [← p.map_fst_marks, List.length_map]

theorem length_flatMap_marks (ps : List Piece) :
    (ps.flatMap Piece.marks).length = (ps.flatMap Piece.text).length := by
  simp only [List.length_flatMap, Piece.length_marks]

theorem Piece.eq_blockComment_of_blank {p : Piece} {c : Char} (h : (c, Fate.blank) ∈ p.marks) :
    ∃ body closed, p = .blockComment body closed := by
  cases p with
  | blockComment body closed => exact ⟨body, closed, rfl⟩
  | _ => simp [marks] at h

/-- Blanks stand for line ends in block comments alone. -/
theorem inBlockComment_of_blank {ps : List Piece} {place : Nat} {c : Char}
    (h : (ps.flatMap Piece.marks)[place]? = some (c, .blank)) : InBlockComment ps place := by
  obtain ⟨inside, here⟩ := List.getElem?_eq_some_iff.1 h
  have split : ps.flatMap Piece.marks =
      (ps.flatMap Piece.marks).take place ++ (c, .blank) :: (ps.flatMap Piece.marks).drop (place + 1) := by
    rw [← here, ← List.drop_eq_getElem_cons, List.take_append_drop]
  obtain ⟨before, p, after, u, v, rfl, marks, ahead, -⟩ := exists_split_of_flatMap_eq split
  obtain ⟨body, closed, rfl⟩ := Piece.eq_blockComment_of_blank (marks ▸ List.mem_append_right u List.mem_cons_self)
  have length := congrArg List.length ahead
  rw [List.length_take_of_le (Nat.le_of_lt inside), List.length_append, length_flatMap_marks] at length
  have width := congrArg List.length marks
  rw [Piece.length_marks, List.length_append, List.length_cons] at width
  refine ⟨before, body, closed, after, rfl, ?_, ?_⟩
  · omega
  · omega

/-- How many characters of comments were removed before a place of a script in pieces. -/
def removedBefore (ps : List Piece) (place : Nat) : Nat :=
  ((ps.flatMap Piece.marks).take place).countP (·.2 == .dropped)

/-! ## Origins -/

theorem length_trace (text : List Char) : (trace text).length = text.length := by
  rw [← List.length_map (·.1), map_fst_trace]

namespace ComesFrom

variable {text : List Char} {offset place : Nat} (h : ComesFrom text offset place)
include h

theorem place_lt : place < text.length := by
  obtain ⟨x, found, -⟩ := h.here
  have inside := (List.getElem?_eq_some_iff.1 found).1
  rwa [length_trace] at inside

/-- What stands at the offset is what stands for the character at the place. -/
theorem getElem?_strip {x : Char × Fate} (found : (trace text)[place]? = some x) :
    (strip text)[offset]? = x.2.standIn? x.1 := by
  obtain ⟨_, found', stays⟩ := h.here
  obtain rfl := Option.some.inj (found.symm.trans found')
  obtain ⟨inside, here⟩ := List.getElem?_eq_some_iff.1 found
  obtain ⟨c, standsFor⟩ := Option.isSome_iff_exists.1 ((isSome_standIn? x).trans stays)
  have split : strip text = (strip text).take offset ++ ((trace text).drop place).filterMap fun x => x.2.standIn? x.1 := by
    rw [h.take_strip, ← List.filterMap_append, List.take_append_drop, strip_eq_filterMap_trace]
  have length : ((strip text).take offset).length = offset := by
    rw [h.take_strip, length_filterMap_standIn?, h.ahead]
  rw [split, List.getElem?_append_right (by omega), length, Nat.sub_self, List.drop_eq_getElem_cons inside, here,
    List.filterMap_cons, standsFor]
  rfl

theorem lt_of_lt {offset' place' : Nat} (h' : ComesFrom text offset' place') (before : offset < offset') :
    place < place' := by
  by_contra behind
  have front : ((trace text).take place).take place' = (trace text).take place' := by
    rw [List.take_take, Nat.min_eq_left (Nat.le_of_not_lt behind)]
  have fewer := (List.take_sublist place' ((trace text).take place)).countP_le (p := stays)
  rw [front, h'.ahead, h.ahead] at fewer
  omega

/-- The place lies behind the offset by the characters dropped before it. -/
theorem place_eq : place = offset + ((trace text).take place).countP (·.2 == .dropped) := by
  have length : ((trace text).take place).length = place := by
    rw [List.length_take_of_le]
    rw [length_trace]
    exact Nat.le_of_lt h.place_lt
  have dropped : (fun x : Char × Fate => decide ¬stays x) = (·.2 == .dropped) := by
    funext x
    obtain ⟨c, fate⟩ := x
    cases fate <;> rfl
  have counts := List.length_eq_countP_add_countP stays (l := (trace text).take place)
  rwa [length, h.ahead, dropped] at counts

end ComesFrom

/-- Where the characters of a cleaned script come from: each is the character at its origin or a blank in place of
a line end in a block comment, and lies before its origin by the characters of comments removed before that. -/
structure Origins (text : List Char) (ps : List Piece) (origin : Fin (strip text).length → Fin text.length) :
    Prop where
  ordered : StrictMono origin
  same : ∀ k, (strip text)[k] = text[origin k] ∨
    (strip text)[k] = ' ' ∧ text[origin k] = '\n' ∧ InBlockComment ps (origin k)
  drift : ∀ k, (origin k : Nat) = k + removedBefore ps (origin k)

theorem exists_origins {text : List Char} {ps : List Piece} (h : Decomposes none text ps) :
    ∃ origin, Origins text ps origin := by
  have each (k : Fin (strip text).length) : ∃ place, ComesFrom text k place := exists_comesFrom k.2
  choose place from_ using each
  refine ⟨fun k => ⟨place k, (from_ k).place_lt⟩, fun k k' before => (from_ k).lt_of_lt (from_ k') before,
    fun k => ?_, fun k => ?_⟩
  · obtain ⟨⟨c, fate⟩, found, stays⟩ := (from_ k).here
    have stands := (from_ k).getElem?_strip found
    have char : text[place k]? = some c := by
      conv_lhs => rw [← map_fst_trace text]
      rw [List.getElem?_map, found]
      rfl
    rw [List.getElem?_eq_getElem k.2] at stands
    rw [List.getElem?_eq_getElem (from_ k).place_lt, Option.some_inj] at char
    cases fate with
    | kept => exact .inl ((Option.some.inj stands).trans char.symm)
    | blank =>
      have lineEnd : c = '\n' := (Scan.respectsLineEnds_trace _ text _ (List.mem_of_getElem? found)).1 rfl
      rw [h.trace_eq] at found
      exact .inr ⟨Option.some.inj stands, char.trans lineEnd, inBlockComment_of_blank found⟩
    | dropped => cases stays
  · show place k = k + removedBefore ps (place k)
    rw [removedBefore, ← h.trace_eq]
    exact (from_ k).place_eq

/-! ## Windows -/

/-- The first place of the window around an offset. -/
def windowStart (text : List Char) (offset : Nat) : Nat :=
  offset - (lastLine (text.take offset)).length - (contextRadius + 1)

/-- The place behind the window around an offset. -/
def windowEnd (text : List Char) (offset : Nat) : Nat :=
  offset + (firstLine (text.drop offset)).length + contextRadius

theorem window_locate {text : List Char} {offset : Nat} (inside : offset ≤ text.length) :
    (locate text offset).window = (text.take (windowEnd text offset)).drop (windowStart text offset) := by
  simp only [locate, Int.toNat_natCast, Nat.min_eq_left inside]
  rfl

/-- The window around an offset covers a place. -/
structure Covers (text : List Char) (offset place : Nat) : Prop where
  window : (locate text offset).window = (text.take (windowEnd text offset)).drop (windowStart text offset)
  starts : windowStart text offset ≤ place
  ends : place < windowEnd text offset

/-- The window covers the places behind its offset up to the end of the line, and a radius more. -/
theorem covers_iff {text : List Char} {offset place : Nat} (inside : offset ≤ text.length)
    (behind : offset ≤ place) :
    Covers text offset place ↔ place - offset < (firstLine (text.drop offset)).length + contextRadius := by
  constructor
  · rintro ⟨-, -, ends⟩
    unfold windowEnd at ends
    omega
  · intro near
    refine ⟨window_locate inside, ?_, ?_⟩
    · unfold windowStart
      omega
    · unfold windowEnd
      omega

theorem Origins.covers {text : List Char} {ps : List Piece} {origin : Fin (strip text).length → Fin text.length}
    (h : Origins text ps origin) (k : Fin (strip text).length) (near : (origin k : Nat) - k < contextRadius) :
    Covers text k (origin k) := by
  have drift := h.drift k
  have behind : (k : Nat) ≤ origin k := by omega
  have inside : (k : Nat) ≤ text.length := Nat.le_trans behind (Nat.le_of_lt (origin k).2)
  exact (covers_iff inside behind).2 (by omega)

/-! ## Scripts without comments -/

namespace Scan

/-- The scans that the reading of a text passes through. -/
def states : Scan → List Char → List Scan
  | s, [] => [s]
  | s, [c] => [s, s.read c]
  | s, c :: d :: rest =>
    match s.readPair? c d with
    | some t => s :: t.states rest
    | none => s :: (s.read c).states (d :: rest)

theorem getLast?_states : ∀ (s : Scan) (text : List Char), (s.states text).getLast? = some (s.run text)
  | _, [] => rfl
  | _, [_] => rfl
  | s, c :: d :: rest => by
    cases pair : s.readPair? c d with
    | some t => simp [states, run, pair, List.getLast?_cons, getLast?_states t rest]
    | none => simp [states, run, pair, List.getLast?_cons, getLast?_states (s.read c) (d :: rest)]

/-- A comment is being read. -/
def InComment (s : Scan) : Prop := s.mode = .lineComment ∨ s.mode = .blockComment

theorem not_inComment_read {s : Scan} (h : ¬ s.InComment) (c : Char) : ¬ (s.read c).InComment := by
  have afterCode : s.modeAfterCode c ≠ .lineComment ∧ s.modeAfterCode c ≠ .blockComment := by
    unfold modeAfterCode
    split
    · simp
    · split <;> simp
  have afterLiteral (kind : Literal) :
      s.modeAfterLiteral kind c ≠ .lineComment ∧ s.modeAfterLiteral kind c ≠ .blockComment := by
    unfold modeAfterLiteral
    split <;> simp
  by_cases lineEnd : c = '\n'
  · subst lineEnd
    cases mode : s.mode <;> simp_all [InComment, read, endLine]
  · cases mode : s.mode <;> simp_all [InComment, read, keep]

theorem fate_eq_kept {s : Scan} (h : ¬ s.InComment) (c : Char) : s.fate c = .kept := by
  cases mode : s.mode <;> simp_all [InComment, fate]

theorem inComment_of_readPair? {s t : Scan} {c d : Char} (pair : s.readPair? c d = some t) :
    s.InComment ∨ t.InComment := by
  unfold readPair? at pair
  split at pair <;> cases pair <;> simp_all [InComment]

theorem mem_states_self (s : Scan) (text : List Char) : s ∈ s.states text := by
  unfold states
  split
  · exact List.mem_cons_self
  · exact List.mem_cons_self
  · split <;> exact List.mem_cons_self

/-- From outside comments, every character is kept exactly if no comment is read. -/
theorem all_kept_iff : ∀ {s : Scan} (text : List Char), ¬ s.InComment →
    ((∀ x ∈ s.trace text, x.2 = .kept) ↔ ∀ t ∈ s.states text, ¬ t.InComment)
  | s, [], outside => by simpa [trace, states] using outside
  | s, [c], outside => by
    simp [trace, states, fate_eq_kept outside c, outside, not_inComment_read outside c]
  | s, c :: d :: rest, outside => by
    cases pair : s.readPair? c d with
    | some t =>
      have opened : t.InComment := (inComment_of_readPair? pair).resolve_left outside
      simp only [trace, states, pair]
      refine iff_of_false (fun kept => ?_) fun outside' => ?_
      · cases kept _ List.mem_cons_self
      · exact outside' t (List.mem_cons_of_mem s (t.mem_states_self rest)) opened
    | none =>
      simp only [trace, states, pair]
      rw [List.forall_mem_cons, List.forall_mem_cons, all_kept_iff (d :: rest) (not_inComment_read outside c)]
      exact and_congr_left fun _ => iff_of_true (fate_eq_kept outside c) outside

end Scan

theorem strip_eq_self_iff_kept (text : List Char) : strip text = text ↔ ∀ x ∈ trace text, x.2 = .kept := by
  rw [strip_eq_filterMap_trace]
  constructor
  · intro same
    -- By the lengths nothing is dropped, and by the line ends nothing became a blank.
    have blanks := @count_lineEnd_eq (trace text) (Scan.respectsLineEnds_trace _ text)
    rw [map_fst_trace, same] at blanks
    have noBlank : (trace text).countP (·.2 == .blank) = 0 := by omega
    have all : (trace text).countP stays = (trace text).length := by
      rw [← length_filterMap_standIn?, same, length_trace]
    rw [List.countP_eq_zero] at noBlank
    rw [List.countP_eq_length] at all
    rintro ⟨c, fate⟩ mem
    cases fate with
    | kept => rfl
    | blank => exact absurd rfl (noBlank _ mem)
    | dropped => cases all _ mem
  · intro kept
    have standIns : ∀ x ∈ trace text, x.2.standIn? x.1 = some x.1 := fun x mem => by rw [kept x mem]; rfl
    rw [List.filterMap_congr standIns, List.filterMap_eq_map', map_fst_trace]

/-- A script is cleaned to itself exactly if no comment is read in it. -/
theorem strip_eq_self_iff (text : List Char) :
    strip text = text ↔ ∀ s ∈ ({} : Scan).states text, ¬ s.InComment :=
  (strip_eq_self_iff_kept text).trans (Scan.all_kept_iff text (by simp [Scan.InComment]))

/-- Each character of a cleaned script has an origin in the script, and as long as fewer characters of comments
were removed before that than the window has behind the line, the window around the offset covers the origin. -/
theorem bounded_drift (text : List Char) :
    ∃ ps, Decomposes none text ps ∧ trace text = ps.flatMap Piece.marks ∧
      (∃ origin, Origins text ps origin ∧
        ∀ k, (origin k : Nat) - k < contextRadius → Covers text k (origin k)) ∧
      (strip text = text ↔ ∀ s ∈ ({} : Scan).states text, ¬ s.InComment) := by
  obtain ⟨ps, h⟩ := exists_decomposes none text
  obtain ⟨origin, origins⟩ := exists_origins h
  exact ⟨ps, h, h.trace_eq, ⟨origin, origins, origins.covers⟩, strip_eq_self_iff text⟩

end BundleAudit.Source

import BundleAudit.Proofs.Source.EscapeBit
import BundleAudit.Proofs.Source.Location

/-!
# Line by line

The lines of a script can be read one after the other, each by its indices: a line comment ends the line where it
opens, the closer of a literal is looked up by the mode, and the backslashes before it are counted back from its
index. Either look-up may fail: code and comments have no closer, and an index can lie behind the end of
the line (`LookupError`).

At every turn of this reading the pass with one bit for escapes stands at the same place, in the same mode, and
has written the same (`Reader.Agrees`). In a literal its bit is the answer of the count. A line comment is open at no
turn, since its line ends with it. So no look-up fails, and what is kept in the end is what `strip` keeps
(`reads_as_forward_pass`).
-/

namespace BundleAudit.Source

open BundleAudit.Text

/-! ## The places that a pass comes to -/

namespace Pass

/-- A pass that reads a text comes, with what it has written by then, to another one that has the rest in front. -/
inductive Comes : Pass → List Char → List Char → Pass → List Char → Prop
  | here {p : Pass} {text : List Char} : Comes p text [] p text
  | pair {p q r : Pass} {c d : Char} {text out rest : List Char} :
    p.readPair? c d = some q → Comes q text out r rest → Comes p (c :: d :: text) out r rest
  | single {p r : Pass} {c : Char} {text out rest : List Char} :
    (∀ d ∈ text.head?, p.readPair? c d = none) → Comes (p.read c) text out r rest →
      Comes p (c :: text) (p.write c ++ out) r rest

namespace Comes

variable {p q r : Pass} {text out rest : List Char}

theorem written_eq (h : Comes p text out q rest) : p.written text = out ++ q.written rest := by
  induction h with
  | here => rfl
  | pair pair _ ih => rw [written_pair pair, ih]
  | single single _ ih => rw [written_single single, ih, List.append_assoc]

theorem trans {out' rest' : List Char} (h : Comes p text out q rest) (h' : Comes q rest out' r rest') :
    Comes p text (out ++ out') r rest' := by
  induction h with
  | here => exact h'
  | pair pair _ ih => exact .pair pair (ih h')
  | single single _ ih =>
    rw [List.append_assoc]
    exact .single single (ih h')

theorem length_le (h : Comes p text out q rest) : rest.length ≤ text.length := by
  induction h with
  | here => exact Nat.le_refl _
  | pair _ _ ih => simp only [List.length_cons]; omega
  | single _ _ ih => simp only [List.length_cons]; omega

/-- A place is passed once. -/
theorem unique {q' : Pass} {out' : List Char} (h : Comes p text out q rest) (h' : Comes p text out' q' rest) :
    q = q' := by
  induction h generalizing out' with
  | here =>
    cases h' with
    | here => rfl
    | pair _ later => have := later.length_le; simp only [List.length_cons] at this; omega
    | single _ later => have := later.length_le; simp only [List.length_cons] at this; omega
  | pair pair later ih =>
    cases h' with
    | here => have := later.length_le; simp only [List.length_cons] at this; omega
    | pair pair' later' =>
      obtain rfl := Option.some.inj (pair.symm.trans pair')
      exact ih later'
    | single single' _ => exact absurd (single' _ rfl) (by simp [pair])
  | single single later ih =>
    cases h' with
    | here => have := later.length_le; simp only [List.length_cons] at this; omega
    | pair pair' _ => exact absurd (single _ rfl) (by simp [pair'])
    | single _ later' => exact ih later'

end Comes

/-- Nothing is written for the rest of a line behind the opener of a line comment. -/
theorem comes_behind_lineComment {p : Pass} (mode : p.mode = .lineComment) (back : List Char) :
    ∀ {body : List Char}, '\n' ∉ body → Comes p (body ++ back) [] p back
  | [], _ => .here
  | c :: body, inside => by
    obtain ⟨noEnd, inside⟩ : '\n' ≠ c ∧ '\n' ∉ body := by simpa using inside
    have stays : p.read c = p := by simp [read, noEnd.symm, mode]
    have silent : p.write c = [] := by simp [write, noEnd.symm, mode]
    have alone : ∀ d ∈ (body ++ back).head?, p.readPair? c d = none := by
      intro d _
      simp [readPair?, Mode.behindPair?, mode]
    have rest := comes_behind_lineComment mode back inside
    rw [← stays] at rest
    have all := Comes.single alone rest
    rwa [silent, stays] at all

theorem readPair?_lineEnd (p : Pass) (c : Char) : p.readPair? c '\n' = none := by
  simp [readPair?, Mode.behindPair?]

end Pass

/-! ## Reading line by line -/

/-- A look-up that fails. -/
inductive LookupError
  /-- There is no closer for the mode. -/
  | noCloser (mode : Mode)
  /-- The index lies behind the end of the line. -/
  | outside (index : Nat)
deriving DecidableEq, Repr

/-- The closers of the literals, by mode. -/
def Mode.closer? : Mode → Option Char
  | .literal kind => some kind.closer
  | _ => none

/-- A reading of a script line by line: the lines from the current one on, the index in that, and the characters
kept, the latest first. -/
structure Reader where
  lines : List (List Char)
  index : Nat := 0
  mode : Mode := .code
  previous : Option Char := none
  out : List Char := []
deriving DecidableEq, Repr

namespace Reader

def start (text : List Char) : Reader := { lines := text.splitOn '\n' }

/-- Starts the first of the given lines. A literal and a line comment have ended with the line before. -/
def nextLine (s : Reader) (lines : List (List Char)) : Reader where
  lines := lines
  mode := if s.mode = .blockComment then .blockComment else .code
  previous := s.previous
  out := (if s.mode = .blockComment then ' ' else '\n') :: s.out

/-- Ends the line; behind the last one, nothing is left. -/
def endLine (s : Reader) : Reader :=
  match s.lines.tail with
  | [] => { s with lines := [] }
  | later => s.nextLine later

def keep (s : Reader) (c : Char) (mode : Mode) : Reader where
  lines := s.lines
  index := s.index + 1
  mode := mode
  previous := if isBlank c then s.previous else some c
  out := c :: s.out

/-- The mode behind a character of a literal: its closer ends it unless it is escaped. -/
def modeBehind (s : Reader) (current : List Char) (c : Char) : Except LookupError Mode :=
  match s.mode.closer? with
  | none => .error (.noCloser s.mode)
  | some closer =>
    if c == closer then
      match isEscaped? current s.index with
      | none => .error (.outside s.index)
      | some escaped => .ok (if escaped then s.mode else .code)
    else .ok s.mode

/-- Reads the character at the index of a line, with the one behind it in view. -/
def turn (s : Reader) (current : List Char) (c : Char) (next : Option Char) : Except LookupError Reader :=
  match s.mode with
  | .blockComment =>
    if c == '*' && next == some '/' then .ok { s with mode := .code, index := s.index + 2 }
    else .ok { s with index := s.index + 1 }
  | .code =>
    if c == '/' && next == some '*' then .ok { s with mode := .blockComment, index := s.index + 2 }
    else if c == '/' && next == some '/' then .ok { s with mode := .lineComment }.endLine
    else
      match opens? s.previous c with
      | some kind => .ok (s.keep c (.literal kind))
      | none => .ok (s.keep c .code)
  | _ => do return s.keep c (← s.modeBehind current c)

/-- One turn of the reading, or the end of a line. -/
def step (s : Reader) : Except LookupError Reader :=
  match s.lines with
  | [] => .ok s
  | current :: _ =>
    match current[s.index]? with
    | some c => s.turn current c current[s.index + 1]?
    | none => .ok s.endLine

def run : Nat → Reader → Except LookupError Reader
  | 0, s => .ok s
  | n + 1, s => do (← s.step).run n

/-- What is still to be read. -/
def rest (s : Reader) : List Char :=
  match s.lines with
  | [] => []
  | current :: later => current.drop s.index ++ later.flatMap ('\n' :: ·)

/-- At a turn, the pass with one bit for escapes stands at the same place and has written the same. The mode is
that of code, of a block comment, or of a literal; in a literal, the look-up of the closer succeeds, and
the bit is the answer of the count back over the line. -/
structure Agrees (text : List Char) (s : Reader) (current : List Char) (pass : Pass) : Prop where
  comes : ({} : Pass).Comes text s.out.reverse pass s.rest
  mode : s.mode = pass.mode
  previous : s.previous = pass.previous
  lookups : s.mode = .code ∨ s.mode = .blockComment ∨
    ∃ kind, s.mode = .literal kind ∧ s.mode.closer? = some kind.closer ∧
      isEscaped? current s.index = some pass.escaped

variable {text : List Char} {s : Reader} {current : List Char} {later : List (List Char)} {pass : Pass} {c d : Char}

/-! ## What stands at an index -/

theorem rest_eq (lines : s.lines = current :: later) : s.rest = current.drop s.index ++ later.flatMap ('\n' :: ·) := by
  simp only [rest, lines]

theorem rest_cons (lines : s.lines = current :: later) (here : current[s.index]? = some c) :
    s.rest = c :: (current.drop (s.index + 1) ++ later.flatMap ('\n' :: ·)) := by
  rw [rest_eq lines, List.drop_eq_getElem?_toList_append, here]
  rfl

theorem ne_lineEnd (lines : s.lines = current :: later) (oneLine : ∀ l ∈ s.lines, '\n' ∉ l)
    (here : current[s.index]? = some c) : c ≠ '\n' := by
  rintro rfl
  exact oneLine current (by simp [lines]) (List.mem_of_getElem? here)

/-- Behind an index stands the next character of the line or a line end. -/
theorem head?_behind {i : Nat} (h : d ∈ (current.drop i ++ later.flatMap ('\n' :: ·)).head?) :
    current[i]? = some d ∨ d = '\n' := by
  rw [List.head?_append, List.head?_drop] at h
  cases next : current[i]? with
  | some e =>
    rw [next] at h
    exact .inl h
  | none =>
    rw [next] at h
    cases later with
    | nil => cases h
    | cons l later =>
      right
      simpa [eq_comm] using h

theorem isEscaped?_eq {i : Nat} (inside : i ≤ current.length) :
    isEscaped? current i = some (oddBackslashes (current.take i).reverse) := by
  have notBehind : ¬ (i : Int) > current.length := by omega
  rw [isEscaped?, if_neg notBehind, Int.toNat_natCast]

/-- What the count gives one character later. -/
theorem isEscaped?_succ {i : Nat} {escaped : Bool} (here : current[i]? = some c) (h : isEscaped? current i = some escaped) :
    isEscaped? current (i + 1 : Nat) = some (c == '\\' && !escaped) := by
  have inside : i < current.length := (List.getElem?_eq_some_iff.1 here).1
  rw [isEscaped?_eq (Nat.le_of_lt inside)] at h
  rw [isEscaped?_eq inside, List.take_add_one, here, Option.toList_some, List.reverse_append,
    List.reverse_singleton, List.singleton_append, oddBackslashes_cons, Option.some.inj h]

theorem isEscaped?_behind_opener {i : Nat} (here : current[i]? = some c) (opener : c ≠ '\\') :
    isEscaped? current (i + 1 : Nat) = some false := by
  have inside : i < current.length := (List.getElem?_eq_some_iff.1 here).1
  rw [isEscaped?_succ here (isEscaped?_eq (Nat.le_of_lt inside))]
  simp [opener]

/-! ## The invariant -/

/-- The reading has come to its end with what the pass writes, or it stands in a line, where the pass agrees. -/
inductive Sound (text : List Char) (s : Reader) : Prop
  | done : s.lines = [] → s.out.reverse = ({} : Pass).written text → Sound text s
  | within {current : List Char} {later : List (List Char)} {pass : Pass} :
    s.lines = current :: later → s.index ≤ current.length → (∀ l ∈ s.lines, '\n' ∉ l) →
      Agrees text s current pass → Sound text s

/-- How much there is still to do. -/
def left (s : Reader) : Nat := if s.lines = [] then 0 else s.rest.length + 1

theorem left_eq (lines : s.lines = current :: later) :
    s.left = (current.drop s.index ++ later.flatMap ('\n' :: ·)).length + 1 := by
  rw [left, if_neg (by simp [lines]), rest_eq lines]

theorem comes_single (agrees : Agrees text s current pass) (lines : s.lines = current :: later)
    (here : current[s.index]? = some c) (alone : ∀ d, current[s.index + 1]? = some d → pass.readPair? c d = none) :
    ({} : Pass).Comes text (s.out.reverse ++ pass.write c) (pass.read c)
      (current.drop (s.index + 1) ++ later.flatMap ('\n' :: ·)) := by
  have comes := agrees.comes
  rw [rest_cons lines here] at comes
  have step : pass.Comes (c :: (current.drop (s.index + 1) ++ later.flatMap ('\n' :: ·))) (pass.write c ++ [])
      (pass.read c) (current.drop (s.index + 1) ++ later.flatMap ('\n' :: ·)) := by
    refine .single (fun d mem => ?_) .here
    rcases head?_behind mem with next | rfl
    · exact alone d next
    · exact pass.readPair?_lineEnd c
  rw [List.append_nil] at step
  exact comes.trans step

theorem comes_pair {q : Pass} (agrees : Agrees text s current pass) (lines : s.lines = current :: later)
    (here : current[s.index]? = some c) (next : current[s.index + 1]? = some d) (pair : pass.readPair? c d = some q) :
    ({} : Pass).Comes text s.out.reverse q (current.drop (s.index + 2) ++ later.flatMap ('\n' :: ·)) := by
  have comes := agrees.comes
  rw [rest_cons lines here, List.drop_eq_getElem?_toList_append, next] at comes
  have step := comes.trans (.pair pair .here)
  rwa [List.append_nil] at step

/-- At the end of a line the pass reads the line end, in whatever mode it is. -/
theorem sound_endLine (lines : s.lines = current :: later) (oneLine : ∀ l ∈ s.lines, '\n' ∉ l)
    (comes : ({} : Pass).Comes text s.out.reverse pass (later.flatMap ('\n' :: ·))) (mode : s.mode = pass.mode)
    (previous : s.previous = pass.previous) :
    Sound text s.endLine ∧ s.endLine.left = (later.flatMap ('\n' :: ·)).length := by
  cases later with
  | nil =>
    have last : s.endLine = { s with lines := [] } := by simp [endLine, lines]
    rw [last]
    refine ⟨.done rfl ?_, rfl⟩
    have written := comes.written_eq
    rw [List.flatMap_nil, Pass.written, List.append_nil] at written
    exact written.symm
  | cons l later =>
    have next : s.endLine = s.nextLine (l :: later) := by simp [endLine, lines]
    rw [List.flatMap_cons, List.cons_append] at comes
    have step := comes.trans (.single (fun d _ => by simp [Pass.readPair?, Mode.behindPair?]) .here)
    have written : pass.write '\n' = [if s.mode = .blockComment then ' ' else '\n'] := by
      rw [Pass.write, mode]
      cases pass.mode <;> simp
    rw [next]
    have agrees : Agrees text (s.nextLine (l :: later)) l (pass.read '\n') := by
      refine ⟨?_, ?_, previous, ?_⟩
      · simpa [rest, nextLine, written] using step
      · simp [nextLine, Pass.read, Pass.endLine, mode]
      · by_cases block : s.mode = .blockComment
        · exact .inr (.inl (if_pos block))
        · exact .inl (if_neg block)
    refine ⟨.within rfl (Nat.zero_le _) ?_ agrees, ?_⟩
    · intro l' mem
      exact oneLine l' (by rw [lines]; exact List.mem_cons_of_mem _ mem)
    · have lines' : (s.nextLine (l :: later)).lines = l :: later := rfl
      rw [left_eq lines']
      simp [nextLine]

/-- A turn that goes on in its line. -/
theorem sound_within {s' : Reader} {q : Pass} (lines : s.lines = current :: later) (same : s'.lines = s.lines)
    (oneLine : ∀ l ∈ s.lines, '\n' ∉ l) (further : s.index < s'.index) (inside : s'.index ≤ current.length)
    (comes : ({} : Pass).Comes text s'.out.reverse q (current.drop s'.index ++ later.flatMap ('\n' :: ·)))
    (mode : s'.mode = q.mode) (previous : s'.previous = q.previous)
    (lookups : s'.mode = .code ∨ s'.mode = .blockComment ∨
      ∃ kind, s'.mode = .literal kind ∧ isEscaped? current s'.index = some q.escaped) :
    Sound text s' ∧ s'.left < s.left := by
  have lines' : s'.lines = current :: later := same.trans lines
  refine ⟨.within lines' inside (by rwa [same]) ⟨?_, mode, previous, ?_⟩, ?_⟩
  · rwa [rest_eq lines']
  · rcases lookups with code | block | ⟨kind, literal, bit⟩
    · exact .inl code
    · exact .inr (.inl block)
    · exact .inr (.inr ⟨kind, literal, by rw [literal]; rfl, bit⟩)
  · rw [left_eq lines, left_eq lines']
    simp only [List.length_append, List.length_drop]
    omega

section
variable (agrees : Agrees text s current pass) (lines : s.lines = current :: later) (oneLine : ∀ l ∈ s.lines, '\n' ∉ l)
  (here : current[s.index]? = some c)
include agrees lines oneLine here

/-- A turn that keeps the character. -/
theorem sound_keep {q : Pass} {behind : Mode}
    (comes : ({} : Pass).Comes text (s.out.reverse ++ [c]) q
      (current.drop (s.index + 1) ++ later.flatMap ('\n' :: ·)))
    (mode : behind = q.mode) (previous : q.previous = (pass.keep c).previous)
    (lookups : behind = .code ∨
      ∃ kind, behind = .literal kind ∧ isEscaped? current (s.index + 1 : Nat) = some q.escaped) :
    Sound text (s.keep c behind) ∧ (s.keep c behind).left < s.left := by
  have inside : s.index < current.length := (List.getElem?_eq_some_iff.1 here).1
  have out : (s.keep c behind).out.reverse = s.out.reverse ++ [c] := List.reverse_cons
  have previous' : (s.keep c behind).previous = q.previous := by
    rw [previous, keep, Pass.keep, agrees.previous]
  refine sound_within lines rfl oneLine (Nat.lt_succ_self _) inside (by rw [out]; exact comes) mode previous' ?_
  rcases lookups with code | literal
  · exact .inl code
  · exact .inr (.inr literal)

theorem turn_blockComment (block : s.mode = .blockComment) :
    ∃ s', s.turn current c current[s.index + 1]? = .ok s' ∧ Sound text s' ∧ s'.left < s.left := by
  have inside := (List.getElem?_eq_some_iff.1 here).1
  have mode : pass.mode = .blockComment := agrees.mode ▸ block
  by_cases closes : c = '*' ∧ current[s.index + 1]? = some '/'
  · obtain ⟨rfl, next⟩ := closes
    have pair : pass.readPair? '*' '/' = some { pass with mode := .code } := by
      simp [Pass.readPair?, mode, Mode.behindPair?]
    have inside' := (List.getElem?_eq_some_iff.1 next).1
    refine ⟨{ s with mode := .code, index := s.index + 2 }, ?_, ?_⟩
    · simp [turn, block, next]
    · exact sound_within lines rfl oneLine (by simp) (by simp; omega) (comes_pair agrees lines here next pair) rfl
        agrees.previous (.inl rfl)
  · have alone : ∀ d, current[s.index + 1]? = some d → pass.readPair? c d = none := by
      intro d next
      rw [next] at closes
      simp only [Pass.readPair?, mode, Option.map_eq_none_iff]
      unfold Mode.behindPair?
      split <;> simp_all
    have noEnd := ne_lineEnd lines oneLine here
    have silent : pass.write c = [] := by simp [Pass.write, mode, noEnd]
    have stays : pass.read c = pass := by simp [Pass.read, mode, noEnd]
    have comes := comes_single agrees lines here alone
    rw [silent, stays, List.append_nil] at comes
    refine ⟨{ s with index := s.index + 1 }, ?_, ?_⟩
    · simp only [turn, block]
      rw [if_neg (by simpa using closes)]
    · exact sound_within lines rfl oneLine (by simp) (by simp; omega) comes agrees.mode agrees.previous
        (.inr (.inl block))

/-- A line comment ends the line: the pass drops the rest of it. -/
theorem sound_lineComment (code : s.mode = .code) (slash : c = '/') (next : current[s.index + 1]? = some '/') :
    Sound text { s with mode := .lineComment }.endLine ∧ { s with mode := .lineComment }.endLine.left < s.left := by
  subst slash
  have mode : pass.mode = .code := agrees.mode ▸ code
  have pair : pass.readPair? '/' '/' = some { pass with mode := .lineComment } := by
    simp [Pass.readPair?, mode, Mode.behindPair?]
  have noEnd : '\n' ∉ current.drop (s.index + 2) := fun mem =>
    oneLine current (by simp [lines]) (List.mem_of_mem_drop mem)
  have comes := comes_pair agrees lines here next pair
  have dropped := comes.trans (Pass.comes_behind_lineComment rfl (later.flatMap ('\n' :: ·)) noEnd)
  rw [List.append_nil] at dropped
  obtain ⟨sound, left⟩ := sound_endLine (s := { s with mode := .lineComment }) lines oneLine dropped rfl
    agrees.previous
  refine ⟨sound, ?_⟩
  rw [left, left_eq lines, List.length_append]
  omega

theorem turn_code (code : s.mode = .code) :
    ∃ s', s.turn current c current[s.index + 1]? = .ok s' ∧ Sound text s' ∧ s'.left < s.left := by
  have mode : pass.mode = .code := agrees.mode ▸ code
  by_cases block : c = '/' ∧ current[s.index + 1]? = some '*'
  · obtain ⟨rfl, next⟩ := block
    have pair : pass.readPair? '/' '*' = some { pass with mode := .blockComment } := by
      simp [Pass.readPair?, mode, Mode.behindPair?]
    have inside' := (List.getElem?_eq_some_iff.1 next).1
    refine ⟨{ s with mode := .blockComment, index := s.index + 2 }, ?_, ?_⟩
    · simp [turn, code, next]
    · exact sound_within lines rfl oneLine (by simp) (by simp; omega) (comes_pair agrees lines here next pair) rfl
        agrees.previous (.inr (.inl rfl))
  by_cases comment : c = '/' ∧ current[s.index + 1]? = some '/'
  · refine ⟨{ s with mode := .lineComment }.endLine, ?_, ?_⟩
    · simp [turn, code, comment]
    · exact sound_lineComment agrees lines oneLine here code comment.1 comment.2
  have alone : ∀ d, current[s.index + 1]? = some d → pass.readPair? c d = none := by
    intro d next
    rw [next] at block comment
    simp only [Pass.readPair?, mode, Option.map_eq_none_iff]
    unfold Mode.behindPair?
    split <;> simp_all
  have noEnd := ne_lineEnd lines oneLine here
  have comes := comes_single agrees lines here alone
  have kept : pass.write c = [c] := by simp [Pass.write, mode]
  rw [kept] at comes
  have plain : s.turn current c current[s.index + 1]? = match opens? pass.previous c with
      | some kind => .ok (s.keep c (.literal kind))
      | none => .ok (s.keep c .code) := by
    simp only [turn, code, agrees.previous]
    rw [if_neg (by simpa using block), if_neg (by simpa using comment)]
  rw [plain]
  cases opened : opens? pass.previous c with
  | some kind =>
    have read : pass.read c = { pass.keep c with mode := .literal kind, escaped := false } := by
      simp [Pass.read, mode, noEnd, opened]
    rw [read] at comes
    refine ⟨s.keep c (.literal kind), rfl, sound_keep agrees lines oneLine here comes rfl rfl ?_⟩
    exact .inr ⟨kind, rfl, isEscaped?_behind_opener here (ne_backslash_of_opens? opened)⟩
  | none =>
    have read : pass.read c = pass.keep c := by simp [Pass.read, mode, noEnd, opened]
    rw [read] at comes
    exact ⟨s.keep c .code, rfl, sound_keep agrees lines oneLine here comes mode.symm rfl (.inl rfl)⟩

/-- In a literal both look-ups succeed, and the count gives the bit of the pass. -/
theorem turn_literal {kind : Literal} (literal : s.mode = .literal kind)
    (bit : isEscaped? current s.index = some pass.escaped) :
    ∃ s', s.turn current c current[s.index + 1]? = .ok s' ∧ Sound text s' ∧ s'.left < s.left := by
  have mode : pass.mode = .literal kind := agrees.mode ▸ literal
  have alone : ∀ d, current[s.index + 1]? = some d → pass.readPair? c d = none := by
    intro d _
    simp [Pass.readPair?, mode, Mode.behindPair?]
  have noEnd := ne_lineEnd lines oneLine here
  have comes := comes_single agrees lines here alone
  have kept : pass.write c = [c] := by simp [Pass.write, mode]
  have read : pass.read c = { pass.keep c with
      mode := if c == kind.closer && !pass.escaped then .code else .literal kind
      escaped := c == '\\' && !pass.escaped } := by
    simp [Pass.read, mode, noEnd]
  rw [kept, read] at comes
  have behind : s.modeBehind current c =
      .ok (if c == kind.closer && !pass.escaped then .code else .literal kind) := by
    simp only [modeBehind, literal, Mode.closer?, bit]
    cases c == kind.closer <;> cases pass.escaped <;> rfl
  have turned : s.turn current c current[s.index + 1]? =
      .ok (s.keep c (if c == kind.closer && !pass.escaped then .code else .literal kind)) := by
    simp only [turn, literal]
    rw [behind]
    rfl
  refine ⟨_, turned, sound_keep agrees lines oneLine here comes rfl rfl ?_⟩
  by_cases closes : (c == kind.closer && !pass.escaped) = true
  · exact .inl (if_pos closes)
  · exact .inr ⟨kind, if_neg closes, isEscaped?_succ here bit⟩

end

/-! ## Steps and runs -/

/-- No step fails, and each one brings the reading closer to its end. -/
theorem step_sound (sound : Sound text s) :
    ∃ s', s.step = .ok s' ∧ Sound text s' ∧ (s.lines ≠ [] → s'.left < s.left) := by
  cases sound with
  | done lines out =>
    refine ⟨s, ?_, .done lines out, fun more => absurd lines more⟩
    simp only [step, lines]
  | @within current later pass lines inside oneLine agrees =>
    cases here : current[s.index]? with
    | some c =>
      have step_eq : s.step = s.turn current c current[s.index + 1]? := by simp only [step, lines, here]
      rw [step_eq]
      have turned : ∃ s', s.turn current c current[s.index + 1]? = .ok s' ∧ Sound text s' ∧ s'.left < s.left := by
        rcases agrees.lookups with code | block | ⟨kind, literal, -, bit⟩
        · exact turn_code agrees lines oneLine here code
        · exact turn_blockComment agrees lines oneLine here block
        · exact turn_literal agrees lines oneLine here literal bit
      obtain ⟨s', ok, sound', less⟩ := turned
      exact ⟨s', ok, sound', fun _ => less⟩
    | none =>
      have ended : current.drop s.index = [] := List.drop_eq_nil_iff.2 (List.getElem?_eq_none_iff.1 here)
      have comes := agrees.comes
      rw [rest_eq lines, ended, List.nil_append] at comes
      obtain ⟨sound', left⟩ := sound_endLine lines oneLine comes agrees.mode agrees.previous
      refine ⟨s.endLine, by simp only [step, lines, here], sound', fun _ => ?_⟩
      rw [left, left_eq lines, List.length_append]
      omega

theorem run_sound : ∀ (n : Nat) {s : Reader}, Sound text s → ∃ s', run n s = .ok s' ∧ Sound text s'
  | 0, s, sound => ⟨s, rfl, sound⟩
  | n + 1, s, sound => by
    obtain ⟨s', ok, sound', -⟩ := step_sound sound
    obtain ⟨s'', run, sound''⟩ := run_sound n sound'
    refine ⟨s'', ?_, sound''⟩
    rw [Reader.run, ok]
    exact run

/-- The reading comes to its end. -/
theorem exists_run_done (sound : Sound text s) :
    ∃ n s', run n s = .ok s' ∧ s'.lines = [] ∧ s'.out.reverse = ({} : Pass).written text := by
  induction k : s.left using Nat.strongRecOn generalizing s with
  | ind k ih =>
    by_cases more : s.lines = []
    · cases sound with
      | done _ out => exact ⟨0, s, rfl, more, out⟩
      | within lines => simp [more] at lines
    · obtain ⟨s', ok, sound', less⟩ := step_sound sound
      obtain ⟨n, s'', run, done⟩ := ih s'.left (k ▸ less more) sound' rfl
      refine ⟨n + 1, s'', ?_, done⟩
      rw [Reader.run, ok]
      exact run

theorem sound_start (text : List Char) : Sound text (start text) := by
  cases lines : text.splitOn '\n' with
  | nil => exact absurd lines (List.splitOn_ne_nil _ _)
  | cons current later =>
    have lines' : (start text).lines = current :: later := lines
    have rest : (start text).rest = text := by
      rw [rest_eq lines']
      exact rejoin_splitOn lines
    have agrees : Agrees text (start text) current {} := by
      refine ⟨?_, rfl, rfl, .inl rfl⟩
      rw [rest]
      exact .here
    refine .within lines' (Nat.zero_le _) ?_ agrees
    intro l mem
    exact lineEnd_notMem_of_mem_splitOn mem

end Reader

/-- A single pass from left to right, which carries the mode, one bit for escapes and the last character kept, writes
what `strip` keeps. The reading line by line, which looks up closers and counts backslashes back, fails at no step
and ends with the same. Wherever it stands, its index does not lie behind the end of the line, and the pass, which
has one state at that place, agrees with it: a closer is looked up for literals alone, and what is counted
there is the bit. -/
theorem reads_as_forward_pass (text : List Char) :
    strip text = ({} : Pass).written text ∧
    (∃ n s, Reader.run n (.start text) = .ok s ∧ s.lines = [] ∧ s.out.reverse = strip text) ∧
    ∀ n, ∃ s, Reader.run n (.start text) = .ok s ∧
      ∀ current later, s.lines = current :: later →
        s.index ≤ current.length ∧ ∃ pass, s.Agrees text current pass ∧
          ∀ out other, ({} : Pass).Comes text out other s.rest → other = pass := by
  refine ⟨strip_eq_written text, ?_, fun n => ?_⟩
  · rw [strip_eq_written]
    exact Reader.exists_run_done (Reader.sound_start text)
  · obtain ⟨s, run, sound⟩ := Reader.run_sound n (Reader.sound_start text)
    refine ⟨s, run, fun current later lines => ?_⟩
    cases sound with
    | done none => simp [none] at lines
    | @within current' later' pass lines' inside _ agrees =>
      obtain ⟨rfl, -⟩ := List.cons.inj (lines.symm.trans lines')
      exact ⟨inside, pass, agrees, fun out other comes => comes.unique agrees.comes⟩

end BundleAudit.Source

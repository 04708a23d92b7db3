import BundleAudit.Source.Comments
import Mathlib.Logic.ExistsUnique

/-!
# The pieces of a script

A script is a sequence of pieces: line ends, characters of code, divisions, literals and comments. The
characters in front, and the last character kept before them that is no blank, decide how a piece opens
(`openingAt`). A literal and a comment run from there to the first place where they may end (`FirstStop`).

`Decomposes previous text ps` says that `text` is read as the pieces `ps` behind `previous`. Every text
has exactly one decomposition (`existsUnique_decomposes`).
-/

namespace BundleAudit.Source

open BundleAudit.Text

/-! ## How pieces open -/

inductive Opening
  | lineEnd
  | plain
  | division
  | literal (kind : Literal)
  | lineComment
  | blockComment
deriving DecidableEq, Repr

/-- How the piece in front of a text opens. The characters behind a slash tell comments apart, the
character before it a division from a pattern. -/
def openingAt (previous : Option Char) : List Char → Option Opening
  | [] => none
  | '\n' :: _ => some .lineEnd
  | '/' :: '/' :: _ => some .lineComment
  | '/' :: '*' :: _ => some .blockComment
  | '/' :: _ => some (if patternMayStart previous then .literal .pattern else .division)
  | c :: _ => some ((Literal.ofQuote? c).elim .plain .literal)

theorem openingAt_slash (previous : Option Char) (rest : List Char) :
    openingAt previous ('/' :: rest) = some
      (if rest.head? = some '/' then .lineComment
      else if rest.head? = some '*' then .blockComment
      else if patternMayStart previous then .literal .pattern
      else .division) := by
  cases rest with
  | nil => rfl
  | cons d rest =>
    by_cases line : d = '/'
    · subst line; rfl
    by_cases block : d = '*'
    · subst block; rfl
    simp [openingAt, line, block]

/-- Only behind a slash, the character that follows matters. -/
theorem openingAt_of_ne_slash {previous : Option Char} {c : Char} (noSlash : c ≠ '/') (rest : List Char) :
    openingAt previous (c :: rest) = openingAt previous [c] := by
  unfold openingAt
  split <;> simp_all

/-! ## Where pieces end -/

/-- A line ends in front of the text. -/
def AtLineEnd (rest : List Char) : Prop := ∀ c ∈ rest.head?, c = '\n'

def trailingBackslashes (read : List Char) : Nat := (read.reverse.takeWhile (· == '\\')).length

/-- A literal may end at a line end, and at its closer behind an even number of backslashes. -/
def Literal.MayEnd (kind : Literal) (read rest : List Char) : Prop :=
  AtLineEnd rest ∨ rest.head? = some kind.closer ∧ trailingBackslashes read % 2 = 0

def blockCloser : List Char := ['*', '/']

def BlockMayEnd (_ rest : List Char) : Prop := rest = [] ∨ blockCloser <+: rest

/-- The first place at which a reading may stop lies between `read` and `rest`. -/
structure FirstStop (stop : List Char → List Char → Prop) (read rest : List Char) : Prop where
  stops : stop read rest
  first : ∀ before c after, read = before ++ c :: after → ¬ stop before (c :: after ++ rest)

theorem exists_firstStop (stop : List Char → List Char → Prop) (atEnd : ∀ read, stop read [])
    (text : List Char) : ∃ read rest, text = read ++ rest ∧ FirstStop stop read rest := by
  induction text generalizing stop with
  | nil => exact ⟨[], [], rfl, atEnd [], by simp⟩
  | cons c text ih =>
    by_cases here : stop [] (c :: text)
    · exact ⟨[], c :: text, rfl, here, by simp⟩
    · obtain ⟨read, rest, rfl, stops, first⟩ := ih (fun read => stop (c :: read)) fun _ => atEnd _
      refine ⟨c :: read, rest, rfl, stops, fun before d after h => ?_⟩
      cases before with
      | nil =>
        obtain ⟨rfl, rfl⟩ : c = d ∧ read = after := by simpa using h
        exact here
      | cons b before =>
        obtain ⟨rfl, tail⟩ : c = b ∧ read = before ++ d :: after := by simpa using h
        exact first before d after tail

/-- A reading that stops cannot be continued to another first stop. -/
theorem FirstStop.eq_nil {stop : List Char → List Char → Prop} {read more rest : List Char}
    (stops : stop read (more ++ rest)) (h : FirstStop stop (read ++ more) rest) : more = [] := by
  cases more with
  | nil => rfl
  | cons c more => exact absurd stops (h.first read c more rfl)

theorem FirstStop.unique {stop : List Char → List Char → Prop} {read rest read' rest' : List Char}
    (h : FirstStop stop read rest) (h' : FirstStop stop read' rest')
    (same : read ++ rest = read' ++ rest') : read = read' ∧ rest = rest' := by
  rcases List.append_eq_append_iff.1 same with ⟨more, rfl, rfl⟩ | ⟨more, rfl, rfl⟩
  · obtain rfl := FirstStop.eq_nil h.stops h'
    simp
  · obtain rfl := FirstStop.eq_nil h'.stops h
    simp

/-- What closes a literal or a comment; nothing if it breaks off. -/
def closing (closer : List Char) (closed : Bool) : List Char := if closed then closer else []

/-! ## Pieces -/

/-- A piece of a script. Literals and comments that are not closed break off at the end of the line, or
of the script. -/
inductive Piece
  | lineEnd
  | plain (c : Char)
  | division
  | literal (kind : Literal) (body : List Char) (closed : Bool)
  | lineComment (body : List Char)
  | blockComment (body : List Char) (closed : Bool)
deriving DecidableEq, Repr

namespace Piece

def text : Piece → List Char
  | lineEnd => ['\n']
  | plain c => [c]
  | division => ['/']
  | literal kind body closed => kind.closer :: body ++ closing [kind.closer] closed
  | lineComment body => '/' :: '/' :: body
  | blockComment body closed => '/' :: '*' :: body ++ closing blockCloser closed

/-- What stands for a piece in the cleaned script: nothing for a line comment, one blank for each line end
in a block comment, and every other piece as it is. -/
def kept : Piece → List Char
  | lineComment _ => []
  | blockComment body _ => List.replicate (body.count '\n') ' '
  | p => p.text

def opening : Piece → Opening
  | lineEnd => .lineEnd
  | plain _ => .plain
  | division => .division
  | literal kind _ _ => .literal kind
  | lineComment _ => .lineComment
  | blockComment _ _ => .blockComment

/-- Whether a piece that has opened ends where `rest` begins. -/
def Ends : Piece → List Char → Prop
  | literal kind body closed, rest =>
    FirstStop kind.MayEnd body (closing [kind.closer] closed ++ rest) ∧ (closed = false → AtLineEnd rest)
  | lineComment body, rest => FirstStop (fun _ rest => AtLineEnd rest) body rest
  | blockComment body closed, rest =>
    FirstStop BlockMayEnd body (closing blockCloser closed ++ rest) ∧ (closed = false → rest = [])
  | _, _ => True

/-- The piece is read in front of `rest`, behind the last character kept that is no blank. -/
structure Fits (previous : Option Char) (p : Piece) (rest : List Char) : Prop where
  opens : openingAt previous (p.text ++ rest) = some p.opening
  ends : p.Ends rest

end Piece

/-- The last character that is no blank, once more characters are kept. -/
def previousAfter (previous : Option Char) (kept : List Char) : Option Char :=
  (kept.reverse.find? fun c => !isBlank c).or previous

/-- A text is read as a sequence of pieces, behind the last character kept that is no blank. -/
inductive Decomposes : Option Char → List Char → List Piece → Prop
  | nil {previous : Option Char} : Decomposes previous [] []
  | cons {previous : Option Char} {p : Piece} {rest : List Char} {ps : List Piece} :
    p.Fits previous rest → Decomposes (previousAfter previous p.kept) rest ps →
      Decomposes previous (p.text ++ rest) (p :: ps)

theorem Decomposes.flatMap_text {previous : Option Char} {text : List Char} {ps : List Piece}
    (h : Decomposes previous text ps) : ps.flatMap Piece.text = text := by
  induction h with
  | nil => rfl
  | cons _ _ ih => rw [List.flatMap_cons, ih]

/-- What is made of a list piece by piece can be split at a place in what is made of one piece. -/
theorem exists_split_of_flatMap_eq {α β : Type*} {f : α → List β} {c : β} : ∀ {xs : List α} {front back : List β},
    xs.flatMap f = front ++ c :: back → ∃ before x after u v, xs = before ++ x :: after ∧ f x = u ++ c :: v ∧
      front = before.flatMap f ++ u ∧ back = v ++ after.flatMap f
  | [], front, back, h => by simp at h
  | x :: xs, front, back, h => by
    rw [List.flatMap_cons] at h
    have later {front' : List β} (split : front = f x ++ front') (rest : xs.flatMap f = front' ++ c :: back) :
        ∃ before y after u v, x :: xs = before ++ y :: after ∧ f y = u ++ c :: v ∧
          front = before.flatMap f ++ u ∧ back = v ++ after.flatMap f := by
      obtain ⟨before, y, after, u, v, rfl, here, rfl, rfl⟩ := exists_split_of_flatMap_eq rest
      exact ⟨x :: before, y, after, u, v, rfl, here, by simp [split], rfl⟩
    rcases List.append_eq_append_iff.1 h with ⟨front', split, rest⟩ | ⟨within, here, rest⟩
    · exact later split rest
    · cases within with
      | nil => exact @later [] (by rw [here]; simp) rest.symm
      | cons d within =>
        obtain ⟨rfl, rfl⟩ := List.cons.inj rest
        exact ⟨[], x, xs, front, within, rfl, here, rfl, rfl⟩

/-! ## There is one decomposition -/

theorem Literal.closer_ne_lineEnd (kind : Literal) : kind.closer ≠ '\n' := by cases kind <;> decide

theorem Literal.closer_of_ofQuote? {c : Char} {kind : Literal} (h : Literal.ofQuote? c = some kind) :
    kind.closer = c := by
  unfold Literal.ofQuote? at h
  split at h <;> cases h <;> rfl

/-- What a text begins with when a piece opens in front of it. -/
def Opening.Begins (text : List Char) : Opening → Prop
  | .lineEnd => ∃ rest, text = '\n' :: rest
  | .plain => ∃ c rest, text = c :: rest
  | .division => ∃ rest, text = '/' :: rest
  | .literal kind => ∃ rest, text = kind.closer :: rest
  | .lineComment => ∃ rest, text = '/' :: '/' :: rest
  | .blockComment => ∃ rest, text = '/' :: '*' :: rest

theorem begins_of_openingAt {previous : Option Char} {text : List Char} {o : Opening}
    (h : openingAt previous text = some o) : o.Begins text := by
  unfold openingAt at h
  split at h
  · simp at h
  · cases h; exact ⟨_, rfl⟩
  · cases h; exact ⟨_, rfl⟩
  · cases h; exact ⟨_, rfl⟩
  · cases h
    split
    · exact ⟨_, rfl⟩
    · exact ⟨_, rfl⟩
  · cases h
    cases quote : Literal.ofQuote? _ with
    | none => exact ⟨_, _, rfl⟩
    | some kind => exact ⟨_, by rw [Literal.closer_of_ofQuote? quote]⟩

/-- Some piece opens in front of every character. -/
theorem exists_openingAt (previous : Option Char) (c : Char) (text : List Char) :
    ∃ o, openingAt previous (c :: text) = some o := by
  unfold openingAt
  split <;> simp_all

/-- A literal and a block comment end somewhere, whether they are closed or not. -/
theorem exists_literal_end (kind : Literal) (text : List Char) :
    ∃ body closed rest, text = body ++ closing [kind.closer] closed ++ rest ∧
      (Piece.literal kind body closed).Ends rest := by
  obtain ⟨body, rest, rfl, h⟩ := exists_firstStop kind.MayEnd (fun _ => .inl (by simp [AtLineEnd])) text
  rcases h.stops with line | ⟨head, -⟩
  · exact ⟨body, false, rest, by simp [closing], by simpa [closing] using h, fun _ => line⟩
  · obtain ⟨rest, rfl⟩ := List.head?_eq_some_iff.1 head
    exact ⟨body, true, rest, by simp [closing], by simpa [closing] using h, by simp⟩

theorem exists_block_end (text : List Char) :
    ∃ body closed rest, text = body ++ closing blockCloser closed ++ rest ∧
      (Piece.blockComment body closed).Ends rest := by
  obtain ⟨body, rest, rfl, h⟩ := exists_firstStop BlockMayEnd (fun _ => .inl rfl) text
  rcases h.stops with rfl | ⟨rest, rfl⟩
  · exact ⟨body, false, [], by simp [closing], by simpa [closing] using h, fun _ => rfl⟩
  · exact ⟨body, true, rest, by simp [closing], by simpa [closing] using h, by simp⟩

theorem exists_fits (previous : Option Char) (c : Char) (text : List Char) :
    ∃ (p : Piece) (rest : List Char), c :: text = p.text ++ rest ∧ p.Fits previous rest := by
  obtain ⟨o, h⟩ := exists_openingAt previous c text
  have found : ∀ (p : Piece) (rest : List Char), c :: text = p.text ++ rest → p.opening = o → p.Ends rest →
      ∃ (p : Piece) (rest : List Char), c :: text = p.text ++ rest ∧ p.Fits previous rest :=
    fun p rest e opens ends => ⟨p, rest, e, by rw [← e, opens, h], ends⟩
  have begins := begins_of_openingAt h
  cases o with
  | lineEnd =>
    obtain ⟨rest, e⟩ := begins
    exact found .lineEnd rest e rfl trivial
  | plain =>
    obtain ⟨d, rest, e⟩ := begins
    exact found (.plain d) rest e rfl trivial
  | division =>
    obtain ⟨rest, e⟩ := begins
    exact found .division rest e rfl trivial
  | literal kind =>
    obtain ⟨tail, e⟩ := begins
    obtain ⟨body, closed, rest, rfl, ends⟩ := exists_literal_end kind tail
    exact found (.literal kind body closed) rest e rfl ends
  | lineComment =>
    obtain ⟨tail, e⟩ := begins
    obtain ⟨body, rest, rfl, ends⟩ :=
      exists_firstStop (fun _ rest => AtLineEnd rest) (fun _ => by simp [AtLineEnd]) tail
    exact found (.lineComment body) rest e rfl ends
  | blockComment =>
    obtain ⟨tail, e⟩ := begins
    obtain ⟨body, closed, rest, rfl, ends⟩ := exists_block_end tail
    exact found (.blockComment body closed) rest e rfl ends

/-- Where a literal or a comment ends, it is either closed or it breaks off: `P` says where it may break
off, which is never in front of its closer. -/
theorem closing_unique {P : List Char → Prop} {closer rest rest' : List Char} {closed closed' : Bool}
    (never : ∀ tail, ¬ P (closer ++ tail)) (h : closed = false → P rest) (h' : closed' = false → P rest')
    (same : closing closer closed ++ rest = closing closer closed' ++ rest') :
    closed = closed' ∧ rest = rest' := by
  cases closed <;> cases closed' <;> simp only [closing, Bool.false_eq_true, ↓reduceIte, List.nil_append] at same
  · exact ⟨rfl, same⟩
  · exact absurd (same ▸ h rfl) (never rest')
  · exact absurd (same ▸ h' rfl) (never rest)
  · exact ⟨rfl, List.append_cancel_left same⟩

theorem Literal.not_atLineEnd_closer (kind : Literal) (tail : List Char) :
    ¬ AtLineEnd ([kind.closer] ++ tail) :=
  fun h => kind.closer_ne_lineEnd (h _ rfl)

/-- In front of a text, at most one piece can be read. -/
theorem Piece.Fits.unique {previous : Option Char} {p q : Piece} {rest rest' : List Char}
    (hp : p.Fits previous rest) (hq : q.Fits previous rest') (same : p.text ++ rest = q.text ++ rest') :
    p = q ∧ rest = rest' := by
  have opening : p.opening = q.opening := by
    have h := hp.opens
    rw [same, hq.opens] at h
    exact (Option.some.inj h).symm
  have ends := hp.ends
  have ends' := hq.ends
  cases p <;> cases q <;> simp [Piece.opening] at opening
  case lineEnd.lineEnd => exact ⟨rfl, by simpa [Piece.text] using same⟩
  case plain.plain c d =>
    obtain ⟨rfl, rfl⟩ : c = d ∧ rest = rest' := by simpa [Piece.text] using same
    exact ⟨rfl, rfl⟩
  case division.division => exact ⟨rfl, by simpa [Piece.text] using same⟩
  case literal.literal kind body closed kind' body' closed' =>
    subst opening
    obtain ⟨stop, off⟩ := ends
    obtain ⟨stop', off'⟩ := ends'
    obtain ⟨rfl, tails⟩ := stop.unique stop' (by simpa [Piece.text] using same)
    obtain ⟨rfl, rfl⟩ := closing_unique kind.not_atLineEnd_closer off off' tails
    exact ⟨rfl, rfl⟩
  case lineComment.lineComment body body' =>
    obtain ⟨rfl, rfl⟩ := FirstStop.unique ends ends' (by simpa [Piece.text] using same)
    exact ⟨rfl, rfl⟩
  case blockComment.blockComment body closed body' closed' =>
    obtain ⟨stop, off⟩ := ends
    obtain ⟨stop', off'⟩ := ends'
    obtain ⟨rfl, tails⟩ := stop.unique stop' (by simpa [Piece.text] using same)
    obtain ⟨rfl, rfl⟩ := closing_unique (P := (· = [])) (by simp [blockCloser]) off off' tails
    exact ⟨rfl, rfl⟩

theorem Piece.text_ne_nil (p : Piece) : p.text ≠ [] := by cases p <;> simp [Piece.text]

theorem exists_decomposes (previous : Option Char) (text : List Char) :
    ∃ ps, Decomposes previous text ps := by
  match text with
  | [] => exact ⟨[], .nil⟩
  | c :: text =>
    obtain ⟨p, rest, e, fits⟩ := exists_fits previous c text
    have shorter : rest.length < (c :: text).length := by
      have := List.length_pos_iff.2 p.text_ne_nil
      rw [e, List.length_append]; omega
    obtain ⟨ps, h⟩ := exists_decomposes (previousAfter previous p.kept) rest
    exact ⟨p :: ps, e ▸ .cons fits h⟩
termination_by text.length
decreasing_by exact shorter

theorem Decomposes.unique {previous : Option Char} {text : List Char} {ps qs : List Piece}
    (h : Decomposes previous text ps) (h' : Decomposes previous text qs) : ps = qs := by
  induction h generalizing qs with
  | nil =>
    generalize e : ([] : List Char) = text at h'
    cases h' with
    | nil => rfl
    | cons => exact absurd (List.append_eq_nil_iff.1 e.symm).1 (Piece.text_ne_nil _)
  | @cons previous p rest ps fits _ ih =>
    generalize e : p.text ++ rest = text at h'
    cases h' with
    | nil => exact absurd (List.append_eq_nil_iff.1 e).1 p.text_ne_nil
    | cons fits' h' =>
      obtain ⟨rfl, rfl⟩ := fits.unique fits' e
      rw [ih h']

theorem existsUnique_decomposes (previous : Option Char) (text : List Char) :
    ∃! ps, Decomposes previous text ps := by
  obtain ⟨ps, h⟩ := exists_decomposes previous text
  exact ⟨ps, h, fun _ h' => h'.unique h⟩

end BundleAudit.Source

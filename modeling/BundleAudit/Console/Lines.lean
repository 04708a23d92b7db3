import BundleAudit.Text.Blank
import BundleAudit.Text.CellWidth

/-!
# Lines of cells

A text is laid out in lines of a width that is counted in cells: tabs are expanded, words that do not
fit go to the next line, and what is still too long is cut off or folded. A line can then be filled up
with spaces.
-/

namespace BundleAudit.Console

open BundleAudit.Text

/-- Characters that move the cursor of a terminal; a laid out text has none. -/
def isControl (c : Char) : Bool :=
  c == '\x07' || c == '\x08' || c == '\x0b' || c == '\x0c' || c == '\r'

def dropControls (s : List Char) : List Char := s.filter (!isControl ·)

def spaces (n : Nat) : List Char := List.replicate n ' '

/-- Looks by halving for a place where a text can be cut to a width. A character that would be cut in
two becomes a space. -/
def cutBetween (s : List Char) (width : Nat) : Nat → Nat → Nat → List Char
  | 0, low, _ => s.take low
  | fuel + 1, low, high =>
    let middle := (low + high) / 2
    let front := s.take (middle + 1)
    let length := cellLength front
    if length == width + 1 && (s[middle]?.map cellWidth) == some 2 then s.take middle ++ [' ']
    else if length == width then front
    else if length > width then cutBetween s width fuel low middle
    else cutBetween s width fuel middle high

/-- A text cut to a width if it is longer. -/
def cut (width : Nat) (s : List Char) : List Char :=
  if cellLength s ≤ width then s
  else if width == 0 then []
  else cutBetween s width (s.length + 1) 0 s.length

/-- A text filled up with spaces to a width. -/
def padRight (width : Nat) (s : List Char) : List Char := s ++ spaces (width - cellLength s)

def padLeft (width : Nat) (s : List Char) : List Char := spaces (width - cellLength s) ++ s

/-- A text between spaces, of which one more stands behind it than in front if their number is odd. -/
def padCenter (width : Nat) (s : List Char) : List Char :=
  padRight width (spaces ((width - cellLength s) / 2) ++ s)

/-- A text cut or filled up to a width. -/
def fit (width : Nat) (s : List Char) : List Char := padRight width (cut width s)

/-- What happens to a word that is wider than a line. -/
inductive Overflow
  /-- It goes on in the next line. -/
  | fold
  /-- It is cut off, and an ellipsis takes the last cell. -/
  | ellipsis
deriving DecidableEq, Repr

def truncate (overflow : Overflow) (width : Nat) (s : List Char) : List Char :=
  if cellLength s ≤ width then s
  else
    match overflow with
    | .fold => fit width s
    | .ellipsis => fit (width - 1) s ++ ['…']

/-- How a line is filled up with spaces. -/
inductive Justify
  | none
  | left
  | right
  | center
deriving DecidableEq, Repr

def justifyLine (justify : Justify) (overflow : Overflow) (width : Nat) (s : List Char) : List Char :=
  match justify with
  | .none => s
  | .left => padRight width (truncate overflow width s)
  | .right => padLeft width (truncate overflow width (trimBack s))
  | .center => padCenter width (truncate overflow width (trimBack s))

/-! ## Words -/

/-- The texts between the line ends of a text. -/
def splitLines : List Char → List (List Char)
  | [] => [[]]
  | c :: rest =>
    if c == '\n' then [] :: splitLines rest
    else
      match splitLines rest with
      | [] => [[c]]
      | line :: lines => (c :: line) :: lines

/-- Replaces each tab by spaces up to the next place that eight divides, at least by one. -/
def expandTabs (position : Nat) : List Char → List Char
  | [] => []
  | c :: rest =>
    if c == '\t' then
      let next := (position / 8 + 1) * 8
      spaces (next - position) ++ expandTabs next rest
    else c :: expandTabs (position + cellWidth c) rest

/-- The words of a text with the blanks behind them; blanks in front of all words belong to the first
one. A text of blanks has no words. -/
def words : Nat → List Char → List (List Char)
  | 0, _ => []
  | fuel + 1, s =>
    let lead := s.takeWhile isBlank
    let body := (s.dropWhile isBlank).takeWhile (!isBlank ·)
    let rest := (s.dropWhile isBlank).dropWhile (!isBlank ·)
    if body.isEmpty then []
    else (lead ++ body ++ rest.takeWhile isBlank) :: words fuel (rest.dropWhile isBlank)

/-- The pieces of a word that fit into a width each. -/
def chop (width : Nat) (taken : Nat) : List Char → List (List Char)
  | [] => [[]]
  | c :: rest =>
    let w := cellWidth c
    let grow (pieces : List (List Char)) : List (List Char) :=
      match pieces with
      | [] => [[c]]
      | p :: ps => (c :: p) :: ps
    if taken + w > width then [] :: grow (chop width w rest)
    else grow (chop width (taken + w) rest)

/-- The places in front of the pieces of a word that starts at a place, except the start of the text. -/
def pieceStarts : Nat → List (List Char) → List Nat
  | _, [] => []
  | start, p :: ps => (if start == 0 then [] else [start]) ++ pieceStarts (start + p.length) ps

/-- The places where a line has to be broken. `start` is the place of the next word, and `taken` counts
the cells of the line in front of it. -/
def breaksFrom (fold : Bool) (width start taken : Nat) : List (List Char) → List Nat
  | [] => []
  | w :: ws =>
    let next := start + w.length
    let length := cellLength (trimBack w)
    if taken + length ≤ width then breaksFrom fold width next (taken + cellLength w) ws
    else if length > width then
      if fold then
        let pieces := chop width 0 w
        pieceStarts start pieces ++
          breaksFrom fold width next (cellLength (pieces.getLast?.getD [])) ws
      else
        (if start == 0 then [] else [start]) ++ breaksFrom fold width next (cellLength w) ws
    else if taken != 0 && start != 0 then
      start :: breaksFrom fold width next (cellLength w) ws
    else breaksFrom fold width next taken ws

/-- The pieces of a text between places in ascending order. -/
def divide (start : Nat) : List Nat → List Char → List (List Char)
  | [], s => [s]
  | b :: bs, s => s.take (b - start) :: divide b bs (s.drop (b - start))

/-- Takes blanks off the end of a line that has more characters than the width, down to the width. -/
def dropExcessBlanks (width : Nat) (s : List Char) : List Char :=
  let blanks := s.length - (trimBack s).length
  s.take (s.length - min blanks (s.length - width))

/-- Breaks one line of a text into lines of a width. -/
def wrapLine (overflow : Overflow) (width : Nat) (s : List Char) : List (List Char) :=
  let s := if s.contains '\t' then expandTabs 0 s else s
  let breaks := breaksFrom (overflow == .fold) width 0 0 (words (s.length + 1) s)
  (divide 0 breaks s).map (dropExcessBlanks width)

/-- Lays a text out in lines of a width. -/
def wrap (justify : Justify) (overflow : Overflow) (width : Nat) (s : List Char) : List (List Char) :=
  ((splitLines s).flatMap (wrapLine overflow width)).map fun line =>
    truncate overflow width (justifyLine justify overflow width line)

/-! ## Measuring -/

/-- A character that ends a line when a text is measured. -/
def endsLine (c : Char) : Bool :=
  c == '\n' || ('\x1c' ≤ c && c ≤ '\x1e') || c == '\x85' || c == '\u2028' || c == '\u2029'

/-- The width of the widest line of a text; `taken` counts the cells of the line so far. -/
def widestLine (taken : Nat) : List Char → Nat
  | [] => taken
  | c :: rest =>
    if endsLine c then max taken (widestLine 0 rest) else widestLine (taken + cellWidth c) rest

end BundleAudit.Console

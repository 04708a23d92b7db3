import BundleAudit.Console.Lines
import BundleAudit.Decimal.Binary

/-!
# Tables

A table has a frame or none, a title or none, and columns that are as wide as their widest cell. If the
table is wider than the console, the widest columns shrink first, and their cells are wrapped.
-/

namespace BundleAudit.Console

structure Column where
  header : List Char
  justify : Justify := .left
  /-- The width of the text; as wide as the widest cell if absent. -/
  width : Option Nat := none

structure Table where
  title : Option (List Char) := none
  columns : List Column
  rows : List (List (List Char)) := []
  /-- Whether the table has a frame and shows its headers. -/
  framed : Bool := true

namespace Table

/-! ## Widths -/

/-- The width of columns beside each other. -/
def total (widths : List Nat) : Nat := widths.foldl (· + ·) 0

/-- The cells that a frame takes in each line. -/
def frameWidth (t : Table) : Nat := if t.framed then t.columns.length + 1 else 0

/-- The texts of a column. -/
def columnTexts (t : Table) (index : Nat) (c : Column) : List (List Char) :=
  (if t.framed then [c.header] else []) ++ t.rows.map fun row => row.getD index []

/-- The width of a text with a space on both sides, at most a limit. -/
def paddedWidth (limit : Nat) (s : List Char) : Nat :=
  if limit < 3 then limit else min (min (widestLine 0 s) limit + 2) limit

/-- The width that a column wants, at most a limit. -/
def wantedWidth (t : Table) (limit : Nat) (index : Nat) (c : Column) : Nat :=
  if limit == 0 then 0
  else
    match c.width with
    | some w => min (w + 2) limit
    | none => min (((t.columnTexts index c).map (paddedWidth limit)).foldl max 0) limit

/-- Takes a total from values in equal shares, rounded and at most `limit` each; only the values that
are marked give. -/
def takeShares (limit : Nat → Nat) : Nat → Nat → List (Nat × Bool) → List Nat
  | _, _, [] => []
  | total, sharers, (value, gives) :: rest =>
    if gives && sharers > 0 then
      let share := min (limit value) (Decimal.roundDiv total sharers .toEven)
      (value - share) :: takeShares limit (total - share) (sharers - 1) rest
    else value :: takeShares limit total sharers rest

/-- Lets the widest of the columns that can shrink give width, until all together fit into a limit. -/
def shrinkWidest (limit : Nat) : Nat → List (Nat × Bool) → List (Nat × Bool)
  | 0, columns => columns
  | fuel + 1, columns =>
    let excess := total (columns.map (·.1)) - limit
    let wrapping := columns.filter (·.2)
    if excess == 0 || wrapping.isEmpty then columns
    else
      let widest := (wrapping.map (·.1)).foldl max 0
      let second := ((wrapping.map (·.1)).filter (· != widest)).foldl max 0
      if widest == second then columns
      else
        let marked := columns.map fun (w, wraps) => (w, wraps && w == widest)
        let most := min excess (widest - second)
        let givers := if most == 0 then 0 else marked.countP (·.2)
        let widths := takeShares (fun _ => most) excess givers marked
        shrinkWidest limit fuel (widths.zip (columns.map (·.2)))

/-- The widths of the columns in a console, with the spaces around their texts. -/
def columnWidths (t : Table) (console : Nat) : List Nat :=
  let limit := console - t.frameWidth
  let indexed := t.columns.zipIdx
  let wanted := indexed.map fun (c, i) => max 1 (t.wantedWidth limit i c)
  if total wanted ≤ limit then wanted
  else
    let shrunk := shrinkWidest limit (total wanted) (wanted.zip (t.columns.map (·.width.isNone)))
    let widths := shrunk.map (·.1)
    let widths :=
      if total widths ≤ limit then widths
      else
        let marked := widths.map fun w => (w, w != 0)
        takeShares id (total widths - limit) (marked.countP (·.2)) marked
    (widths.zip indexed).map fun (w, (c, i)) => t.wantedWidth w i c

/-! ## Drawing -/

/-- The lines of a cell, each with the width of its column. -/
def cellLines (c : Column) (width : Nat) (s : List Char) : List (List Char) :=
  if width == 0 then []
  else
    let inner := width - 2
    let lines := if inner == 0 then [] else wrap c.justify .ellipsis inner s
    lines.map fun line => fit width (' ' :: (fit inner line ++ [' ']))

/-- The marks of a line across the table: at its left end, inside a column, between two columns, and at
its right end. -/
structure Border where
  left : Char
  fill : Char
  divider : Char
  right : Char

def Border.top : Border := ⟨'┏', '━', '┳', '┓'⟩
def Border.head : Border := ⟨'┡', '━', '╇', '┩'⟩
def Border.bottom : Border := ⟨'└', '─', '┴', '┘'⟩

def Border.draw (r : Border) (widths : List Nat) : List Char :=
  r.left :: ([r.divider].intercalate (widths.map fun w => List.replicate w r.fill) ++ [r.right])

/-- Puts the cells of one row beside each other. Headers that are lower than others stand at the
bottom, other cells at the top. -/
def drawRow (t : Table) (header : Bool) (widths : List Nat) (row : List (List Char)) :
    List (List Char) :=
  let cells := (widths.zip (t.columns.zip row)).map fun (w, c, s) => (w, cellLines c w s)
  let height := (cells.map (·.2.length)).foldl max 1
  let filled := cells.map fun (w, lines) =>
    let blank := List.replicate (height - lines.length) (spaces w)
    if header then blank ++ lines else lines ++ blank
  let bar := if header then '┃' else '│'
  (List.range height).map fun i =>
    let parts := filled.map fun lines => lines.getD i []
    if t.framed then bar :: ([bar].intercalate parts ++ [bar]) else parts.flatten

/-- The lines of a table in a console. -/
def draw (t : Table) (console : Nat) : List (List Char) :=
  let widths := t.columnWidths console
  let whole := total widths + t.frameWidth
  let title := match t.title with
    | some s => if whole == 0 then [] else wrap .center .fold whole s
    | none => []
  let body := t.rows.flatMap fun row =>
    t.drawRow false widths (t.columns.zipIdx.map fun (_, i) => row.getD i [])
  let lines :=
    if t.framed then
      [Border.top.draw widths] ++ t.drawRow true widths (t.columns.map (·.header)) ++
        [Border.head.draw widths] ++ body ++ [Border.bottom.draw widths]
    else body
  (title ++ lines).map (cut console)

end Table

end BundleAudit.Console

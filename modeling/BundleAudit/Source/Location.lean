import BundleAudit.Text.Blank

/-!
# Places in a script

`locate` resolves an offset to the line that holds it, a window of text around that line and a short
piece of text around the offset. Offsets outside the text stand for its nearest end.
-/

namespace BundleAudit.Source

open BundleAudit.Text

/-- The number of characters of the window on each side of the line. -/
def contextRadius : Nat := 200

/-- The number of characters of the snippet on each side of the offset. -/
def snippetRadius : Nat := 60

structure Location where
  lineNumber : Nat
  line : List Char
  window : List Char
  snippet : List Char
deriving DecidableEq, Repr

/-- The end of a text that stands behind its last line end. -/
def lastLine (s : List Char) : List Char := (s.reverse.takeWhile (· != '\n')).reverse

/-- The front of a text that stands before its first line end. -/
def firstLine (s : List Char) : List Char := s.takeWhile (· != '\n')

/-- The texts one after the other with one blank between them. -/
def joinWords (words : List (List Char)) : List Char := [' '].intercalate words

/-- The place of an offset. The window reaches one character farther to the left than to the right,
because it is counted from the line end before the line. -/
def locate (text : List Char) (offset : Int) : Location :=
  let index := min offset.toNat text.length
  let before := text.take index
  let after := text.drop index
  let lead := lastLine before
  let tail := firstLine after
  let windowStart := index - lead.length - (contextRadius + 1)
  let windowEnd := index + tail.length + contextRadius
  let snippetStart := index - snippetRadius
  { lineNumber := before.count '\n' + 1
    line := lead ++ tail
    window := (text.take windowEnd).drop windowStart
    snippet := joinWords (fields ((text.take (index + snippetRadius)).drop snippetStart)) }

end BundleAudit.Source

/-!
# Blank characters

A set of characters is written as the ascending list of its ranges of code points. The characters that separate
words are the Unicode white space characters together with the four information separators U+001C to U+001F. The
zero width space and the byte order mark are not blank.
-/

namespace BundleAudit.Text

/-- The code points from `low` to `high`, both included. -/
structure CodeRange where
  low : Nat
  high : Nat

/-- Membership in an ascending list of ranges. -/
def inRanges : List CodeRange → Nat → Bool
  | [], _ => false
  | r :: rest, code => if code < r.low then false else code ≤ r.high || inRanges rest code

/-- Code points of the blank characters. -/
def blankRanges : List CodeRange := [
  ⟨0x9, 0xd⟩, ⟨0x1c, 0x20⟩, ⟨0x85, 0x85⟩, ⟨0xa0, 0xa0⟩, ⟨0x1680, 0x1680⟩, ⟨0x2000, 0x200a⟩,
  ⟨0x2028, 0x2029⟩, ⟨0x202f, 0x202f⟩, ⟨0x205f, 0x205f⟩, ⟨0x3000, 0x3000⟩]

/-- A character that separates words. -/
def isBlank (c : Char) : Bool := inRanges blankRanges c.toNat

/-- The text without the blanks at its front. -/
def trimFront (s : List Char) : List Char := s.dropWhile isBlank

/-- The text without the blanks at its back. -/
def trimBack (s : List Char) : List Char := (s.reverse.dropWhile isBlank).reverse

/-- The text without the blanks at its two ends. -/
def trim (s : List Char) : List Char := trimBack (trimFront s)

/-- Adds one character in front of a list of words whose first word is still open. -/
def growWord (c : Char) : List (List Char) → List (List Char)
  | [] => [[c]]
  | w :: ws => (c :: w) :: ws

/-- The words of a text, read from its back: `open` says that the first word touches the place
that has been reached. -/
def fieldsFrom : List Char → List (List Char) × Bool
  | [] => ([], false)
  | c :: rest =>
    let (words, touches) := fieldsFrom rest
    if isBlank c then (words, false)
    else if touches then (growWord c words, true)
    else ([c] :: words, true)

/-- The maximal runs of characters that are not blank, in order. -/
def fields (s : List Char) : List (List Char) := (fieldsFrom s).1

end BundleAudit.Text

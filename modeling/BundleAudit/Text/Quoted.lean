import BundleAudit.Text.Printable

/-!
# Quoted text

A quoted text stands between apostrophes, or between double quotes if it holds an apostrophe and no
double quote. Inside, the quote and the backslash are escaped, and so is every character that is not
printable.
-/

namespace BundleAudit.Text

/-- A number in lower case hexadecimal digits, at least `width` of them. -/
def hexText (width n : Nat) : List Char :=
  let digits := Nat.toDigits 16 n
  List.replicate (width - digits.length) '0' ++ digits

/-- The written form of one character between the given quotes. -/
def quoteChar (quote c : Char) : List Char :=
  if c == quote || c == '\\' then ['\\', c]
  else if c == '\t' then ['\\', 't']
  else if c == '\n' then ['\\', 'n']
  else if c == '\r' then ['\\', 'r']
  else if isPrintable c then [c]
  else
    let code := c.toNat
    if code < 0x100 then '\\' :: 'x' :: hexText 2 code
    else if code < 0x10000 then '\\' :: 'u' :: hexText 4 code
    else '\\' :: 'U' :: hexText 8 code

/-- The quote that a text is written between. -/
def quoteFor (s : List Char) : Char := if s.contains '\'' && !s.contains '"' then '"' else '\''

/-- The quoted form of a text. -/
def quoted (s : List Char) : List Char :=
  let quote := quoteFor s
  quote :: (s.flatMap (quoteChar quote) ++ [quote])

/-- The quoted form of a text. -/
def quotedString (s : String) : String := String.ofList (quoted s.toList)

/-- The written form of one byte between the given quotes. -/
def quoteByte (quote : Char) (b : UInt8) : List Char :=
  let c := Char.ofNat b.toNat
  if c == quote || c == '\\' then ['\\', c]
  else if c == '\t' then ['\\', 't']
  else if c == '\n' then ['\\', 'n']
  else if c == '\r' then ['\\', 'r']
  else if 0x20 ≤ b && b < 0x7f then [c]
  else '\\' :: 'x' :: hexText 2 b.toNat

/-- The quoted form of a sequence of bytes, marked by a letter in front. -/
def quotedBytes (bytes : List UInt8) : List Char :=
  let quote := quoteFor (bytes.map fun b => Char.ofNat b.toNat)
  'b' :: quote :: (bytes.flatMap (quoteByte quote) ++ [quote])

end BundleAudit.Text

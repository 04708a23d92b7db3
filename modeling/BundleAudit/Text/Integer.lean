import BundleAudit.Text.Blank
import BundleAudit.Text.Digit

/-!
# Integers in text

A written integer is a sign, if any, and decimal digits of any script, among which single underscores
may stand. Blanks around it do not count, except for the separators in the control range. A number must
not have too many digits.
-/

namespace BundleAudit.Text

/-- A blank that may stand around a number. -/
def isNumberPadding (c : Char) : Bool := isBlank c && !('\x1c' ≤ c && c ≤ '\x1f')

/-- The text without the blanks around it that a number may have. -/
def trimNumber (s : List Char) : List Char :=
  ((s.dropWhile isNumberPadding).reverse.dropWhile isNumberPadding).reverse

/-- The value of digits to which `value` stands in front, where an underscore must separate two digits. -/
def digitsFrom? (value : Nat) : List Char → Option Nat
  | [] => some value
  | '_' :: c :: rest => (digitValue? c).bind fun d => digitsFrom? (10 * value + d) rest
  | c :: rest => (digitValue? c).bind fun d => digitsFrom? (10 * value + d) rest

/-- The value of a nonempty sequence of digits with single underscores between them. -/
def natural? : List Char → Option Nat
  | [] => none
  | c :: rest => (digitValue? c).bind fun d => digitsFrom? d rest

/-- The sign in front of a number and the text behind it; says whether the sign is a minus. -/
def splitSign : List Char → Bool × List Char
  | '-' :: rest => (true, rest)
  | '+' :: rest => (false, rest)
  | s => (false, s)

/-- The greatest number of digits of a decimal integer. -/
def integerDigitLimit : Nat := 4300

/-- The value of a written integer. -/
def integer? (s : List Char) : Option Int :=
  let (negative, digits) := splitSign (trimNumber s)
  if digits.countP isDigit > integerDigitLimit then none
  else (natural? digits).map fun n => if negative then -(n : Int) else n

/-- The value of a digit in a base up to sixteen; decimal digits of any script count. -/
def baseDigit? (base : Nat) (c : Char) : Option Nat :=
  let value :=
    match digitValue? c with
    | some d => some d
    | none =>
      if 'a' ≤ c && c ≤ 'f' then some (c.toNat - 87)
      else if 'A' ≤ c && c ≤ 'F' then some (c.toNat - 55)
      else none
  value.filter (· < base)

/-- The letters that may mark a base in front of its digits, behind a zero. -/
def baseMarks (base : Nat) : List Char :=
  if base == 2 then ['b', 'B'] else if base == 8 then ['o', 'O']
  else if base == 16 then ['x', 'X'] else []

/-- The digits of a number without the mark of the base in front. -/
def dropBaseMark (base : Nat) : List Char → List Char
  | '0' :: c :: rest => if (baseMarks base).contains c then rest else '0' :: c :: rest
  | s => s

/-- The value of a number that is written in a base without underscores, with a sign and a mark of the
base if any. -/
def integerIn? (base : Nat) (s : List Char) : Option Int :=
  let (negative, rest) := splitSign (trimNumber s)
  let digits := dropBaseMark base rest
  if digits.isEmpty then none
  else
    (digits.mapM (baseDigit? base)).map fun ds =>
      let n : Nat := ds.foldl (fun n d => base * n + d) 0
      if negative then -(n : Int) else n

end BundleAudit.Text

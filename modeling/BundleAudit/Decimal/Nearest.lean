import BundleAudit.Decimal.Binary
import BundleAudit.Text.Integer

/-!
# The nearest binary number

The floating point number nearest to a quotient; a quotient halfway between two goes to the one with
the even mantissa. Written numbers are read in that way.
-/

namespace BundleAudit.Decimal

open BundleAudit.Text

/-- The exponent of the last binary place of the number nearest to a positive quotient: fifty-three
places are kept, and fewer below the least exponent. -/
def lastPlace (num den : Nat) : Int :=
  let estimate : Int := (num.log2 : Int) - den.log2 - 52
  let low := num * twoTo (-estimate).toNat
  let high := den * twoTo estimate.toNat * twoTo 52
  max (-1074) (if low < high then estimate - 1 else estimate)

/-- The number nearest to a quotient. -/
def nearest (negative : Bool) (num den : Nat) : Reading :=
  if num == 0 then .finite ⟨negative, 0, -1074⟩
  else
    let place := lastPlace num den
    let mantissa := roundDiv (num * twoTo (-place).toNat) (den * twoTo place.toNat) .toEven
    let (mantissa, place) := if mantissa == twoTo 53 then (twoTo 52, place + 1) else (mantissa, place)
    if place > 971 then .infinite negative else .finite ⟨negative, mantissa, place⟩

/-- The number nearest to `digits · 10 ^ scale`. Far outside the range of the format the digits do not
matter. -/
def ofScientific (negative : Bool) (digits : Nat) (scale : Int) : Reading :=
  let place := (Nat.toDigits 10 digits).length + scale
  if digits == 0 || place < -330 then .finite ⟨negative, 0, -1074⟩
  else if place > 310 then .infinite negative
  else nearest negative (digits * tenTo scale.toNat) (tenTo (-scale).toNat)

/-- The sixty-four bits of a number. -/
def Reading.bits : Reading → Nat
  | .notNumber => 2047 * twoTo 52 + twoTo 51
  | .infinite negative => (if negative then twoTo 63 else 0) + 2047 * twoTo 52
  | .finite d =>
    (if d.negative then twoTo 63 else 0) +
      (if d.mantissa < twoTo 52 then d.mantissa
        else (d.exponent + 1075).toNat * twoTo 52 + (d.mantissa - twoTo 52))

def Reading.toFloat (r : Reading) : Float := Float.ofBits (UInt64.ofNat r.bits)

/-- The digits at the front of a text, and what stands behind them. -/
def spanDigits (s : List Char) : List Nat × List Char :=
  (((s.takeWhile isDigit).filterMap digitValue?), s.dropWhile isDigit)

def digitsValue (ds : List Nat) : Nat := ds.foldl (fun n d => 10 * n + d) 0

/-- The exponent at the end of a number; zero if there is none. -/
def exponent? : List Char → Option Int
  | [] => some 0
  | c :: rest =>
    if c == 'e' || c == 'E' then
      let (negative, rest) := splitSign rest
      match spanDigits rest with
      | (d :: ds, []) =>
        let n : Int := digitsValue (d :: ds)
        some (if negative then -n else n)
      | _ => none
    else none

/-- The value of a written number, behind its sign. -/
def magnitude? (negative : Bool) (s : List Char) : Option Reading :=
  let (whole, rest) := spanDigits s
  let (fraction, rest) := match rest with
    | '.' :: rest => spanDigits rest
    | _ => ([], rest)
  if whole.isEmpty && fraction.isEmpty then none
  else
    (exponent? rest).map fun e =>
      ofScientific negative (digitsValue (whole ++ fraction)) (e - fraction.length)

/-- The value of a number in lower case: digits with a point and an exponent, infinity, or no number.
Blanks may stand around it. -/
def ofText? (s : List Char) : Option Reading :=
  let (negative, rest) := splitSign (trimNumber s)
  if rest == "inf".toList || rest == "infinity".toList then some (.infinite negative)
  else if rest == "nan".toList then some .notNumber
  else magnitude? negative rest

end BundleAudit.Decimal

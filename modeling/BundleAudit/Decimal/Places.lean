import BundleAudit.Decimal.Binary

/-!
# A fixed number of decimal places

Rounding is exact on the binary value, and a half goes to the even neighbour.
-/

namespace BundleAudit.Decimal

/-- The text of `n / 10 ^ places`. -/
def placesText (places n : Nat) : List Char :=
  let digits := Nat.toDigits 10 n
  let padded := List.replicate (places + 1 - digits.length) '0' ++ digits
  padded.take (padded.length - places) ++ '.' :: padded.drop (padded.length - places)

/-- The text of a number with a fixed number of places, at least one. -/
def fixedText (places : Nat) (x : Float) : List Char :=
  match read x with
  | .notNumber => "nan".toList
  | .infinite negative => if negative then "-inf".toList else "inf".toList
  | .finite d =>
    let magnitude := placesText places (d.scaled places .toEven)
    if d.negative then '-' :: magnitude else magnitude

/-- The number nearest to the given one among those with a number of places. -/
def roundTo (places : Nat) (x : Float) : Float :=
  match read x with
  | .finite d =>
    let magnitude := Float.ofScientific (d.scaled places .toEven) true places
    if d.negative then -magnitude else magnitude
  | _ => x

end BundleAudit.Decimal

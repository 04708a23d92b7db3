import BundleAudit.Decimal.Binary

/-!
# The shortest decimal

The decimal with the fewest digits that lies in the interval of the numbers that round to a given
binary number, and of those with that many digits the one nearest to it; of two equally near ones the
even one. Its text is positional while the point stands near the digits, and has an exponent otherwise.
-/

namespace BundleAudit.Decimal

/-- The number `digits · 10 ^ scale`. -/
structure Scientific where
  digits : Nat
  scale : Int
deriving DecidableEq, Repr

/-- The two sides of a comparison between `x · 10 ^ k` and `y · 2 ^ j`, as whole numbers. -/
def crossed (x : Nat) (k : Int) (y : Nat) (j : Int) : Nat × Nat :=
  (x * tenTo k.toNat * twoTo (-j).toNat, y * twoTo j.toNat * tenTo (-k).toNat)

/-- The number of decimal digits of a whole number. -/
def digitCount (n : Nat) : Nat := (Nat.toDigits 10 n).length

/-- The number of zeros between the point and the first digit of `num / den < 1`. -/
def leadingZeros (num den : Nat) : Nat → Nat
  | 0 => 0
  | fuel + 1 => if den ≤ 10 * num then 0 else leadingZeros (10 * num) den fuel + 1

/-- The place of the point: the power of ten just above a positive binary magnitude. -/
def Binary.pointPlace (d : Binary) : Int :=
  let num := d.mantissa * twoTo d.exponent.toNat
  let den := twoTo (-d.exponent).toNat
  if den ≤ num then digitCount (num / den) else -(leadingZeros num den 400 : Int)

/-- Whether a decimal rounds to a binary number: in quarters of the last binary place it lies at most
two above it and two below it, or one below it at a power of two, and an end counts for an even
mantissa. -/
def Scientific.roundsTo (c : Scientific) (d : Binary) : Bool :=
  let below := if d.mantissa == twoTo 52 && d.exponent != -1074 then 1 else 2
  let (x, low) := crossed c.digits c.scale (4 * d.mantissa - below) (d.exponent - 2)
  let (y, high) := crossed c.digits c.scale (4 * d.mantissa + 2) (d.exponent - 2)
  if d.mantissa % 2 == 0 then low ≤ x && y ≤ high else low < x && y < high

/-- The decimal with `n` digits nearest to a binary number, if it or its neighbour on the other side
rounds to that number. A tie goes to the even one. -/
def nearestWith (d : Binary) (place : Int) (n : Nat) : Option Scientific :=
  let scale := place - n
  let (unit, value) := crossed 1 scale d.mantissa d.exponent
  let low : Scientific := ⟨value / unit, scale⟩
  let high : Scientific := ⟨value / unit + 1, scale⟩
  let isLow := low.digits == roundDiv value unit .toEven
  let (nearer, other) := if isLow then (low, high) else (high, low)
  if nearer.roundsTo d then some nearer else if other.roundsTo d then some other else none

/-- The first hit among the decimals with `n`, `n + 1`, … digits. -/
def shortestFrom (d : Binary) (place : Int) (n : Nat) : Nat → Scientific
  | 0 => ⟨0, 0⟩
  | fuel + 1 =>
    match nearestWith d place n with
    | some c => c
    | none => shortestFrom d place (n + 1) fuel

/-- The shortest decimal of a positive binary magnitude; seventeen digits are always enough. -/
def shortest (d : Binary) : Scientific := shortestFrom d d.pointPlace 1 17

/-- The digits of a decimal without the zeros at their end, and the place of the point counted from
their front. -/
def Scientific.significant (c : Scientific) : List Char × Int :=
  let all := Nat.toDigits 10 c.digits
  ((all.reverse.dropWhile (· == '0')).reverse, all.length + c.scale)

/-- An exponent with its sign and at least two digits. -/
def exponentText (e : Int) : List Char :=
  let digits := Nat.toDigits 10 e.natAbs
  (if e < 0 then '-' else '+') :: (if digits.length < 2 then '0' :: digits else digits)

/-- The digits with the point at a place; positional from four places in front of them to sixteen
behind their start, and with at least one digit on both sides of the point. -/
def placePoint (digits : List Char) (place : Int) : List Char :=
  if -3 ≤ place && place ≤ 16 then
    if place ≤ 0 then '0' :: '.' :: (List.replicate (-place).toNat '0' ++ digits)
    else
      let whole := digits.take place.toNat
      let fraction := digits.drop place.toNat
      whole ++ List.replicate (place.toNat - digits.length) '0' ++ '.' ::
        (if fraction.isEmpty then ['0'] else fraction)
  else
    let fraction := digits.drop 1
    digits.take 1 ++ (if fraction.isEmpty then [] else '.' :: fraction) ++ 'e' ::
      exponentText (place - 1)

/-- The text of a finite number. -/
def Binary.text (d : Binary) : List Char :=
  let magnitude :=
    if d.mantissa == 0 then ['0', '.', '0']
    else
      let (digits, place) := (shortest d).significant
      placePoint digits place
  if d.negative then '-' :: magnitude else magnitude

end BundleAudit.Decimal

/-!
# Binary numbers

A floating point number is a whole number times a power of two, an infinity, or no number. All
decimal texts are computed from that form in exact arithmetic.
-/

namespace BundleAudit.Decimal

/-- The weight of a binary place. -/
def twoTo (n : Nat) : Nat := Nat.pow 2 n

/-- The weight of a decimal place. -/
def tenTo (n : Nat) : Nat := Nat.pow 10 n

/-- The number `mantissa · 2 ^ exponent`, with a sign that zero has too. -/
structure Binary where
  negative : Bool
  mantissa : Nat
  exponent : Int
deriving DecidableEq, Repr

/-- What a floating point number stands for. -/
inductive Reading
  | notNumber
  | infinite (negative : Bool)
  | finite (value : Binary)
deriving DecidableEq, Repr

def Reading.negated : Reading → Reading
  | .notNumber => .notNumber
  | .infinite negative => .infinite (!negative)
  | .finite d => .finite { d with negative := !d.negative }

/-- The number that the sixty-four bits of the format stand for. -/
def readBits (bits : Nat) : Reading :=
  let negative := bits / twoTo 63 == 1
  let power : Nat := bits / twoTo 52 % twoTo 11
  let fraction := bits % twoTo 52
  if power == 2047 then if fraction == 0 then .infinite negative else .notNumber
  else if power == 0 then .finite ⟨negative, fraction, -1074⟩
  else .finite ⟨negative, twoTo 52 + fraction, (power : Int) - 1075⟩

def read (x : Float) : Reading := readBits x.toBits.toNat

/-- Which way a value goes that lies halfway between two whole numbers. -/
inductive Tie
  | toEven
  | awayFromZero
deriving DecidableEq, Repr

/-- The whole number nearest to a quotient. -/
def roundDiv (num den : Nat) (tie : Tie) : Nat :=
  let low := num / den
  let twice := 2 * (num % den)
  if twice < den then low
  else if den < twice then low + 1
  else
    match tie with
    | .toEven => if low % 2 == 0 then low else low + 1
    | .awayFromZero => low + 1

/-- The whole number nearest to `10 ^ places` times a binary magnitude. -/
def Binary.scaled (d : Binary) (places : Nat) (tie : Tie) : Nat :=
  match d.exponent with
  | .ofNat e => d.mantissa * twoTo e * tenTo places
  | .negSucc e => roundDiv (d.mantissa * tenTo places) (twoTo (e + 1)) tie

end BundleAudit.Decimal

import BundleAudit.Time.Calendar

/-!
# Time stamps

A stamp counts seconds from the start of 1970, in universal time. Its text has microseconds, which are
rounded with a half going to the even neighbour. Years run from 1 to 9999.
-/

namespace BundleAudit.Time

/-- Why a count of seconds has no text. -/
inductive StampError
  | notNumber
  | outOfCounter
  | outOfSystem
  | yearOutOfRange (year : Int)
deriving DecidableEq, Repr

/-- The whole number nearest to a float, a half going to the even neighbour. -/
def roundEven (x : Float) : Float :=
  let r := x.round
  if (x - r).abs == 0.5 then 2.0 * (x / 2.0).round else r

/-- Rounds toward zero. -/
def truncate (x : Float) : Float := if x < 0.0 then x.ceil else x.floor

/-- The whole seconds at or before a stamp, and the microseconds behind them. -/
def splitSeconds (stamp : Float) : Float × Float :=
  let whole := truncate stamp
  let micros := roundEven ((stamp - whole) * 1000000.0)
  if micros ≥ 1000000.0 then (whole + 1.0, micros - 1000000.0)
  else if micros < 0.0 then (whole - 1.0, micros + 1000000.0)
  else (whole, micros)

/-- A float that is a whole number, as one. -/
def wholeToInt (x : Float) : Int :=
  if x < 0.0 then -(((-x).toUInt64.toNat : Nat) : Int) else (x.toUInt64.toNat : Int)

/-- The text of a stamp in universal time. -/
def stampText (stamp : Float) : Except StampError String :=
  if stamp.isNaN then .error .notNumber
  else
    let (whole, micros) := splitSeconds stamp
    if whole < -9223372036854775808.0 || whole ≥ 9223372036854775808.0 then .error .outOfCounter
    else
      let seconds := wholeToInt whole
      let date := Date.ofDays (seconds / 86400)
      if date.year < -2147481748 || date.year > 2147485547 then .error .outOfSystem
      else if date.year < 1 || date.year > 9999 then .error (.yearOutOfRange date.year)
      else
        let clock := Clock.ofSeconds (seconds % 86400).toNat micros.toUInt64.toNat
        .ok s!"{date.text}T{clock.text}+00:00"

end BundleAudit.Time

import BundleAudit.Time.Calendar

/-!
# Dates with a time

A date with a time of day may say how far its clock is ahead of universal time. Each part has its range.
-/

namespace BundleAudit.Time

structure DateTime where
  date : Date
  clock : Clock
  /-- Seconds by which the clock is ahead of universal time. -/
  offset : Option Int := none
deriving DecidableEq, Repr

/-- Which part of a date with a time is out of range. -/
inductive RangeError
  | year (value : Int)
  | month
  | day
  | hour
  | minute
  | second
  | offset (seconds : Int)
deriving DecidableEq, Repr

/-- A span of time in full days and the seconds beyond them, in the words of a constructor. -/
def spanText (seconds : Int) : String :=
  let days := seconds / 86400
  let rest := seconds % 86400
  let parts := (if days == 0 then [] else [s!"days={days}"]) ++
    (if rest == 0 then [] else [s!"seconds={rest}"])
  let inside := if parts.isEmpty then "0" else ", ".intercalate parts
  s!"datetime.timedelta({inside})"

def RangeError.message : RangeError → String
  | .year value => s!"year {value} is out of range"
  | .month => "month must be in 1..12"
  | .day => "day is out of range for month"
  | .hour => "hour must be in 0..23"
  | .minute => "minute must be in 0..59"
  | .second => "second must be in 0..59"
  | .offset seconds =>
    let span := spanText seconds
    s!"offset must be a timedelta strictly between -timedelta(hours=24) and timedelta(hours=24), not {span}."

def Date.check (d : Date) : Except RangeError Date :=
  if d.year < 1 || d.year > 9999 then .error (.year d.year)
  else if d.month < 1 || d.month > 12 then .error .month
  else if d.day < 1 || d.day > daysInMonth d.year d.month then .error .day
  else .ok d

def Clock.check (c : Clock) : Except RangeError Clock :=
  if c.hour > 23 then .error .hour
  else if c.minute > 59 then .error .minute
  else if c.second > 59 then .error .second
  else .ok c

/-- An offset is less than a day. -/
def checkOffset (seconds : Int) : Except RangeError Int :=
  if seconds.natAbs < 86400 then .ok seconds else .error (.offset seconds)

namespace DateTime

/-- Microseconds from the start of 1970 on the clock itself. -/
def localMicroseconds (d : DateTime) : Int :=
  let c := d.clock
  (d.date.toDays * 86400 + (c.hour * 3600 + c.minute * 60 + c.second : Nat)) * 1000000 + c.microsecond

/-- Microseconds from the start of 1970 in universal time, if the offset is known. -/
def instant? (d : DateTime) : Option Int :=
  d.offset.map fun seconds => d.localMicroseconds - seconds * 1000000

def offsetText (seconds : Int) : String :=
  let minutes := seconds.natAbs / 60
  let sign := if seconds < 0 then "-" else "+"
  s!"{sign}{padded 2 (minutes / 60)}:{padded 2 (minutes % 60)}"

def text (d : DateTime) : String :=
  s!"{d.date.text} {d.clock.text}{(d.offset.map offsetText).getD default}"

/-- The numbers of a time of day as arguments: hours and minutes, and as much of the rest as there is. -/
def clockArguments (c : Clock) : List Nat :=
  [c.hour, c.minute] ++ (if c.second == 0 && c.microsecond == 0 then [] else [c.second]) ++
    (if c.microsecond == 0 then [] else [c.microsecond])

def zoneText (seconds : Int) : String :=
  if seconds == 0 then "datetime.timezone.utc" else s!"datetime.timezone({spanText seconds})"

def dateArguments (d : Date) : List String := [toString d.year, toString d.month, toString d.day]

/-- The words of a constructor that gives this value. -/
def written (d : DateTime) : String :=
  let arguments := dateArguments d.date ++ (clockArguments d.clock).map toString ++
    (d.offset.map fun seconds => s!"tzinfo={zoneText seconds}").toList
  let inside := ", ".intercalate arguments
  s!"datetime.datetime({inside})"

end DateTime

/-- The words of a constructor that gives this date. -/
def Date.written (d : Date) : String :=
  let inside := ", ".intercalate (DateTime.dateArguments d)
  s!"datetime.date({inside})"

end BundleAudit.Time

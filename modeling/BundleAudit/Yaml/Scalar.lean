import BundleAudit.Decimal.Nearest
import BundleAudit.Decimal.Shortest
import BundleAudit.Text.LetterCase
import BundleAudit.Text.Quoted
import BundleAudit.Time.DateTime
import BundleAudit.Yaml.Token

/-!
# Scalars

The values that single texts stand for under the standard tags: truth values, whole numbers in several
bases, floating point numbers, bytes, dates and texts.
-/

namespace BundleAudit.Yaml

open BundleAudit.Text BundleAudit.Time BundleAudit.Decimal

inductive Scalar
  | null
  | bool (b : Bool)
  | int (n : Int)
  | float (x : Reading)
  | str (s : List Char)
  | bytes (bs : List UInt8)
  | date (d : Date)
  | dateTime (d : DateTime)
deriving DecidableEq, Repr

/-- Why a document has no value. -/
inductive LoadError
  | malformed
  | noSuchCodePoint (code : Nat)
  /-- A text under the tag of truth values that is none. -/
  | notBool
  /-- A number without digits. -/
  | emptyNumber
  | notInteger (base : Nat) (text : List Char)
  | tooManyDigits (count : Nat)
  | notFloat (text : List Char)
  | tooLarge
  | notTimestamp
  /-- A date that is written as a mapping. -/
  | dateInMapping
  | outOfRange (e : RangeError)
  /-- A scalar that refers to itself for its text. -/
  | endless
deriving DecidableEq, Repr

/-- The message of an error that concerns a value rather than the form of the document. -/
def LoadError.message? : LoadError → Option String
  | .noSuchCodePoint code =>
    if code < 0x80000000 then some "chr() arg not in range(0x110000)" else none
  | .notInteger base text =>
    let shown := String.ofList ((quoted text).take 200)
    some s!"invalid literal for int() with base {base}: {shown}"
  | .tooManyDigits count =>
    some s!"Exceeds the limit ({integerDigitLimit} digits) for integer string conversion: value has {count} digits; use sys.set_int_max_str_digits() to increase the limit"
  | .notFloat text =>
    let shown := String.ofList (quoted text)
    some s!"could not convert string to float: {shown}"
  | .outOfRange e => some e.message
  | _ => none

namespace Scalar

def ofBoolText (s : List Char) : Except LoadError Scalar :=
  let word := String.ofList (lower s)
  if word == "yes" || word == "true" || word == "on" then .ok (.bool true)
  else if word == "no" || word == "false" || word == "off" then .ok (.bool false)
  else .error .notBool

/-! ## Numbers -/

/-- A whole number in a base. -/
def readInteger (base : Nat) (s : List Char) : Except LoadError Int :=
  match integerIn? base s with
  | none => .error (.notInteger base s)
  | some n =>
    let count := s.countP isDigit
    if base == 10 && count > integerDigitLimit then .error (.tooManyDigits count) else .ok n

/-- The texts between the colons of a text. -/
def splitColons : List Char → List (List Char)
  | [] => [[]]
  | c :: rest =>
    if c == ':' then [] :: splitColons rest
    else
      match splitColons rest with
      | [] => [[c]]
      | part :: parts => (c :: part) :: parts

/-- The absolute value of a number that is written without underscores and without its sign. -/
def readMagnitude (s : List Char) : Except LoadError Int :=
  match s with
  | [] => .error .emptyNumber
  | ['0'] => .ok 0
  | '0' :: 'b' :: digits => readInteger 2 digits
  | '0' :: 'x' :: digits => readInteger 16 digits
  | '0' :: _ => readInteger 8 s
  | _ =>
    if s.contains ':' then do
      let parts ← (splitColons s).mapM (readInteger 10)
      return parts.foldl (fun n part => 60 * n + part) 0
    else readInteger 10 s

def ofIntText (s : List Char) : Except LoadError Scalar :=
  match s.filter (· != '_') with
  | [] => .error .emptyNumber
  | digits =>
    let (negative, digits) := splitSign digits
    (readMagnitude digits).map fun n => .int (if negative then -n else n)

def readFloat (s : List Char) : Except LoadError Reading :=
  match Decimal.ofText? s with
  | some x => .ok x
  | none => .error (.notFloat s)

/-- The sum of the parts of a number in base sixty, the last of which is the units, added up from the
units. -/
def sumSixties : List Reading → Nat → Float → Except LoadError Float
  | [], _, sum => .ok sum
  | part :: parts, unit, sum =>
    match nearest false unit 1 with
    | .finite d => sumSixties parts (60 * unit) (sum + part.toFloat * (Reading.finite d).toFloat)
    | _ => .error .tooLarge

def ofFloatText (s : List Char) : Except LoadError Scalar :=
  match lower (s.filter (· != '_')) with
  | [] => .error .emptyNumber
  | digits => do
    let (negative, digits) := splitSign digits
    let magnitude ←
      if digits == ".inf".toList then pure (.infinite false)
      else if digits == ".nan".toList then pure .notNumber
      else if digits.contains ':' then do
        let parts ← (splitColons digits).mapM readFloat
        pure (Decimal.read (← sumSixties parts.reverse 1 0.0))
      else readFloat digits
    return .float (if negative then magnitude.negated else magnitude)

/-! ## Bytes -/

def sextet? (c : Char) : Option Nat :=
  if 'A' ≤ c && c ≤ 'Z' then some (c.toNat - 65)
  else if 'a' ≤ c && c ≤ 'z' then some (c.toNat - 71)
  else if '0' ≤ c && c ≤ '9' then some (c.toNat + 4)
  else if c == '+' then some 62
  else if c == '/' then some 63
  else none

/-- Reads groups of four characters as three bytes. Other characters do not count; equality signs that
complete a group end the text. `filled` counts the characters of the open group, whose last bits are
`left`, and `pads` the equality signs behind it. -/
def decodeSextets (filled left pads : Nat) : List Char → Except LoadError (List UInt8)
  | [] => if filled == 0 then .ok [] else .error .malformed
  | c :: rest =>
    if c == '=' then
      if filled ≥ 2 then
        if filled + pads + 1 ≥ 4 then .ok [] else decodeSextets filled left (pads + 1) rest
      else decodeSextets filled left pads rest
    else
      match sextet? c with
      | none => decodeSextets filled left pads rest
      | some d =>
        if filled == 0 then decodeSextets 1 d 0 rest
        else if filled == 1 then
          (decodeSextets 2 (d % 16) 0 rest).map (UInt8.ofNat (left * 4 + d / 16) :: ·)
        else if filled == 2 then
          (decodeSextets 3 (d % 4) 0 rest).map (UInt8.ofNat (left * 16 + d / 4) :: ·)
        else (decodeSextets 0 0 0 rest).map (UInt8.ofNat (left * 64 + d) :: ·)

def ofBinaryText (s : List Char) : Except LoadError Scalar :=
  if s.all (·.toNat < 0x80) then (decodeSextets 0 0 0 s).map .bytes else .error .malformed

/-! ## Dates -/

/-- A number of `least` to `most` digits at the front of a text. -/
def takeNumber? (least most : Nat) (s : List Char) : Option (Nat × List Char) :=
  let digits := (s.take most).takeWhile Char.isDigit
  if digits.length < least then none
  else some (digits.foldl (fun n c => 10 * n + (c.toNat - 48)) 0, s.drop digits.length)

def takeChar? (c : Char) : List Char → Option (List Char)
  | [] => none
  | d :: rest => if c == d then some rest else none

def dropBlanks (s : List Char) : List Char := s.dropWhile fun c => c == ' ' || c == '\t'

/-- Whether nothing but a line end is left. -/
def isDone (s : List Char) : Bool := s.isEmpty || s == ['\n']

/-- The microseconds of a fraction of a second, from its first six digits. -/
def microseconds (digits : List Char) : Nat :=
  let six := digits.take 6
  (six ++ List.replicate (6 - six.length) '0').foldl (fun n c => 10 * n + (c.toNat - 48)) 0

/-- The offset at the end of a text, in seconds, which may be missing. -/
def offset? (s : List Char) : Option (Option Int) :=
  if isDone s then some none
  else
    match dropBlanks s with
    | 'Z' :: rest => if isDone rest then some (some 0) else none
    | c :: rest =>
      if c == '+' || c == '-' then do
        let (hours, rest) ← takeNumber? 1 2 rest
        let (minutes, rest) ←
          match rest with
          | ':' :: rest => takeNumber? 2 2 rest
          | _ => some (0, rest)
        let seconds : Int := hours * 3600 + minutes * 60
        if isDone rest then some (some (if c == '-' then -seconds else seconds)) else none
      else none
    | [] => none

/-- The date in front of a text. -/
def takeDate? (s : List Char) : Option (Date × List Char) := do
  let (year, s) ← takeNumber? 4 4 s
  let (month, s) ← takeNumber? 1 2 (← takeChar? '-' s)
  let (day, s) ← takeNumber? 1 2 (← takeChar? '-' s)
  return (⟨year, month, day⟩, s)

/-- What stands between a date and its time: a letter or blanks. -/
def takeTimeMark? : List Char → Option (List Char)
  | [] => none
  | c :: rest =>
    if c == 'T' || c == 't' then some rest
    else if c == ' ' || c == '\t' then some (dropBlanks rest)
    else none

def takeClock? (s : List Char) : Option (Clock × List Char) := do
  let (hour, s) ← takeNumber? 1 2 s
  let (minute, s) ← takeNumber? 2 2 (← takeChar? ':' s)
  let (second, s) ← takeNumber? 2 2 (← takeChar? ':' s)
  match s with
  | '.' :: s =>
    return (⟨hour, minute, second, microseconds (s.takeWhile Char.isDigit)⟩,
      s.dropWhile Char.isDigit)
  | _ => return (⟨hour, minute, second, 0⟩, s)

/-- The parts of a date with a time, whether in range or not. -/
def dateTime? (s : List Char) : Option DateTime := do
  let (day, s) ← takeDate? s
  let (clock, s) ← takeClock? (← takeTimeMark? s)
  let offset ← offset? s
  return ⟨day, clock, offset⟩

def date? (s : List Char) : Option Date := do
  let (day, s) ← takeDate? s
  if isDone s then some day else none

def checkDateTime (d : DateTime) : Except RangeError DateTime := do
  let offset ← d.offset.mapM checkOffset
  return ⟨← d.date.check, ← d.clock.check, offset⟩

def ofTimestampText (s : List Char) : Except LoadError Scalar :=
  match date? s, dateTime? s with
  | some d, _ => (d.check.map .date).mapError .outOfRange
  | none, some d => ((checkDateTime d).map .dateTime).mapError .outOfRange
  | none, none => .error .notTimestamp

/-! ## Identity -/

/-- What two scalars share if they are the same key. -/
inductive Key
  | null
  | number (x : Reading)
  | str (s : List Char)
  | bytes (bs : List UInt8)
  | date (d : Date)
  | dateTime (date : Date) (clock : Clock)
  | instant (microseconds : Int)
deriving DecidableEq, Repr

/-- The mantissa without its factors of two, and their number added to the exponent. -/
def reduced : Nat → Nat → Int → Nat × Int
  | 0, m, e => (m, e)
  | fuel + 1, m, e => if m % 2 == 0 then reduced fuel (m / 2) (e + 1) else (m, e)

/-- The same number in its only form without factors of two in the mantissa. -/
def normalized (d : Binary) : Binary :=
  if d.mantissa == 0 then ⟨false, 0, 0⟩
  else
    let (m, e) := reduced (d.mantissa.log2 + 1) d.mantissa d.exponent
    ⟨d.negative, m, e⟩

def integerKey (n : Int) : Key := .number (.finite (normalized ⟨n < 0, n.natAbs, 0⟩))

/-- Truth values count as one and zero, and numbers are the same if they are equal. -/
def key : Scalar → Key
  | .null => .null
  | .bool b => integerKey (if b then 1 else 0)
  | .int n => integerKey n
  | .float (.finite d) => .number (.finite (normalized d))
  | .float x => .number x
  | .str s => .str s
  | .bytes bs => .bytes bs
  | .date d => .date d
  | .dateTime d =>
    match d.instant? with
    | some n => .instant n
    | none => .dateTime d.date d.clock

/-! ## Text -/

def floatText : Reading → List Char
  | .notNumber => "nan".toList
  | .infinite negative => if negative then "-inf".toList else "inf".toList
  | .finite d => d.text

/-- The written form of a scalar inside a collection. -/
def written : Scalar → List Char
  | .null => "None".toList
  | .bool b => if b then "True".toList else "False".toList
  | .int n => (toString n).toList
  | .float x => floatText x
  | .str s => quoted s
  | .bytes bs => quotedBytes bs
  | .date d => d.written.toList
  | .dateTime d => d.written.toList

/-- The text of a scalar that stands alone. -/
def text : Scalar → List Char
  | .str s => s
  | .date d => d.text.toList
  | .dateTime d => d.text.toList
  | s => s.written

end Scalar

end BundleAudit.Yaml

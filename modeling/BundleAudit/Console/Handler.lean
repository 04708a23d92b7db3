import BundleAudit.Text.Integer
import BundleAudit.Text.LetterCase
import BundleAudit.Text.Utf8
import BundleAudit.Text.Word

/-!
# Handlers

A tag that starts with an at sign names a handler, with parameters behind an equality sign. These are written as a
value: a number, a text, one of a few names, or several values between parentheses or braces. A call leaves the
name in front of its parentheses out. Nothing is shown of them; the only question is whether they stand for a
value (`Handler.isValue`).
-/

namespace BundleAudit.Console.Handler

open BundleAudit.Text

/-- What matters of a value where it stands among others. -/
inductive Value
  /-- An integer or a fraction without a sign. -/
  | real
  | imaginary
  /-- An integer or a fraction with a sign. -/
  | signed
  /-- Any other value that can be a key. -/
  | key
  /-- A collection that cannot be a key, or a value with such a part. -/
  | collection
deriving DecidableEq, Repr

/-! ## Blanks -/

/-- Leaves out blanks and broken lines; within brackets also line ends, and comments up to them. -/
def skip (nested : Bool) : (comment : Bool) → List Char → List Char
  | _, [] => []
  | true, c :: rest => skip nested (c != '\n') rest
  | false, '\\' :: '\n' :: rest => skip nested false rest
  | false, c :: rest =>
    if c == ' ' || c == '\t' || c == '\x0c' || (nested && c == '\n') then skip nested false rest
    else if nested && c == '#' then skip nested true rest
    else c :: rest

/-- The text behind the lines at its front in which nothing is written, if the next one is not indented. -/
def unindented? : (indented comment : Bool) → List Char → Option (List Char)
  | _, _, [] => some []
  | indented, true, c :: rest =>
    if c == '\n' then unindented? false false rest else unindented? indented true rest
  | indented, false, '\\' :: '\n' :: rest => unindented? indented false rest
  | indented, false, c :: rest =>
    if c == '\n' || c == '\x0c' then unindented? false false rest
    else if c == ' ' || c == '\t' then unindented? true false rest
    else if c == '#' then unindented? indented true rest
    else if indented then none
    else some (c :: rest)

/-! ## Numbers -/

/-- The text behind digits, in front of each of which an underscore may stand. -/
def behindDigits (isDigit : Char → Bool) : List Char → List Char
  | [] => []
  | '_' :: c :: rest => if isDigit c then behindDigits isDigit rest else '_' :: c :: rest
  | c :: rest => if isDigit c then behindDigits isDigit rest else c :: rest

def isDecimal (c : Char) : Bool := '0' ≤ c && c ≤ '9'

def isHexadecimal (c : Char) : Bool := isDecimal c || ('a' ≤ c && c ≤ 'f') || ('A' ≤ c && c ≤ 'F')

def startsNumber (s : List Char) : Bool := s.head?.any isDecimal

/-- The text behind the fraction at its front, if any. -/
def behindFraction : List Char → List Char
  | '.' :: rest => if startsNumber rest then behindDigits isDecimal rest else rest
  | s => s

/-- The text behind the exponent at its front, if any. -/
def behindExponent (s : List Char) : List Char :=
  match s with
  | [] => []
  | e :: rest =>
    let digits := match rest with
      | '+' :: more | '-' :: more => more
      | _ => rest
    if (e == 'e' || e == 'E') && startsNumber digits then behindDigits isDecimal digits else s

/-- A number with a point, an exponent, or neither, at the front of a text. -/
def decimal? (s : List Char) : Option (Value × List Char) :=
  let whole := if startsNumber s then behindDigits isDecimal s else s
  let fraction := behindFraction whole
  let rest := behindExponent fraction
  let digits := s.take (s.length - whole.length)
  if digits.isEmpty && !startsNumber (whole.drop 1) then none
  else
    match rest with
    | 'j' :: more | 'J' :: more => some (.imaginary, more)
    | _ =>
      if rest.length < whole.length then some (.real, rest)
      else if (digits.head? == some '0' && digits.any fun c => c != '0' && c != '_') ||
        digits.countP isDecimal > integerDigitLimit then none
      else some (.real, rest)

/-- A number at the front of a text. -/
def number? (s : List Char) : Option (Value × List Char) :=
  let inBase (isDigit : Char → Bool) (digits : List Char) : Option (Value × List Char) :=
    let rest := behindDigits isDigit digits
    if rest.length < digits.length then some (.real, rest) else none
  match s with
  | '0' :: 'x' :: digits | '0' :: 'X' :: digits => inBase isHexadecimal digits
  | '0' :: 'o' :: digits | '0' :: 'O' :: digits => inBase (fun c => '0' ≤ c && c ≤ '7') digits
  | '0' :: 'b' :: digits | '0' :: 'B' :: digits => inBase (fun c => c == '0' || c == '1') digits
  | _ => if startsNumber s || s.head? == some '.' then decimal? s else none

/-! ## Texts -/

/-- What stands in front of the closing quotes, and what behind them. -/
def closeText (quote : Char) (triple : Bool) : List Char → Option (List Char × List Char)
  | [] => none
  | '\\' :: c :: rest =>
    (closeText quote triple rest).map fun (inside, after) => ('\\' :: c :: inside, after)
  | c :: rest =>
    if triple then
      if [quote, quote, quote].isPrefixOf (c :: rest) then some ([], rest.drop 2)
      else (closeText quote triple rest).map fun (inside, after) => (c :: inside, after)
    else if c == quote then some ([], rest)
    else if c == '\n' then none
    else (closeText quote triple rest).map fun (inside, after) => (c :: inside, after)

/-- The characters behind backslashes are such as may stand there. A name in braces is taken for that of a
character. -/
def escapesHold (bytes : Bool) : List Char → Bool
  | [] => true
  | '\\' :: c :: rest =>
    let code (width : Nat) : Bool := (rest.take width).length == width && (rest.take width).all isHexadecimal
    (match c with
      | 'x' => code 2
      | 'u' => bytes || code 4
      | 'U' => bytes || (code 8 && ((integerIn? 16 (rest.take 8)).any (· ≤ 0x10ffff)))
      | 'N' => bytes || (rest.head? == some '\x7b' && ((rest.drop 1).takeWhile (· != '\x7d')).length > 0 &&
          rest.contains '\x7d')
      | _ => true) && escapesHold bytes rest
  | _ :: rest => escapesHold bytes rest

/-- A text in quotes at the front of a text; says whether it stands for bytes. -/
def text? (s : List Char) : Option (Bool × List Char) :=
  let mark := lower (s.takeWhile Char.isAlpha)
  let bytes := mark.contains 'b'
  match s.dropWhile Char.isAlpha with
  | quote :: body =>
    if ["", "r", "u", "b", "br", "rb"].contains (String.ofList mark) && (quote == '"' || quote == '\'') then
      let triple := [quote, quote].isPrefixOf body
      (closeText quote triple (if triple then body.drop 2 else body)).bind fun (inside, after) =>
        if (mark.contains 'r' || escapesHold bytes inside) && (!bytes || inside.all (·.toNat < 0x80)) then
          some (bytes, after)
        else none
    else none
  | [] => none

/-- One or several texts at the front of a text, either all of characters or all of bytes. -/
def texts? (nested : Bool) : Nat → List Char → Option (Bool × List Char)
  | 0, _ => none
  | fuel + 1, s =>
    (text? s).bind fun (bytes, after) =>
      match texts? nested fuel (skip nested false after) with
      | none => if (text? (skip nested false after)).isNone then some (bytes, after) else none
      | some (bytes', after') => if bytes == bytes' then some (bytes, after') else none

/-! ## Values -/

/-- A name at the front of a text. The name of a set stands for the empty one if nothing is in its parentheses. -/
def name? (nested : Bool) (s : List Char) : Option (Value × List Char) :=
  let rest := s.dropWhile isWordChar
  let word := String.ofList (s.takeWhile isWordChar)
  if ["True", "False", "None"].contains word then some (.key, rest)
  else if word == "set" then
    match skip nested false rest with
    | '(' :: inside =>
      match skip true false inside with
      | ')' :: after => some (.collection, after)
      | _ => none
    | _ => none
  else none

/-- The value of several values. -/
def together (values : List Value) : Value := if values.contains .collection then .collection else .key

mutual

/-- A value at the front of a text: one by itself, one with a sign, or the sum of a number and an imaginary one. -/
def value? (nested : Bool) : Nat → List Char → Option (Value × List Char)
  | 0, _ => none
  | fuel + 1, s => do
    let (first, rest) ← match s with
      | '+' :: more | '-' :: more =>
        match ← single? nested fuel (skip nested false more) with
        | (.real, rest) => some (.signed, rest)
        | (.imaginary, rest) => some (.key, rest)
        | _ => none
      | _ => single? nested fuel s
    match skip nested false rest with
    | '+' :: more | '-' :: more =>
      match first, ← single? nested fuel (skip nested false more) with
      | .real, (.imaginary, rest) | .signed, (.imaginary, rest) => some (.key, rest)
      | _, _ => none
    | _ => some (first, rest)

def single? (nested : Bool) : Nat → List Char → Option (Value × List Char)
  | 0, _ => none
  | fuel + 1, s =>
    match s with
    | '.' :: '.' :: '.' :: rest => some (.key, rest)
    | '(' :: rest => do
      let (values, several, after) ← values? ')' fuel (skip true false rest)
      match values, several with
      | [value], false => some (value, after)
      | _, _ => some (together values, after)
    | '\x7b' :: rest =>
      match skip true false rest with
      | '\x7d' :: after => some (.collection, after)
      | inside => do
        let (first, behind) ← value? true fuel inside
        match skip true false behind with
        | ':' :: _ => do
          let after ← pairs? fuel inside
          some (.collection, after)
        | _ => do
          let (values, _, after) ← values? '\x7d' fuel inside
          if first == .collection || values.contains .collection then none else some (.collection, after)
    | _ =>
      match texts? nested s.length s with
      | some (_, after) => some (.key, after)
      | none => (number? s).or (name? nested s)

/-- Values with commas between them and perhaps behind the last, up to a closing bracket; says whether there is a
comma. -/
def values? (close : Char) : Nat → List Char → Option (List Value × Bool × List Char)
  | 0, _ => none
  | fuel + 1, s =>
    if s.head? == some close then some ([], false, s.drop 1)
    else do
      let (value, rest) ← value? true fuel s
      match skip true false rest with
      | ',' :: more => do
        let (values, _, after) ← values? close fuel (skip true false more)
        some (value :: values, true, after)
      | c :: after => if c == close then some ([value], false, after) else none
      | [] => none

/-- Keys with their values, up to the closing brace. -/
def pairs? : Nat → List Char → Option (List Char)
  | 0, _ => none
  | fuel + 1, s =>
    if s.head? == some '\x7d' then some (s.drop 1)
    else do
      let (first, rest) ← value? true fuel s
      if first == .collection then none
      match skip true false rest with
      | ':' :: more => do
        let (_, rest) ← value? true fuel (skip true false more)
        match skip true false rest with
        | ',' :: more => pairs? fuel (skip true false more)
        | '\x7d' :: after => some after
        | _ => none
      | _ => none

end

/-- Values with commas between them and perhaps behind the last, up to the end of the text. -/
def areValues : Nat → List Char → Bool
  | 0, _ => false
  | fuel + 1, s =>
    match value? false (3 * s.length + 3) s with
    | none => false
    | some (_, rest) =>
      match skip false false rest with
      | ',' :: more =>
        let rest := skip false false more
        (skip true false rest).isEmpty || areValues fuel rest
      | rest => (skip true false rest).isEmpty

/-- Whether a text is a written value, or several of them. -/
def isWritten (s : List Char) : Bool :=
  !s.contains '\x00' && (unindented? false false (unifyLineEnds s)).any (areValues (s.length + 1))

/-- Whether the parameters of a handler stand for a value. In a call, only what its parentheses hold does. -/
def isValue (parameters : List Char) : Bool :=
  let s := trim parameters
  match s.dropWhile fun c => isWordChar c || c == '.' with
  | [] => true
  | '(' :: inside =>
    if inside.getLast? == some ')' && !inside.contains '\n' then isWritten ('(' :: inside) else isWritten s
  | _ => isWritten s

end BundleAudit.Console.Handler

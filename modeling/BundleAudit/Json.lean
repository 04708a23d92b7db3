import BundleAudit.Decimal.Shortest
import BundleAudit.Text.Quoted

/-!
# JSON documents

A document keeps the order of its fields. It is written in ASCII; a character outside the basic plane
is written as a pair of surrogates, and a floating point number as the shortest decimal that reads
back.
-/

namespace BundleAudit

/-- A document. -/
inductive Json
  | null
  | bool (b : Bool)
  | int (n : Int)
  | float (x : Float)
  | str (s : String)
  | arr (items : List Json)
  | obj (fields : List (String × Json))

namespace Json

open BundleAudit.Text (hexText)

private def unit (code : Nat) : List Char := '\\' :: 'u' :: hexText 4 code

/-- The written form of one character of a text. -/
def escapeChar (c : Char) : List Char :=
  if c == '"' then ['\\', '"']
  else if c == '\\' then ['\\', '\\']
  else if c == '\n' then ['\\', 'n']
  else if c == '\r' then ['\\', 'r']
  else if c == '\t' then ['\\', 't']
  else if c == '\x08' then ['\\', 'b']
  else if c == '\x0c' then ['\\', 'f']
  else
    let code := c.toNat
    if 0x20 ≤ code && code < 0x7f then [c]
    else if code < 0x10000 then unit code
    else unit (0xd800 + (code - 0x10000) / 0x400) ++ unit (0xdc00 + (code - 0x10000) % 0x400)

/-- A text between double quotes. -/
def stringText (s : String) : String :=
  String.ofList ('"' :: (s.toList.flatMap escapeChar ++ ['"']))

def floatText (x : Float) : String :=
  match Decimal.read x with
  | .notNumber => "NaN"
  | .infinite negative => if negative then "-Infinity" else "Infinity"
  | .finite d => String.ofList d.text

/-- How the parts of a list or an object are set apart: on one line, or one to a line with two blanks
for each level. -/
inductive Layout
  | oneLine
  | indented
deriving DecidableEq

private def newline (depth : Nat) : String := "\n" ++ "".pushn ' ' (2 * depth)

/-- What stands between two parts at a depth. -/
def Layout.separator (depth : Nat) : Layout → String
  | .oneLine => ", "
  | .indented => "," ++ newline depth

def Layout.opening (depth : Nat) : Layout → String
  | .oneLine => ""
  | .indented => newline depth

mutual

/-- The text of a document that stands at a depth. -/
def write (layout : Layout) (depth : Nat) : Json → String
  | .null => "null"
  | .bool b => if b then "true" else "false"
  | .int n => toString n
  | .float x => floatText x
  | .str s => stringText s
  | .arr [] => "[]"
  | .arr (item :: rest) =>
    "[" ++ layout.opening (depth + 1) ++ write layout (depth + 1) item ++
      writeItems layout (depth + 1) rest ++ layout.opening depth ++ "]"
  | .obj [] => "\x7b\x7d"
  | .obj ((name, value) :: rest) =>
    "\x7b" ++ layout.opening (depth + 1) ++ stringText name ++ ": " ++ write layout (depth + 1) value ++
      writeFields layout (depth + 1) rest ++ layout.opening depth ++ "\x7d"

def writeItems (layout : Layout) (depth : Nat) : List Json → String
  | [] => ""
  | item :: rest => layout.separator depth ++ write layout depth item ++ writeItems layout depth rest

def writeFields (layout : Layout) (depth : Nat) : List (String × Json) → String
  | [] => ""
  | (name, value) :: rest =>
    layout.separator depth ++ stringText name ++ ": " ++ write layout depth value ++
      writeFields layout depth rest

end

/-- The text of a document. -/
def text (layout : Layout) (document : Json) : String := document.write layout 0

end Json

end BundleAudit

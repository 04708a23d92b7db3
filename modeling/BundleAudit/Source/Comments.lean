import BundleAudit.Text.Blank

/-!
# Comments

`strip` removes the comments of a script and keeps everything else as it is. It reads the text from
left to right and tells code, comments and literals apart by the character at hand, the next one and
the last character kept that is no blank:

* `//` drops the rest of the line;
* `/* … */` is dropped, and each line end in it becomes one blank, so that the tokens around it stay
  apart;
* a quote opens a literal, and so does a slash where an operand may start; the same character closes
  it unless an odd run of backslashes stands before it.

A literal and a line comment end with their line at the latest.
-/

namespace BundleAudit.Source

open BundleAudit.Text

/-- The literals of a script. -/
inductive Literal
  | single
  | double
  | template
  | pattern
deriving DecidableEq, Repr

/-- The character that closes a literal. -/
def Literal.closer : Literal → Char
  | .single => '\''
  | .double => '"'
  | .template => '\x60'
  | .pattern => '/'

/-- The literal that a quote opens. -/
def Literal.ofQuote? : Char → Option Literal
  | '\'' => some .single
  | '"' => some .double
  | '\x60' => some .template
  | _ => none

/-- Where the reading of a script stands. -/
inductive Mode
  | code
  | lineComment
  | blockComment
  | literal (kind : Literal)
deriving DecidableEq, Repr

/-- The characters behind which a slash opens a pattern literal and does not divide. -/
def operandStarters : List Char := "=([\x7b:;!&|?+-*/%^~<>,".toList

/-- Whether a slash opens a pattern literal behind the last character kept that is no blank. -/
def patternMayStart : Option Char → Bool
  | none => true
  | some c => operandStarters.contains c

/-- Whether the number of backslashes at the front of a list is odd. -/
def oddBackslashes : List Char → Bool
  | '\\' :: rest => !oddBackslashes rest
  | _ => false

/-- Whether an odd run of backslashes ends just before an index of a text; absent for an index behind
the end. -/
def isEscaped? (text : List Char) (index : Int) : Option Bool :=
  if index > text.length then none else some (oddBackslashes (text.take index.toNat).reverse)

/-- The state of a reading: the mode, the last character kept that is no blank, the characters of the
line already read and the characters kept, both with the latest first. -/
structure Scan where
  mode : Mode := .code
  previous : Option Char := none
  line : List Char := []
  kept : List Char := []
deriving DecidableEq, Repr

namespace Scan

/-- Reads a character and drops it. -/
def drop (s : Scan) (c : Char) : Scan := { s with line := c :: s.line }

/-- Reads a character and keeps it. -/
def keep (s : Scan) (c : Char) : Scan where
  mode := s.mode
  previous := if isBlank c then s.previous else some c
  line := c :: s.line
  kept := c :: s.kept

/-- Reads a line end: a blank inside a block comment, and otherwise the start of a line of code. -/
def endLine (s : Scan) : Scan :=
  match s.mode with
  | .blockComment => { s with line := [], kept := ' ' :: s.kept }
  | _ => { s with mode := .code, line := [], kept := '\n' :: s.kept }

/-- The mode in which a character of code is kept. -/
def modeAfterCode (s : Scan) (c : Char) : Mode :=
  if c == '/' && patternMayStart s.previous then .literal .pattern
  else
    match Literal.ofQuote? c with
    | some kind => .literal kind
    | none => .code

/-- The mode in which a character of a literal is kept. -/
def modeAfterLiteral (s : Scan) (kind : Literal) (c : Char) : Mode :=
  if c == kind.closer && !oddBackslashes s.line then .code else .literal kind

/-- Reads two characters that open or close a comment, if they do. -/
def readPair? (s : Scan) (c d : Char) : Option Scan :=
  match s.mode, c, d with
  | .code, '/', '/' => some { s with mode := .lineComment, line := d :: c :: s.line }
  | .code, '/', '*' => some { s with mode := .blockComment, line := d :: c :: s.line }
  | .blockComment, '*', '/' => some { s with mode := .code, line := d :: c :: s.line }
  | _, _, _ => none

/-- Reads one character. -/
def read (s : Scan) (c : Char) : Scan :=
  if c == '\n' then s.endLine
  else
    match s.mode with
    | .lineComment | .blockComment => s.drop c
    | .code => { s with mode := s.modeAfterCode c }.keep c
    | .literal kind => { s with mode := s.modeAfterLiteral kind c }.keep c

/-- Reads a text. -/
def run : Scan → List Char → Scan
  | s, [] => s
  | s, [c] => s.read c
  | s, c :: d :: rest =>
    match s.readPair? c d with
    | some t => t.run rest
    | none => (s.read c).run (d :: rest)

end Scan

/-- The text without its comments. -/
def strip (text : List Char) : List Char := (({} : Scan).run text).kept.reverse

end BundleAudit.Source

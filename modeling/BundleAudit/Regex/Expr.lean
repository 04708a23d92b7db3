import BundleAudit.Regex.CharClass

/-!
# Regular expressions

The syntax tree of a regular expression whose modes have been resolved: every class knows its
folding and every anchor its kind. `Expr.literal` and the other builders put expressions together
from texts that are taken as they are, so no text can break the expression around it.
-/

namespace BundleAudit.Regex

/-- Which counts a repetition tries first, and whether it gives characters back. -/
inductive Greed
  | greedy
  | lazy
  | possessive
deriving DecidableEq, Repr

/-- Conditions on a place that consume nothing. `lastLineEnd` holds at the end of the text and before
a line end that ends it. -/
inductive Anchor
  | textStart
  | textEnd
  | lineStart
  | lineEnd
  | lastLineEnd
  | wordEdge (ascii : Bool)
  | wordInside (ascii : Bool)
deriving DecidableEq, Repr

/-- A regular expression. `run` repeats one character class and `loop` any expression; `most` is absent
where there is no limit. `look` asks for a match that starts here, or `behind` characters earlier. -/
inductive Expr
  | empty
  | one (cls : CharClass)
  | anchor (a : Anchor)
  | seq (first second : Expr)
  | alt (first second : Expr)
  | run (cls : CharClass) (least : Nat) (most : Option Nat) (greed : Greed)
  | loop (body : Expr) (least : Nat) (most : Option Nat) (greed : Greed)
  | group (index : Nat) (body : Expr)
  | atomic (body : Expr)
  | look (behind : Option Nat) (negated : Bool) (body : Expr)
  | backref (index : Nat) (folding : Folding)
  | ifGroup (index : Nat) (yes no : Expr)
deriving Repr

namespace Expr

/-- The expressions one after the other. -/
def sequence : List Expr → Expr
  | [] => .empty
  | [e] => e
  | e :: rest => .seq e (sequence rest)

/-- The first of the expressions that leads to a match. -/
def choice : List Expr → Expr
  | [] => .empty
  | [e] => e
  | e :: rest => .alt e (choice rest)

/-- Exactly the given text, up to the folding. -/
def literalFolded (folding : Folding) (text : List Char) : Expr :=
  sequence (text.map fun c => .one (CharClass.code folding c.toNat))

/-- Exactly the given text. -/
def literal (text : List Char) : Expr := literalFolded .none text

/-- Any number of characters of a class. -/
def many (cls : CharClass) : Expr := .run cls 0 none .greedy

/-- At least one character of a class. -/
def many1 (cls : CharClass) : Expr := .run cls 1 none .greedy

/-- At most one character of a class. -/
def maybe (cls : CharClass) : Expr := .run cls 0 (some 1) .greedy

/-- At most one match of an expression. -/
def optional (e : Expr) : Expr := .loop e 0 (some 1) .greedy

/-- A place between a word character and another character or an end of the text. -/
def edge : Expr := .anchor (.wordEdge false)

/-- A place where no match of the expression starts. -/
def notFollowedBy (e : Expr) : Expr := .look none true e

end Expr

/-- A regular expression together with the text that it was read from. -/
structure Pattern where
  source : String
  expr : Expr
deriving Repr

end BundleAudit.Regex

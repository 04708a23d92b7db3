import BundleAudit.Text.Blank
import BundleAudit.Text.Word
import BundleAudit.Text.Digit
import BundleAudit.Text.LetterCase

/-!
# Character classes

A class is a list of code point ranges and named categories, possibly negated. Under a folding the
character is taken in lower case, and a range holds it when some member of the range has that lower
case or a partner of it. A class may name code points that no character has; nothing matches them.
-/

namespace BundleAudit.Regex

open BundleAudit.Text

inductive Category
  | digit
  | blank
  | word
deriving DecidableEq, Repr

/-- How a class disregards case: not at all, for the letters of every script, or for ASCII letters. -/
inductive Folding
  | none
  | full
  | ascii
deriving DecidableEq, Repr

inductive ClassItem
  | range (low high : Nat)
  | foldedRange (low high : Nat)
  | category (kind : Category) (ascii negated : Bool)
deriving DecidableEq, Repr

structure CharClass where
  items : List ClassItem
  negated : Bool
  folding : Folding
deriving DecidableEq, Repr

/-- Lower case of an ASCII letter; other code points stay. -/
def asciiLowerCode (code : Nat) : Nat := if 0x41 ≤ code && code ≤ 0x5a then code + 0x20 else code

def Folding.apply : Folding → Nat → Nat
  | .none, code => code
  | .full, code => lowerCode code
  | .ascii, code => asciiLowerCode code

/-- The folded code points that a folded code point is equal to. -/
def Folding.equals : Folding → Nat → List Nat
  | .full, code => code :: casePartners code
  | _, code => [code]

/-- Whether some member of a range has the given code point as its lower case. -/
def rangeLowersTo (low high : Nat) (folding : Folding) (code : Nat) : Bool :=
  let holds (n : Nat) := low ≤ n && n ≤ high
  match folding with
  | .none => holds code
  | .ascii => holds code || (0x61 ≤ code && code ≤ 0x7a && holds (code - 0x20))
  | .full => holds code || (lowerPreimages code).any holds

def Category.holds (ascii : Bool) (code : Nat) : Category → Bool
  | .digit => if ascii then 0x30 ≤ code && code ≤ 0x39 else (digitValueIn code digitZeros).isSome
  | .blank => if ascii then code == 0x20 || (9 ≤ code && code ≤ 13) else inRanges blankRanges code
  | .word =>
    if ascii then
      (0x30 ≤ code && code ≤ 0x39) || (0x41 ≤ code && code ≤ 0x5a) || (0x61 ≤ code && code ≤ 0x7a) ||
        code == 0x5f
    else inRanges wordRanges code

def ClassItem.holds (folding : Folding) (code : Nat) : ClassItem → Bool
  | .range low high => low ≤ code && code ≤ high
  | .foldedRange low high => (folding.equals code).any (rangeLowersTo low high folding)
  | .category kind ascii negated => kind.holds ascii code != negated

namespace CharClass

/-- Whether a class matches a character. -/
def contains (s : CharClass) (c : Char) : Bool :=
  s.items.any (·.holds s.folding (s.folding.apply c.toNat)) != s.negated

/-- The items that stand for one range under a folding: a single code point is folded in advance. -/
def foldRange (folding : Folding) (low high : Nat) : List ClassItem :=
  match folding with
  | .none => [.range low high]
  | _ =>
    if low == high then (folding.equals (folding.apply low)).map fun n => .range n n
    else [.foldedRange low high]

def foldItem (folding : Folding) : ClassItem → List ClassItem
  | .range low high => foldRange folding low high
  | item => [item]

/-- The class of the given items under a folding. -/
def ofItems (folding : Folding) (negated : Bool) (items : List ClassItem) : CharClass :=
  ⟨items.flatMap (foldItem folding), negated, folding⟩

/-- The class of one code point. -/
def code (folding : Folding) (n : Nat) : CharClass := ofItems folding false [.range n n]

/-- The class of one character, by itself. -/
def char (c : Char) : CharClass := code .none c.toNat

/-- The class of the given characters, by themselves. -/
def oneOf (cs : List Char) : CharClass := ⟨cs.map fun c => .range c.toNat c.toNat, false, .none⟩

/-- The class of all other characters. -/
def noneOf (cs : List Char) : CharClass := { oneOf cs with negated := true }

/-- Every character. -/
def any : CharClass := noneOf []

/-- Every character that does not end a line. -/
def inLine : CharClass := noneOf ['\n']

def blank : CharClass := ⟨[.category .blank false false], false, .none⟩

def word : CharClass := ⟨[.category .word false false], false, .none⟩

def digit : CharClass := ⟨[.category .digit false false], false, .none⟩

end CharClass

end BundleAudit.Regex

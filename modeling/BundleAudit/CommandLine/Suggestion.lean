/-!
# Suggestions

A word that is not known is compared with the known ones. Two words are alike as far as they agree in
long common pieces: the longest one, and in the same way what stands in front of it and behind it.
-/

namespace BundleAudit.CommandLine

/-- The length of the common front of two texts. -/
def commonFront : List Char → List Char → Nat
  | a :: as, b :: bs => if a == b then commonFront as bs + 1 else 0
  | _, _ => 0

/-- A piece that two texts have in common: where it starts in each, and its length. -/
structure CommonPiece where
  left : Nat
  right : Nat
  length : Nat
deriving DecidableEq, Repr

/-- The longest common piece that starts at a place of the left text; of several, the first one. -/
def longestAt (left right : Nat) (a : List Char) (best : CommonPiece) : List Char → CommonPiece
  | [] => best
  | b :: bs =>
    let n := commonFront a (b :: bs)
    longestAt left (right + 1) a (if n > best.length then ⟨left, right, n⟩ else best) bs

/-- The longest common piece of two texts; of several, the first one in the left text. -/
def longest (left : Nat) (best : CommonPiece) (b : List Char) : List Char → CommonPiece
  | [] => best
  | a :: as => longest (left + 1) (longestAt left 0 (a :: as) best b) b as

/-- The number of characters in the common pieces of two texts. -/
def commonCount : Nat → List Char → List Char → Nat
  | 0, _, _ => 0
  | fuel + 1, a, b =>
    let p := longest 0 ⟨0, 0, 0⟩ b a
    if p.length == 0 then 0
    else
      p.length + commonCount fuel (a.take p.left) (b.take p.right) +
        commonCount fuel (a.drop (p.left + p.length)) (b.drop (p.right + p.length))

/-- How much two texts have in common: a fraction of their characters. -/
structure Likeness where
  common : Nat
  total : Nat
deriving DecidableEq, Repr

namespace Likeness

def between (known word : List Char) : Likeness :=
  ⟨2 * commonCount (known.length + 1) known word, known.length + word.length⟩

/-- At least three fifths in common. -/
def isClose (l : Likeness) : Bool := 3 * l.total ≤ 5 * l.common

/-- Compares two fractions. -/
def order (l m : Likeness) : Ordering := compare (l.common * m.total) (m.common * l.total)

end Likeness

/-- The known words that are close to a word: the three that are most alike, in alphabetical order. -/
def suggestions (known : List String) (word : String) : List String :=
  let scored := known.map fun k => (k, Likeness.between k.toList word.toList)
  let close := scored.filter fun (_, l) => l.isClose
  let best := close.mergeSort fun (k, l) (j, m) => ((Likeness.order m l).then (compare j k)).isLE
  ((best.take 3).map (·.1)).mergeSort fun j k => (compare j k).isLE

end BundleAudit.CommandLine

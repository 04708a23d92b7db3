import BundleAudit.Regex.Expr

/-!
# Matching

A match is looked for by backtracking: `Expr.match` tries the ways in which an expression can match
at a place, in order of preference, and gives each end to a continuation until one accepts.
Preference is to the first alternative and, in a repetition, to what its greed says. An iteration
that consumes nothing ends its repetition.

`search` gives the leftmost match. `findAll` gives the matches from left to right without overlap; an
empty match may stand directly behind another match but not twice at one place.
-/

namespace BundleAudit.Regex

open BundleAudit.Text

/-- A place in a text: what stands before it, nearest character first, what stands after it, and the
texts of the groups that have matched, latest first. -/
structure Place where
  before : List Char
  after : List Char
  offset : Nat
  groups : List (Nat × List Char)
deriving DecidableEq, Repr

namespace Place

def start (text : List Char) : Place := ⟨[], text, 0, []⟩

/-- The place behind the next character `c`, before `rest`. -/
def step (p : Place) (c : Char) (rest : List Char) : Place :=
  { p with before := c :: p.before, after := rest, offset := p.offset + 1 }

/-- The place `n` characters earlier. -/
def back? : Nat → Place → Option Place
  | 0, p => some p
  | n + 1, p =>
    match p.before with
    | [] => none
    | c :: earlier => back? n { p with before := earlier, after := c :: p.after, offset := p.offset - 1 }

/-- The text between an earlier place and this one. -/
def textSince (p q : Place) : List Char := p.after.take (q.offset - p.offset)

/-- The place behind a text that equals the given one up to a folding. -/
def pass? (folding : Folding) : List Char → Place → Option Place
  | [], p => some p
  | c :: text, p =>
    match p.after with
    | [] => none
    | d :: rest =>
      if folding.apply c.toNat == folding.apply d.toNat then pass? folding text (p.step d rest) else none

end Place

private def wordAt (ascii : Bool) : List Char → Bool
  | [] => false
  | c :: _ => Category.word.holds ascii c.toNat

def Anchor.holds (p : Place) : Anchor → Bool
  | .textStart => p.before.isEmpty
  | .textEnd => p.after.isEmpty
  | .lineStart => p.before.isEmpty || p.before.head? == some '\n'
  | .lineEnd => p.after.isEmpty || p.after.head? == some '\n'
  | .lastLineEnd => p.after.isEmpty || p.after == ['\n']
  | .wordEdge ascii => wordAt ascii p.before != wordAt ascii p.after
  | .wordInside ascii =>
    !(p.before.isEmpty && p.after.isEmpty) && wordAt ascii p.before == wordAt ascii p.after

/-- The places behind zero, one, two, … characters of a class, farthest first, in front of `found`. -/
def stops (cls : CharClass) : List Char → Option Nat → Place → List Place → List Place
  | [], _, p, found => p :: found
  | c :: rest, room, p, found =>
    if room == some 0 || !cls.contains c then p :: found
    else stops cls rest (room.map (· - 1)) (p.step c rest) (p :: found)

abbrev Continuation := Place → Option Place

/-- Ways of matching: for a continuation and a start, the first end that the continuation accepts. -/
abbrev Matcher := Continuation → Place → Option Place

/-- The matcher that keeps only the first way of the given one. -/
def Matcher.first (m : Matcher) : Matcher := fun k p => (m some p).bind k

namespace Matcher

/-- Exactly `n` iterations. -/
def times (m : Matcher) (k : Continuation) : Nat → Place → Option Place
  | 0, p => k p
  | n + 1, p => m (times m k n) p

/-- Up to `room` further iterations, as many as possible first. Each consumes a character, so `fuel`
counts the characters left. -/
def upToGreedy (m : Matcher) (k : Continuation) : Nat → Option Nat → Place → Option Place
  | 0, _, p => k p
  | fuel + 1, room, p =>
    if room == some 0 then k p
    else
      match m (fun q => if q.offset == p.offset then k q else upToGreedy m k fuel (room.map (· - 1)) q) p with
      | some q => some q
      | none => k p

/-- Up to `room` further iterations, as few as possible first. -/
def upToLazy (m : Matcher) (k : Continuation) : Nat → Option Nat → Place → Option Place
  | 0, _, p => k p
  | fuel + 1, room, p =>
    match k p with
    | some q => some q
    | none =>
      if room == some 0 then none
      else m (fun q => if q.offset == p.offset then k q else upToLazy m k fuel (room.map (· - 1)) q) p

/-- Between `least` and `most` iterations. -/
def loop (m : Matcher) (least : Nat) (most : Option Nat) : Greed → Matcher
  | .greedy => fun k => m.times (fun p => m.upToGreedy k (p.after.length + 1) (most.map (· - least)) p) least
  | .lazy => fun k => m.times (fun p => m.upToLazy k (p.after.length + 1) (most.map (· - least)) p) least
  | .possessive =>
    first fun k =>
      m.first.times (fun p => m.first.upToGreedy k (p.after.length + 1) (most.map (· - least)) p) least

/-- Between `least` and `most` characters of a class. -/
def run (cls : CharClass) (least : Nat) (most : Option Nat) (greed : Greed) : Matcher := fun k p =>
  let all := stops cls p.after most p []
  let enough := all.take (all.length - least)
  match greed with
  | .greedy => enough.findSome? k
  | .lazy => enough.reverse.findSome? k
  | .possessive => enough.head?.bind k

end Matcher

/-- The matcher of an expression. -/
def Expr.match : Expr → Matcher
  | .empty, k, p => k p
  | .one cls, k, p =>
    match p.after with
    | [] => none
    | c :: rest => if cls.contains c then k (p.step c rest) else none
  | .anchor a, k, p => if a.holds p then k p else none
  | .seq first second, k, p => first.match (second.match k) p
  | .alt first second, k, p =>
    match first.match k p with
    | some q => some q
    | none => second.match k p
  | .run cls least most greed, k, p => Matcher.run cls least most greed k p
  | .loop body least most greed, k, p => Matcher.loop body.match least most greed k p
  | .group index body, k, p =>
    body.match (fun q => k { q with groups := (index, p.textSince q) :: q.groups }) p
  | .atomic body, k, p => (body.match some p).bind k
  | .look behind negated body, k, p =>
    let found := (p.back? (behind.getD 0)).bind (body.match some)
    if negated then if found.isSome then none else k p
    else found.bind fun q => k { p with groups := q.groups }
  | .backref index folding, k, p =>
    match p.groups.lookup index with
    | none => none
    | some text => (p.pass? folding text).bind k
  | .ifGroup index yes no, k, p =>
    if (p.groups.lookup index).isSome then yes.match k p else no.match k p

/-- A matched piece of a text and where it starts. -/
structure Match where
  start : Nat
  text : List Char
deriving DecidableEq, Repr

namespace Expr

/-- The match that starts at a place; with `nonempty` an empty one does not count. -/
def matchHere? (e : Expr) (nonempty : Bool) (p : Place) : Option Match :=
  (e.match (fun q => if nonempty && q.offset == p.offset then none else some q) p).map fun q =>
    ⟨p.offset, p.textSince q⟩

def searchFrom? (e : Expr) : List Char → Place → Option Match
  | [], p => e.matchHere? false p
  | c :: rest, p =>
    match e.matchHere? false p with
    | some m => some m
    | none => searchFrom? e rest (p.step c rest)

/-- The leftmost match in a text. -/
def search? (e : Expr) (text : List Char) : Option Match := e.searchFrom? text (Place.start text)

/-- The matches that start at a place: one, or an empty one and then a nonempty one. -/
def allHere (e : Expr) (p : Place) : List Match :=
  match e.matchHere? false p with
  | none => []
  | some m => if m.text.isEmpty then m :: (e.matchHere? true p).toList else [m]

/-- The number of characters that the last of the matches covers. -/
def covered (found : List Match) : Nat := (found.getLast?.map (·.text.length)).getD 0

def findAllFrom (e : Expr) : List Char → Nat → Place → List Match
  | [], _, p => e.allHere p
  | c :: rest, skip + 1, p => findAllFrom e rest skip (p.step c rest)
  | c :: rest, 0, p =>
    match e.allHere p with
    | [] => findAllFrom e rest 0 (p.step c rest)
    | found => found ++ findAllFrom e rest (covered found - 1) (p.step c rest)

/-- The matches in a text, from left to right, without overlap. -/
def findAll (e : Expr) (text : List Char) : List Match := e.findAllFrom text 0 (Place.start text)

/-- Whether an expression matches somewhere in a text. -/
def occursIn (e : Expr) (text : List Char) : Bool := (e.search? text).isSome

end Expr

end BundleAudit.Regex

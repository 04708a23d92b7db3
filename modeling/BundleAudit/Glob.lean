import BundleAudit.Regex.Reader

/-!
# Globs

In a glob `*` stands for any text, `?` for any character and `[…]` for one character of a class;
`[!…]` negates the class. An opening bracket that is not closed stands for itself, and a range whose
ends are in the wrong order holds nothing.
-/

namespace BundleAudit

open BundleAudit.Regex

/-- A part of a glob: any text, or one character of a class. -/
inductive GlobPart
  | anyText
  | one (cls : CharClass)
deriving Repr

namespace Glob

/-! ## Brackets -/

/-- The text between brackets and what follows them; a closing bracket that comes first belongs to the
text. -/
def splitBracket (s : List Char) : Option (List Char × List Char) :=
  let (lead, rest) := match s with
    | '!' :: rest => (['!'], rest)
    | _ => ([], s)
  let (lead, rest) := match rest with
    | ']' :: rest => (lead ++ [']'], rest)
    | _ => (lead, rest)
  match rest.dropWhile (· != ']') with
  | _ :: after => some (lead ++ rest.takeWhile (· != ']'), after)
  | [] => none

/-- The pieces of a bracket between the hyphens that make ranges. A piece has at least `lead`
characters before a hyphen can end it, and two where a range ends in it. -/
def pieces : Nat → List Char → List (List Char)
  | _, [] => [[]]
  | 0, '-' :: rest => [] :: pieces 2 rest
  | n, c :: rest =>
    match pieces (n - 1) rest with
    | [] => [[c]]
    | p :: ps => (c :: p) :: ps

/-- Gives a hyphen that ends the bracket back to the piece before it. -/
def keepLastHyphen : List (List Char) → List (List Char)
  | [] => []
  | [p, []] => [p ++ ['-']]
  | p :: ps => p :: keepLastHyphen ps

/-- Joins the pieces around each range that is empty, without its ends. -/
def dropEmptyRanges : List (List Char) → List (List Char)
  | [] => []
  | p :: ps =>
    match dropEmptyRanges ps with
    | [] => [p]
    | q :: qs =>
      match p.getLast?, q with
      | some a, b :: q' => if b < a then (p.dropLast ++ q') :: qs else p :: q :: qs
      | _, _ => p :: q :: qs

/-- The written form of a piece in a class. -/
def pieceText (p : List Char) : List Char :=
  p.flatMap fun c => if c == '\\' || c == '-' then ['\\', c] else [c]

/-- The written form of a bracket that holds no hyphen. -/
def plainText (s : List Char) : List Char := s.flatMap fun c => if c == '\\' then ['\\', c] else [c]

/-- The text between brackets as the inside of a class. -/
def classText (s : List Char) : List Char :=
  let text :=
    if s.contains '-' then
      let lead := match s with
        | '!' :: _ => 2
        | _ => 1
      ['-'].intercalate ((dropEmptyRanges (keepLastHyphen (pieces lead s))).map pieceText)
    else plainText s
  text.flatMap fun c => if c == '&' || c == '~' || c == '|' then ['\\', c] else [c]

/-- The class that a bracket stands for: nothing if nothing is left of it, everything if only its
negation is left. -/
def bracketClass (s : List Char) : CharClass :=
  let inside (text : List Char) : CharClass :=
    match readClass {} (tokens (text ++ [']'])) with
    | .ok (cls, _) => cls
    | .error _ => .oneOf []
  match classText s with
  | [] => .oneOf []
  | ['!'] => .any
  | '!' :: rest => inside ('^' :: rest)
  | c :: rest => inside (if c == '^' || c == '[' then '\\' :: c :: rest else c :: rest)

/-! ## Matching -/

/-- The parts of a glob. -/
def parts : Nat → List Char → List GlobPart
  | 0, _ => []
  | _ + 1, [] => []
  | fuel + 1, '*' :: rest => .anyText :: parts fuel rest
  | fuel + 1, '?' :: rest => .one .any :: parts fuel rest
  | fuel + 1, '[' :: rest =>
    match splitBracket rest with
    | some (inside, after) => .one (bracketClass inside) :: parts fuel after
    | none => .one (.char '[') :: parts fuel rest
  | fuel + 1, c :: rest => .one (.char c) :: parts fuel rest

/-- The text and its ends. -/
def suffixes : List Char → List (List Char)
  | [] => [[]]
  | c :: rest => (c :: rest) :: suffixes rest

def matchParts : List GlobPart → List Char → Bool
  | [], s => s.isEmpty
  | .anyText :: ps, s => (suffixes s).any (matchParts ps)
  | .one _ :: _, [] => false
  | .one cls :: ps, c :: s => cls.contains c && matchParts ps s

/-- Whether a glob matches the whole of a name. -/
def covers (glob name : String) : Bool := matchParts (parts (glob.length + 1) glob.toList) name.toList

end Glob

end BundleAudit

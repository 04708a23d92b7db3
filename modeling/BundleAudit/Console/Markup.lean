import BundleAudit.Console.Lines

/-!
# Markup

Tags in brackets style a text, and names between colons stand for pictures. A console without styles
shows the text alone. A backslash in front of a tag makes it plain text; two stand for one.

What the console makes of a tag and which pictures it has are the affair of the library that renders marked up
texts. A `Renderer` is any such library that keeps to its documented rules: the text between the tags is shown,
words that are opened and closed in turn are styles or pass for such, and a closing tag without an opening
one is an error.
-/

namespace BundleAudit.Console

open BundleAudit.Text

/-- Why a marked up text cannot be shown. -/
inductive MarkupError
  /-- A closing tag has nothing to close. -/
  | unmatched (tag : List Char)
  /-- The parameters of a handler stand for no value. -/
  | noValue (parameters : List Char)
  /-- A part of a colour is no number. -/
  | noNumber (part : List Char)
deriving DecidableEq, Repr

/-! ## Pictures -/

/-- The text up to the next colon and the text behind it, if no blank stands in front of it. -/
def splitName : List Char → Option (List Char × List Char)
  | [] => none
  | c :: rest =>
    if c == ':' then some ([], rest)
    else if isBlank c then none
    else (splitName rest).map fun (name, after) => (c :: name, after)

section
variable (picture? : List Char → Option (List Char))

/-- Replaces the names of pictures. -/
def replaceNames : Nat → List Char → List Char
  | 0, s => s
  | _, [] => []
  | fuel + 1, c :: rest =>
    if c == ':' then
      match splitName rest with
      | some (name, after) =>
        (picture? name).getD (':' :: (name ++ [':'])) ++ replaceNames fuel after
      | none => c :: replaceNames fuel rest
    else c :: replaceNames fuel rest

def withPictures (s : List Char) : List Char := replaceNames picture? s.length s

end

/-! ## Tags -/

/-- A character that a tag can start with. -/
def startsTag (c : Char) : Bool := ('a' ≤ c && c ≤ 'z') || c == '#' || c == '/' || c == '@'

/-- The rest of a tag up to its closing bracket, and the text behind it. -/
def splitTag : List Char → Option (List Char × List Char)
  | [] => none
  | c :: rest =>
    if c == ']' then some ([], rest)
    else if c == '[' then none
    else (splitTag rest).map fun (inside, after) => (c :: inside, after)

/-- The tag at the front of a text, with the number of backslashes in front of it. -/
def tagAt? (s : List Char) : Option (Nat × List Char × List Char) :=
  let slashes := (s.takeWhile (· == '\\')).length
  match s.drop slashes with
  | '[' :: c :: rest =>
    if startsTag c then (splitTag rest).map fun (inside, after) => (slashes, c :: inside, after) else none
  | _ => none

/-- A part of a marked up text. -/
inductive Piece
  | plain (s : List Char)
  | tag (inside : List Char)
deriving DecidableEq, Repr

/-- The parts of a marked up text; `plain` is the plain text in front of the rest, reversed. -/
def splitPieces : Nat → List Char → List Char → List Piece
  | 0, plain, s => [.plain (plain.reverse ++ s)]
  | _, plain, [] => if plain.isEmpty then [] else [.plain plain.reverse]
  | fuel + 1, plain, c :: rest =>
    match tagAt? (c :: rest) with
    | none => splitPieces fuel (c :: plain) rest
    | some (slashes, inside, after) =>
      let shown := List.replicate (slashes / 2) '\\'
      (if plain.isEmpty then [] else [.plain plain.reverse]) ++
        (if shown.isEmpty then [] else [.plain shown]) ++
        [if slashes % 2 == 0 then .tag inside else .plain ('[' :: (inside ++ [']']))] ++
        splitPieces fuel [] after

def pieces (s : List Char) : List Piece := splitPieces s.length [] s

def Piece.tag? : Piece → Option (List Char)
  | .plain _ => none
  | .tag inside => some inside

/-- The tags of a text, in order. -/
def tagsOf (s : List Char) : List (List Char) := (pieces s).filterMap Piece.tag?

def isClosing (tag : List Char) : Bool := tag.head? == some '/'

/-- More is closed than opened. -/
def Unmatched (tags : List (List Char)) : Prop := tags.countP (!isClosing ·) < tags.countP isClosing

instance (tags : List (List Char)) : Decidable (Unmatched tags) := inferInstanceAs (Decidable (_ < _))

def isSmallLetter (c : Char) : Bool := 'a' ≤ c && c ≤ 'z'

/-- The words that tags leave open, the latest first, if each of the tags is a word or closes the latest word. -/
def nest (words : List (List Char)) : List (List Char) → Option (List (List Char))
  | [] => some words
  | ('/' :: word) :: tags =>
    match words with
    | last :: below => if last == word then nest below tags else none
    | [] => none
  | word :: tags => if word.all isSmallLetter then nest (word :: words) tags else none

/-! ## What is shown -/

/-- Takes the backslash off each bracket that has one in front. -/
def unescapeBrackets : List Char → List Char
  | '\\' :: '[' :: rest => '[' :: unescapeBrackets rest
  | c :: rest => c :: unescapeBrackets rest
  | [] => []

def Piece.shown (picture? : List Char → Option (List Char)) : Piece → List Char
  | .plain s => withPictures picture? (unescapeBrackets s)
  | .tag _ => []

/-- The text between the tags, with pictures for their names. -/
def shownText (picture? : List Char → Option (List Char)) (s : List Char) : List Char :=
  dropControls ((pieces s).flatMap (Piece.shown picture?))

/-- A library that renders marked up texts, and what is known of it. Which names have a style, and what else may
be refused, is left open. -/
structure Renderer where
  /-- The text that is shown for a marked up one. -/
  render : List Char → Except MarkupError (List Char)
  /-- The picture that a name between colons stands for. -/
  picture? : List Char → Option (List Char)
  /-- Pictures and their names are no markup, and can be seen. -/
  picture?_plain : ∀ {name shown : List Char}, picture? name = some shown →
    ∀ c ∈ name ++ shown, c ≠ '[' ∧ c ≠ '\\' ∧ ¬ isControl c
  /-- What is shown is the text between the tags. -/
  render_eq : ∀ {s shown : List Char}, render s = .ok shown → shown = shownText picture? s
  /-- Words that are closed in the reverse of the order in which they were opened can be shown. -/
  render_nested : ∀ {s : List Char}, (nest [] (tagsOf s)).isSome → ∃ shown, render s = .ok shown
  /-- A closing tag that has nothing to close is refused. -/
  render_unmatched : ∀ {s : List Char} {front : List (List Char)}, front <+: tagsOf s → Unmatched front →
    ∃ e, render s = .error e

/-! ## Escaping -/

def escapeTags : Nat → List Char → List Char
  | 0, s => s
  | _, [] => []
  | fuel + 1, c :: rest =>
    match tagAt? (c :: rest) with
    | none => c :: escapeTags fuel rest
    | some (slashes, inside, after) =>
      List.replicate (2 * slashes + 1) '\\' ++ '[' :: (inside ++ ']' :: escapeTags fuel after)

/-- A text whose tags are plain text. One backslash at its end is doubled. -/
def escapeMarkup (s : List Char) : List Char :=
  let escaped := escapeTags s.length s
  match escaped.reverse with
  | '\\' :: '\\' :: _ => escaped
  | '\\' :: _ => escaped ++ ['\\']
  | _ => escaped

end BundleAudit.Console

import BundleAudit.Text.Blank
import BundleAudit.Text.Digit
import BundleAudit.Text.Integer
import BundleAudit.Text.LetterCase

/-!
# Styles

A style is written in words: attributes, colours in front and behind, and a link. A colour is a name, a number, or
three parts of light. Two texts that stand for the same style have the same normal form; a text that stands for
none is its own, in lower case. The parts of a colour have to be numbers, though.
-/

namespace BundleAudit.Console

open BundleAudit.Text

/-- The names of colours. -/
def colorNames : List String := [
    "black", "red", "green", "yellow", "blue", "magenta", "cyan", "white", "bright_black",
    "bright_red", "bright_green", "bright_yellow", "bright_blue", "bright_magenta", "bright_cyan",
    "bright_white", "grey0", "gray0", "navy_blue", "dark_blue", "blue3", "blue1", "dark_green",
    "deep_sky_blue4", "dodger_blue3", "dodger_blue2", "green4", "spring_green4", "turquoise4",
    "deep_sky_blue3", "dodger_blue1", "green3", "spring_green3", "dark_cyan", "light_sea_green",
    "deep_sky_blue2", "deep_sky_blue1", "spring_green2", "cyan3", "dark_turquoise", "turquoise2",
    "green1", "spring_green1", "medium_spring_green", "cyan2", "cyan1", "dark_red", "deep_pink4",
    "purple4", "purple3", "blue_violet", "orange4", "grey37", "gray37", "medium_purple4",
    "slate_blue3", "royal_blue1", "chartreuse4", "dark_sea_green4", "pale_turquoise4", "steel_blue",
    "steel_blue3", "cornflower_blue", "chartreuse3", "cadet_blue", "sky_blue3", "steel_blue1",
    "pale_green3", "sea_green3", "aquamarine3", "medium_turquoise", "chartreuse2", "sea_green2",
    "sea_green1", "aquamarine1", "dark_slate_gray2", "dark_magenta", "dark_violet", "purple",
    "light_pink4", "plum4", "medium_purple3", "slate_blue1", "yellow4", "wheat4", "grey53",
    "gray53", "light_slate_grey", "light_slate_gray", "medium_purple", "light_slate_blue",
    "dark_olive_green3", "dark_sea_green", "light_sky_blue3", "sky_blue2", "dark_sea_green3",
    "dark_slate_gray3", "sky_blue1", "chartreuse1", "light_green", "pale_green1",
    "dark_slate_gray1", "red3", "medium_violet_red", "magenta3", "dark_orange3", "indian_red",
    "hot_pink3", "medium_orchid3", "medium_orchid", "medium_purple2", "dark_goldenrod",
    "light_salmon3", "rosy_brown", "grey63", "gray63", "medium_purple1", "gold3", "dark_khaki",
    "navajo_white3", "grey69", "gray69", "light_steel_blue3", "light_steel_blue", "yellow3",
    "dark_sea_green2", "light_cyan3", "light_sky_blue1", "green_yellow", "dark_olive_green2",
    "dark_sea_green1", "pale_turquoise1", "deep_pink3", "magenta2", "hot_pink2", "orchid",
    "medium_orchid1", "orange3", "light_pink3", "pink3", "plum3", "violet", "light_goldenrod3",
    "tan", "misty_rose3", "thistle3", "plum2", "khaki3", "light_goldenrod2", "light_yellow3",
    "grey84", "gray84", "light_steel_blue1", "yellow2", "dark_olive_green1", "honeydew2",
    "light_cyan1", "red1", "deep_pink2", "deep_pink1", "magenta1", "orange_red1", "indian_red1",
    "hot_pink", "dark_orange", "salmon1", "light_coral", "pale_violet_red1", "orchid2", "orchid1",
    "orange1", "sandy_brown", "light_salmon1", "light_pink1", "pink1", "plum1", "gold1",
    "navajo_white1", "misty_rose1", "thistle1", "yellow1", "light_goldenrod1", "khaki1", "wheat1",
    "cornsilk1", "grey100", "gray100", "grey3", "gray3", "grey7", "gray7", "grey11", "gray11",
    "grey15", "gray15", "grey19", "gray19", "grey23", "gray23", "grey27", "gray27", "grey30",
    "gray30", "grey35", "gray35", "grey39", "gray39", "grey42", "gray42", "grey46", "gray46",
    "grey50", "gray50", "grey54", "gray54", "grey58", "gray58", "grey62", "gray62", "grey66",
    "gray66", "grey70", "gray70", "grey74", "gray74", "grey78", "gray78", "grey82", "gray82",
    "grey85", "gray85", "grey89", "gray89", "grey93", "gray93"]

/-- Why a text stands for no style. -/
inductive StyleError
  /-- A word is not known. -/
  | unknown
  /-- A part of a colour is no number. -/
  | noNumber (part : List Char)
deriving DecidableEq, Repr

/-- Whether a colour goes by this word, its number in the palette, or its code. -/
def isColor (word : List Char) : Bool :=
  word == "default".toList || colorNames.contains (String.ofList word) ||
    match word with
    | '#' :: digits =>
      digits.length == 6 && digits.all fun c => ('0' ≤ c && c ≤ '9') || ('a' ≤ c && c ≤ 'f')
    | 'c' :: 'o' :: 'l' :: 'o' :: 'r' :: '(' :: rest =>
      let digits := rest.takeWhile fun c => '0' ≤ c && c ≤ '9'
      rest.drop digits.length == [')'] && 0 < digits.length && digits.length ≤ 3 &&
        (integer? digits).any (· ≤ 255)
    | _ => false

/-- The parts of light that a word in lower case is written as, if it is written in such. -/
def lightParts? (word : List Char) : Option (List (List Char)) :=
  match word with
  | 'r' :: 'g' :: 'b' :: '(' :: rest =>
    let parts := rest.takeWhile fun c => isDigit c || isBlank c || c == ','
    if rest.drop parts.length == [')'] && 0 < parts.length then
      some (((String.ofList parts).splitOn ",").map String.toList)
    else none
  | _ => none

/-- Whether a word in lower case stands for a colour. -/
def checkColor (word : List Char) : Except StyleError Unit :=
  if isColor word then .ok ()
  else
    match lightParts? word with
    | some [red, green, blue] => do
      let numbers ← [red, green, blue].mapM fun part => (integer? part).elim (.error (.noNumber part)) .ok
      if numbers.all (· ≤ 255) then .ok () else .error .unknown
    | _ => .error .unknown

/-- The attributes in the order of a normal form, with their words. -/
def attributes : List (String × List String) :=
  [("bold", ["bold", "b"]), ("dim", ["dim", "d"]), ("italic", ["italic", "i"]),
    ("underline", ["underline", "u"]), ("blink", ["blink"]), ("blink2", ["blink2"]),
    ("reverse", ["reverse", "r"]), ("conceal", ["conceal", "c"]), ("strike", ["strike", "s"]),
    ("underline2", ["underline2", "uu"]), ("frame", ["frame"]), ("encircle", ["encircle"]),
    ("overline", ["overline", "o"])]

def attribute? (word : List Char) : Option String :=
  (attributes.find? fun (_, spellings) => spellings.contains (String.ofList word)).map (·.1)

structure Style where
  /-- Attributes that are set or unset, the latest first. -/
  attributes : List (String × Bool) := []
  color : Option (List Char) := none
  background : Option (List Char) := none
  link : Option (List Char) := none
deriving DecidableEq, Repr

namespace Style

/-- The style of a list of words, added to the one of the words before them. -/
def ofWords (s : Style) : List (List Char) → Except StyleError Style
  | [] => .ok s
  | [word] =>
    let word := lower word
    match attribute? word with
    | some a => .ok { s with attributes := (a, true) :: s.attributes }
    | none => do
      checkColor word
      return { s with color := some word }
  | word :: next :: rest =>
    let word := lower word
    if word == "on".toList then do
      let next := lower next
      checkColor next
      ofWords { s with background := some next } rest
    else if word == "not".toList then
      match attribute? next with
      | some a => ofWords { s with attributes := (a, false) :: s.attributes } rest
      | none => .error .unknown
    else if word == "link".toList then ofWords { s with link := some next } rest
    else
      match attribute? word with
      | some a => ofWords { s with attributes := (a, true) :: s.attributes } (next :: rest)
      | none => do
        checkColor word
        ofWords { s with color := some word } (next :: rest)

/-- The style that a text stands for. -/
def read (text : List Char) : Except StyleError Style :=
  if trim text == "none".toList then .ok {} else ofWords {} (fields text)

/-- The words of a style in their normal order. -/
def normalWords (s : Style) : List (List Char) :=
  let marks := Console.attributes.flatMap fun (name, _) =>
    match s.attributes.lookup name with
    | some true => [name.toList]
    | some false => ["not ".toList ++ name.toList]
    | none => []
  marks ++ s.color.toList ++ (s.background.map fun c => "on ".toList ++ c).toList ++
    (s.link.map fun url => "link ".toList ++ url).toList

/-- The normal form of the text of a style, or the part of a colour that is no number. -/
def normalize (text : List Char) : Except (List Char) (List Char) :=
  match read text with
  | .ok s => .ok (if s.normalWords.isEmpty then "none".toList else List.intercalate [' '] s.normalWords)
  | .error .unknown => .ok (lower (trim text))
  | .error (.noNumber part) => .error part

end Style

end BundleAudit.Console

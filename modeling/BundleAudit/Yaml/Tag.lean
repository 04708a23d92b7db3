import BundleAudit.Regex.Matching
import BundleAudit.Regex.Reader

/-!
# Tags

The tag of a node says what it stands for. The tag of a plain scalar follows from its text: the first
form that the text has decides, and a text without a form is a string.
-/

namespace BundleAudit.Yaml

open BundleAudit.Regex

inductive Tag
  | null
  | bool
  | int
  | float
  | binary
  | timestamp
  | omap
  | pairs
  | set
  | str
  | seq
  | map
  | merge
  | value
  | unknown
deriving DecidableEq, Repr

namespace Tag

def standard : List (String × Tag) :=
  [("null", .null), ("bool", .bool), ("int", .int), ("float", .float), ("binary", .binary),
    ("timestamp", .timestamp), ("omap", .omap), ("pairs", .pairs), ("set", .set), ("str", .str),
    ("seq", .seq), ("map", .map), ("merge", .merge), ("value", .value)]

def standardStart : List Char := "tag:yaml.org,2002:".toList

/-- The tag that is written with the given text. -/
def ofText (text : List Char) : Tag :=
  if standardStart.isPrefixOf text then
    (standard.lookup (String.ofList (text.drop standardStart.length))).getD .unknown
  else .unknown

/-- A form of plain scalars: the characters that it can start with, and the texts that have it. -/
structure Form where
  starts : List Char
  source : String
  tag : Tag

def boolForm : Form where
  starts := "yYnNtTfFoO".toList
  source :=
    "^(?:yes|Yes|YES|no|No|NO|true|True|TRUE|false|False|FALSE|on|On|ON|off|Off|OFF)$"
  tag := .bool

def floatForm : Form where
  starts := "-+0123456789.".toList
  source :=
    "^(?:[-+]?(?:[0-9][0-9_]*)\\.[0-9_]*(?:[eE][-+][0-9]+)?" ++
      "|\\.[0-9][0-9_]*(?:[eE][-+][0-9]+)?" ++
      "|[-+]?[0-9][0-9_]*(?::[0-5]?[0-9])+\\.[0-9_]*" ++
      "|[-+]?\\.(?:inf|Inf|INF)" ++
      "|\\.(?:nan|NaN|NAN))$"
  tag := .float

def intForm : Form where
  starts := "-+0123456789".toList
  source :=
    "^(?:[-+]?0b[0-1_]+" ++
      "|[-+]?0[0-7_]+" ++
      "|[-+]?(?:0|[1-9][0-9_]*)" ++
      "|[-+]?0x[0-9a-fA-F_]+" ++
      "|[-+]?[1-9][0-9_]*(?::[0-5]?[0-9])+)$"
  tag := .int

def mergeForm : Form where
  starts := ['<']
  source := "^(?:<<)$"
  tag := .merge

def nullForm : Form where
  starts := ['~', 'n', 'N']
  source := "^(?:~|null|Null|NULL)$"
  tag := .null

def timestampForm : Form where
  starts := "0123456789".toList
  source :=
    "^(?:[0-9][0-9][0-9][0-9]-[0-9][0-9]-[0-9][0-9]" ++
      "|[0-9][0-9][0-9][0-9]-[0-9][0-9]?-[0-9][0-9]?" ++
      "(?:[Tt]|[ \\t]+)[0-9][0-9]?:[0-9][0-9]:[0-9][0-9](?:\\.[0-9]*)?" ++
      "(?:[ \\t]*(?:Z|[-+][0-9][0-9]?(?::[0-9][0-9])?))?)$"
  tag := .timestamp

def valueForm : Form where
  starts := ['=']
  source := "^(?:=)$"
  tag := .value

/-- The marks of other nodes are no strings. -/
def markForm : Form where
  starts := ['!', '&', '*']
  source := "^(?:!|&|\\*)$"
  tag := .unknown

def forms : List Form :=
  [boolForm, floatForm, intForm, mergeForm, nullForm, timestampForm, valueForm, markForm]

/-- The forms with their expressions read. -/
def readForms : List (Form × Expr) :=
  forms.filterMap fun f => ((Pattern.read f.source false).toOption).map fun r => (f, r.expr)

/-- The tag that a text implies; an empty one stands for nothing. -/
def implied (text : List Char) : Tag :=
  match text with
  | [] => .null
  | c :: _ =>
    let found := readForms.find? fun (f, e) =>
      f.starts.contains c && (e.matchHere? false (Place.start text)).isSome
    (found.map (·.1.tag)).getD .str

end Tag

end BundleAudit.Yaml

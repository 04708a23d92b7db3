import BundleAudit.Detection
import BundleAudit.Profile.Basic
import BundleAudit.Rule.Basic

/-!
# Dynamic evaluation

Calls that evaluate text as code break a content security policy. They are excused where the script
around them shows a helper of a build tool, a quoted mention, documentation or a message.
-/

namespace BundleAudit.DynamicEval

open BundleAudit.Regex

def ruleName : String := "eval-security"

private def text (s : String) : Expr := .literal s.toList

/-- A text without regard to case. -/
private def folded (s : String) : Expr := .literalFolded .full s.toList

private def foldedOneOf (cs : List Char) : Expr :=
  .one (.ofItems .full false (cs.map fun c => .range c.toNat c.toNat))

private def manyIn (cs : List Char) (negated : Bool) : Expr :=
  .many (.ofItems .full negated (cs.map fun c => .range c.toNat c.toNat))

/-- Anything within a line. -/
private def anything : Expr := .many .inLine

/-- Blanks and quotes, in any number. -/
private def padding : Expr :=
  .many ⟨[.category .blank false false, .range 0x22 0x22, .range 0x27 0x27], false, .none⟩

/-- The name of the evaluator in brackets. -/
private def bracketed : List Expr := [text "[", padding, text "eval", padding, text "]"]

def detectors : List Detector :=
  [{ expr := .sequence [.edge, text "eval", .many .blank, text "("]
     severity := .high
     description := "Direct eval() call" },
   { expr := .sequence [.edge, text "new", .many1 .blank, text "Function", .many .blank, text "("]
     severity := .high
     description := "Function constructor call" },
   { expr := .sequence bracketed
     severity := .medium
     description := "Bracket notation eval access" },
   { expr := .sequence [text ".eval", .many .blank, text "("]
     severity := .medium
     description := "Property-based eval call" },
   { expr := .sequence (text "window" :: bracketed)
     severity := .high
     description := "Window eval access" },
   { expr := .sequence (text "globalThis" :: bracketed)
     severity := .high
     description := "GlobalThis eval access" }]

/-- The name of the evaluator between two quotes of one kind. -/
def quotedMention (quote : Char) : Expr :=
  .sequence [.literal [quote], .many (.noneOf [quote]), text "eval", .many (.noneOf [quote]),
    .literal [quote]]

/-- The name of the evaluator in a quoted text behind a label, without regard to case. -/
private def labelled (label : String) : Expr :=
  .sequence [folded label,
    .many (.ofItems .full false [.range 0x3a 0x3a, .category .blank false false]),
    foldedOneOf ['\'', '"'], manyIn ['\'', '"'] true, folded "eval"]

/-- Words in this order on one line, without regard to case. -/
private def inOrder (words : List String) : Expr := .sequence ((words.map folded).intersperse anything)

/-- The quoted mentions. -/
def quotedMentions : List Expr := ['"', '\'', '\x60'].map quotedMention

/-- What excuses a finding besides quoted mentions and safe identifiers. -/
def otherSafe : List Expr × List Expr :=
  ([folded "Function.toString.call", folded "[native code]", folded "_isNativeFunction",
    .sequence [folded "babel", foldedOneOf ['-', '_'], folded "helper"],
    .sequence [folded "webpack", foldedOneOf ['-', '_'], folded "helper"]],
   [labelled "description", labelled "comment", labelled "note", labelled "warning",
    inOrder ["error", "message", "eval"], inOrder ["cannot", "use", "eval"],
    inOrder ["eval", "not", "allowed"], inOrder ["eval", "forbidden"],
    inOrder ["externals", "eval"], inOrder ["exclude", "eval"], inOrder ["ignore", "eval"]])

/-- What excuses a finding: the safe identifiers and the export name, without regard to case, and the
phrases that do not depend on the profile. -/
def safe (p : Profile) : List Expr :=
  ((p.list .evalSafeIdentifiers ++ [p.text .exportName]).map folded) ++ otherSafe.1 ++ quotedMentions ++
    otherSafe.2

/-- The rule against dynamic evaluation. -/
def rule (p : Profile) : Rule where
  name := ruleName
  description := "CSP-compliant eval/Function security validation"
  severity := .high
  appliesTo := p.list .evalAppliesTo
  evaluate cleaned raw file := .ok (detect cleaned raw ruleName file detectors (safe p))

end BundleAudit.DynamicEval

import BundleAudit.Profile.Basic
import BundleAudit.Regex.Matching
import BundleAudit.Rule.Basic

/-!
# Global exports

A packaged script has to publish its export name on a global root. The check fails when none of the
forms of such an assignment is found.
-/

namespace BundleAudit.GlobalExport

open BundleAudit.Regex

def ruleName : String := "global-export-presence"

private def quote : CharClass := .oneOf ['"', '\'']

private def letterFirst : List ClassItem :=
  [.range 0x61 0x7a, .range 0x41 0x5a, .range 0x5f 0x5f, .range 0x24 0x24]

/-- The characters that start an identifier of a minified script. -/
def identifierStart : CharClass := ⟨letterFirst, false, .none⟩

/-- The characters that continue an identifier. -/
def identifierPart : CharClass :=
  ⟨[.category .word false false, .range 0x24 0x24], false, .none⟩

/-- A point, or an opening bracket with a quote. -/
def accessOpening : Expr :=
  .alt (.literal ['.']) (.seq (.literal ['[']) (.one quote))

/-- A quote with a closing bracket, if they are there. -/
def accessClosing : Expr := .optional (.seq (.one quote) (.literal [']']))

/-- The roots of a wrapper: the global objects, and any single letter. -/
def wrapperRoot : Expr :=
  .choice ((["globalThis", "window", "self", "root", "this"].map fun r => .literal r.toList) ++
    [.one identifierStart])

/-- An access to the name on one of the roots. -/
def onRoot (roots : List String) (name : List Char) : Expr :=
  .sequence [.edge, .choice (roots.map fun r => .literal r.toList), accessOpening, .literal name,
    accessClosing]

/-- An access to the name on the exports of a module. -/
def onExports (name : List Char) : Expr :=
  .sequence [.edge, .literal "exports".toList, accessOpening, .literal name, accessClosing]

/-- An assignment to the name at the end of a path of properties. -/
def wrapperAssignment (name : List Char) : Expr :=
  .sequence [wrapperRoot,
    .loop (.sequence [.literal ['.'], .one identifierStart, .many identifierPart]) 0 none .greedy,
    .one (.oneOf ['.', '[']), .maybe quote, .literal name, .maybe quote, .maybe (.char ']'),
    .many .blank, .literal ['=']]

/-- An assignment of a named value to the name as a property. -/
def aliasAssignment (name : List Char) : Expr :=
  .sequence [.edge, .one identifierStart, .many identifierPart, accessOpening, .literal name,
    accessClosing, .many .blank, .literal ['='], .many .blank, .one identifierStart]

/-- The forms in which a name can be published. -/
def forms (name : List Char) (roots : List String) : List Expr :=
  (if roots.isEmpty then [] else [onRoot roots name]) ++
    [onExports name, wrapperAssignment name, aliasAssignment name]

def isPublished (name : List Char) (roots : List String) (cleaned : List Char) : Bool :=
  (forms name roots).any (·.occursIn cleaned)

def missing (name file : String) : Violation where
  rule := ruleName
  severity := .high
  message := s!"Global {name} assignment not found in UMD wrapper. Expected patterns like: globalThis.{name}, window[\"{name}\"], root.{name}, or exports.{name}"
  file := file

/-- The rule that an export name is published. -/
def rule (p : Profile) : Rule where
  name := ruleName
  description := s!"Global {p.text .exportName} exposure validation"
  severity := .high
  appliesTo := p.list .exportAppliesTo
  evaluate cleaned _ file :=
    if isPublished (p.text .exportName).toList (p.list .exportRoots) cleaned then .ok []
    else .ok [missing (p.text .exportName) file]

end BundleAudit.GlobalExport

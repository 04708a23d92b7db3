import BundleAudit.Detection
import BundleAudit.Profile.Basic
import BundleAudit.Regex.Reader
import BundleAudit.Rule.Basic
import BundleAudit.Text.LetterCase

/-!
# Excluded dependencies

Restricted builds must not bundle certain modules. References to such a module are looked for in eight
forms and excused where the script around them only talks about the module.
-/

namespace BundleAudit.DependencyExclusion

open BundleAudit.Regex BundleAudit.Text

def ruleName : String := "dependency-exclusion"

private def text (s : String) : Expr := .literal s.toList

private def quote : Expr := .one (.oneOf ['"', '\''])

private def blanks : Expr := .many .blank

/-- The methods of a validator. -/
def methods : Expr :=
  .choice (["compile", "validate", "addSchema", "addFormat", "removeSchema", "getSchema",
    "validateSchema"].map text)

/-- The name of the class that a module is taken to define: the module's name, capitalised. -/
def className (dependency : List Char) : List Char := capitalize dependency

private def quotedName (dependency : List Char) : List Expr := [quote, .literal dependency, quote]

/-- The forms of a reference to an excluded module. -/
def detectors (dependency : List Char) : List Detector :=
  let dep := Expr.literal dependency
  let cls := Expr.literal (className dependency)
  let name := String.ofList dependency
  let classText := String.ofList (escape (className dependency))
  [{ expr := .sequence ([.edge, text "require", blanks, text "(", blanks] ++ quotedName dependency ++
       [blanks, text ")"])
     severity := .high
     description := s!"CommonJS require of {name} module" },
   { expr := .sequence ([.edge, text "import", .edge, .many .inLine, .edge, text "from", blanks] ++
       quotedName dependency)
     severity := .high
     description := s!"ES6 import from {name} module" },
   { expr := .sequence ([.edge, text "import", blanks, text "(", blanks] ++ quotedName dependency ++
       [blanks, text ")"])
     severity := .high
     description := s!"Dynamic import of {name} module" },
   { expr := .sequence [.edge, text "new", .many1 .blank, cls, .edge, blanks, text "("]
     severity := .high
     description := s!"{classText} constructor instantiation" },
   { expr := .sequence [.edge, dep, text ".", methods, .edge]
     severity := .high
     description := s!"{name} instance method call" },
   { expr := .sequence [.edge, cls, text ".", methods, .edge]
     severity := .high
     description := s!"{classText} static method call" },
   { expr := .sequence [.edge, .alt dep cls, text ".default", .edge]
     severity := .medium
     description := s!"{name} default export access" },
   { expr := .sequence ([.edge] ++ quotedName dependency ++
       [.edge, .notFollowedBy (.seq blanks (.one (.oneOf [':', '-', ','])))])
     severity := .medium
     description := s!"Standalone {name} string literal" }]

/-! ## Harmless mentions -/

/-- A part of a phrase: a text, anything within a line, any number of separators, one separator, one
point that may be missing, any number of characters other than a double quote, or the name of the
module. -/
inductive Part
  | words (s : String)
  | anything
  | separators
  | separator
  | point
  | unquoted
  | dependency

private def separatorItems : List ClassItem :=
  [.category .blank false false, .range 0x5f 0x5f, .range 0x2d 0x2d]

/-- The expression of a part, without regard to case. -/
def Part.expr (dependency : List Char) : Part → Expr
  | .words s => .literalFolded .full s.toList
  | .anything => .many .inLine
  | .separators => .many (.ofItems .full false separatorItems)
  | .separator => .one (.ofItems .full false separatorItems)
  | .point => .maybe (.code .full 0x2e)
  | .unquoted => .many (.ofItems .full true [.range 0x22 0x22])
  | .dependency => .literalFolded .full dependency

/-- A word, separators and the module. -/
private def before (word : String) : List Part := [.words word, .separators, .dependency]

/-- Words in this order on one line, then the module. -/
private def leading (words : List String) : List Part :=
  (words.flatMap fun w => [.words w, .anything]) ++ [.dependency]

/-- The module in a quoted text behind a label. -/
private def labelled (label : String) : List Part :=
  [.words "\"", .unquoted, .words label, .unquoted, .dependency, .unquoted, .words "\""]

/-- The phrases under which a mention of a module is documentation and not use. -/
def phrases : List (List Part) :=
  [[.dependency, .separator, .words "compatible"],
   before "without", before "no", before "disable", before "exclude", before "fallback",
   before "stub", before "mock",
   leading ["provides", "validation", "without"],
   leading ["alternative", "to"],
   leading ["instead", "of"],
   leading ["rather", "than"],
   leading ["replaces"],
   leading ["externals"],
   leading ["webpack", "external"],
   leading ["bundle", "without"],
   leading ["exclude", "from", "bundle"],
   leading ["error"] ++ [.anything, .words "not", .anything, .words "found"],
   leading ["warning"] ++ [.anything, .words "missing"],
   leading ["cannot", "load"],
   [.dependency, .anything, .words "not", .anything, .words "available"],
   [.dependency, .anything, .words "unavailable"],
   leading ["like"],
   leading ["similar", "to"],
   leading ["compared", "to"],
   leading ["versus"],
   [.words "vs", .point, .anything, .dependency],
   labelled "description", labelled "note", labelled "comment", labelled "warning",
   leading ["eslint"], leading ["prettier"], leading ["babel"], leading ["typescript"],
   leading ["jest"], leading ["vitest"]]

/-- What excuses a reference to a module. -/
def safe (dependency : List Char) : List Expr :=
  phrases.map fun parts => .sequence (parts.map (·.expr dependency))

/-- The violations for one module. -/
def check (cleaned raw : List Char) (file dependency : String) : List Violation :=
  detect cleaned raw ruleName file (detectors dependency.toList) (safe dependency.toList)

private def listed (dependencies : List String) : String :=
  let all := ", ".intercalate dependencies
  if all.isEmpty then "nothing" else all

/-- The rule against references to the excluded modules. -/
def rule (p : Profile) : Rule where
  name := ruleName
  description := s!"Restricted build exclusion of {listed (p.list .excludedDependencies)}"
  severity := .high
  appliesTo := p.list .dependencyAppliesTo
  evaluate cleaned raw file := .ok ((p.list .excludedDependencies).flatMap (check cleaned raw file))

end BundleAudit.DependencyExclusion

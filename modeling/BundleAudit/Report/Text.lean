import BundleAudit.Console.Markup
import BundleAudit.Console.Table
import BundleAudit.Decimal.Places
import BundleAudit.FileSystem.Path
import BundleAudit.Report.Hints

/-!
# The console report

The report for people: a summary, a table of the rules, a table of the violations of each rule, the
files that could not be read, advice, and the verdict. The names of rules are marked up texts; messages,
file names and advice are not.
-/

namespace BundleAudit.Report

open BundleAudit.Console BundleAudit.FileSystem

/-- A part of a console report. -/
inductive Block
  | text (s : List Char)
  | table (t : Table)

/-- The lines of a part in a console. -/
def Block.draw (console : Nat) : Block → List (List Char)
  | .text s => if console == 0 then [] else wrap .none .fold console s
  | .table t => t.draw console

/-- The text of the parts, with a line end behind each line. -/
def drawBlocks (console : Nat) (blocks : List Block) : List Char :=
  (blocks.flatMap (·.draw console)).flatMap fun line => line ++ ['\n']

private def textOf (s : String) : List Char := dropControls s.toList

private def number (n : Nat) : List Char := (toString n).toList

private def column (header : String) (justify : Justify) : Column := ⟨header.toList, justify, none⟩

def summaryTable (r : Report) : Table where
  framed := false
  columns := [column "Metric" .left, column "Value" .right]
  rows :=
    [["Passed".toList, number r.passed], ["Warnings".toList, number r.warnings],
      ["Failed".toList, number r.failed], ["Files".toList, number r.filesScanned],
      ["Time".toList, Decimal.fixedText 2 r.elapsed ++ ['s']]]

def rulesTable (renderer : Renderer) (counts : List RuleCount) : Except MarkupError Table := do
  let rows ← counts.mapM fun c => do
    return [← renderer.render c.rule.toList, number c.passed, number c.warning, number c.failed]
  return {
    title := some "Rules".toList
    columns := [column "Rule" .left, column "Passed" .right, column "Warnings" .right,
      column "Failed" .right]
    rows := rows }

private def lineText (line : Option Int) : List Char :=
  match line with
  | some n => if n == 0 then [] else (toString n).toList
  | none => []

/-- The violations of one rule. -/
def violationsTable (renderer : Renderer) (rule : String) (vs : List Violation) : Except MarkupError Table := do
  let title ← renderer.render s!"Violations: {rule}".toList
  return {
    title := some title
    columns := [⟨"Severity".toList, .left, some 8⟩, column "File" .left, column "Line" .right,
      column "Message" .left]
    rows := vs.map fun v =>
      [v.severity.name.toList, textOf (baseName v.file), lineText v.line, textOf v.message] }

def faultsTable (faults : List FileFault) : Table where
  title := some "Read Faults".toList
  columns := [column "File" .left, column "Error" .left]
  rows := faults.map fun f => [textOf f.file, textOf f.message]

/-- The parts of the console report. -/
def blocks (r : Report) (renderer : Renderer) (strict : Bool) : Except MarkupError (List Block) := do
  let counts := r.ruleCounts
  let rules ← if counts.isEmpty then pure [] else do pure [Block.table (← rulesTable renderer counts)]
  let sorted := r.sortedViolations
  let found ← (sortedNames (sorted.map (·.rule))).mapM fun rule =>
    Block.table <$> violationsTable renderer rule (sorted.filter (·.rule == rule))
  let hints := r.hints
  let advice :=
    if hints.isEmpty then []
    else .text "Recommended actions:".toList :: hints.map fun h => .text (textOf s!"  • {h}")
  let verdict :=
    if r.isSuccess strict then "PASS All assertions passed" else "FAIL Some assertions failed"
  return [.text "Bundle Assertion Report".toList, .table r.summaryTable] ++ rules ++ found ++
    (if r.faults.isEmpty then [] else [.table (faultsTable r.faults)]) ++ advice ++
    [.text verdict.toList]

/-- The console report in a console of a width. -/
def consoleText (r : Report) (renderer : Renderer) (strict : Bool) (width : Nat) : Except MarkupError (List Char) :=
  (r.blocks renderer strict).map (drawBlocks width)

end BundleAudit.Report

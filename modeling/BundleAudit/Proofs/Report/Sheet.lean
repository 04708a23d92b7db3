import BundleAudit.Report.Text

/-!
# The structure of console reports

What a console report holds is laid down before any marked up text in it is rendered: its sheet, a list of
texts and grids (`Report.sheet`). Every report has one. Rendering the marked up texts makes the blocks that are
drawn, and may fail (`Report.blocks_eq`).
-/

namespace BundleAudit.Report

open BundleAudit.Console BundleAudit.FileSystem

/-! ## Texts and grids -/

/-- A text that is marked up, or one that is shown as it is. -/
inductive Cell
  | marked (s : String)
  | plain (s : List Char)
deriving DecidableEq, Repr

namespace Cell

def ofNat (n : Nat) : Cell := .plain (toString n).toList

def render (renderer : Renderer) : Cell → Except MarkupError (List Char)
  | .marked s => renderer.render s.toList
  | .plain s => .ok s

end Cell

/-- A table whose marked up texts have not been rendered. -/
structure Grid where
  title : Option Cell := none
  columns : List Column
  rows : List (List Cell)
  framed : Bool := true

namespace Grid

def headers (g : Grid) : List String := g.columns.map fun c => String.ofList c.header

def render (renderer : Renderer) (g : Grid) : Except MarkupError Table := do
  let title ← g.title.mapM (Cell.render renderer)
  let rows ← g.rows.mapM (·.mapM (Cell.render renderer))
  return { title := title, columns := g.columns, rows := rows, framed := g.framed }

end Grid

/-- A part of a sheet. -/
inductive Part
  | text (s : List Char)
  | grid (g : Grid)

def Part.render (renderer : Renderer) : Part → Except MarkupError Block
  | .text s => .ok (.text s)
  | .grid g => .table <$> g.render renderer

/-! ## Sheets -/

def summaryGrid (r : Report) : Grid where
  framed := false
  columns := [⟨"Metric".toList, .left, none⟩, ⟨"Value".toList, .right, none⟩]
  rows :=
    [[.plain "Passed".toList, .ofNat r.passed], [.plain "Warnings".toList, .ofNat r.warnings],
      [.plain "Failed".toList, .ofNat r.failed], [.plain "Files".toList, .ofNat r.filesScanned],
      [.plain "Time".toList, .plain (Decimal.fixedText 2 r.elapsed ++ ['s'])]]

def rulesGrid (counts : List RuleCount) : Grid where
  title := some (.plain "Rules".toList)
  columns := [⟨"Rule".toList, .left, none⟩, ⟨"Passed".toList, .right, none⟩, ⟨"Warnings".toList, .right, none⟩,
    ⟨"Failed".toList, .right, none⟩]
  rows := counts.map fun c => [.marked c.rule, .ofNat c.passed, .ofNat c.warning, .ofNat c.failed]

/-- The text of a line number; zero is not shown. -/
def shownLine : Option Int → List Char
  | some n => if n == 0 then [] else (toString n).toList
  | none => []

/-- What a table shows of a violation. -/
def violationRow (v : Violation) : List (List Char) :=
  [v.severity.name.toList, dropControls (baseName v.file).toList, shownLine v.line, dropControls v.message.toList]

def violationsGrid (rule : String) (vs : List Violation) : Grid where
  title := some (.marked s!"Violations: {rule}")
  columns := [⟨"Severity".toList, .left, some 8⟩, ⟨"File".toList, .left, none⟩, ⟨"Line".toList, .right, none⟩,
    ⟨"Message".toList, .left, none⟩]
  rows := vs.map fun v => (violationRow v).map .plain

def faultRow (f : FileFault) : List (List Char) := [dropControls f.file.toList, dropControls f.message.toList]

def faultsGrid (faults : List FileFault) : Grid where
  title := some (.plain "Read Faults".toList)
  columns := [⟨"File".toList, .left, none⟩, ⟨"Error".toList, .left, none⟩]
  rows := faults.map fun f => (faultRow f).map .plain

/-- The line that ends a report. -/
def verdictLine (success : Bool) : String :=
  if success then "PASS All assertions passed" else "FAIL Some assertions failed"

/-- The advice of a report, line by line. -/
def adviceLines (hints : List String) : List (List Char) :=
  if hints.isEmpty then []
  else "Recommended actions:".toList :: hints.map fun h => dropControls s!"  • {h}".toList

/-- The grid of the rules, if there are any. -/
def rulesGrids (r : Report) : List Grid := if r.ruleCounts.isEmpty then [] else [rulesGrid r.ruleCounts]

/-- The grids of the violations of each rule. -/
def violationsGrids (r : Report) : List Grid :=
  (sortedNames (r.sortedViolations.map (·.rule))).map fun rule =>
    violationsGrid rule (r.sortedViolations.filter (·.rule == rule))

/-- The grid of the faults, if there are any. -/
def faultsGrids (r : Report) : List Grid := if r.faults.isEmpty then [] else [faultsGrid r.faults]

def sheet (r : Report) (strict : Bool) : List Part :=
  [.text "Bundle Assertion Report".toList] ++
    ([r.summaryGrid] ++ r.rulesGrids ++ r.violationsGrids ++ r.faultsGrids).map .grid ++
    (adviceLines r.hints).map .text ++ [.text (verdictLine (r.isSuccess strict)).toList]

/-! ## Rendering -/

section
variable (renderer : Renderer)

theorem mapM_render_plain {α : Type} (row : α → List (List Char)) (xs : List α) :
    (xs.map fun x => (row x).map Cell.plain).mapM (·.mapM (Cell.render renderer)) = .ok (xs.map row) := by
  have each : ∀ x, ((row x).map Cell.plain).mapM (Cell.render renderer) = .ok (row x) := by
    intro x
    rw [List.mapM_map]
    exact List.mapM_pure.trans (congrArg _ (List.map_id _))
  rw [List.mapM_map]
  exact (congrArg xs.mapM (funext each)).trans List.mapM_pure

theorem render_rulesGrid (counts : List RuleCount) : (rulesGrid counts).render renderer = rulesTable renderer counts := by
  unfold rulesTable Grid.render rulesGrid
  rw [List.mapM_map]
  rfl

theorem render_violationsGrid (rule : String) (vs : List Violation) :
    (violationsGrid rule vs).render renderer = violationsTable renderer rule vs := by
  unfold violationsTable Grid.render violationsGrid
  rw [mapM_render_plain]
  simp only [Option.mapM_some, Cell.render]
  cases renderer.render (s!"Violations: {rule}").toList <;> rfl

theorem render_faultsGrid (faults : List FileFault) : (faultsGrid faults).render renderer = .ok (faultsTable faults) := by
  unfold Grid.render faultsGrid
  rw [mapM_render_plain]
  rfl

theorem mapM_render_text (lines : List (List Char)) :
    (lines.map Part.text).mapM (Part.render renderer) = .ok (lines.map Block.text) := by
  rw [List.mapM_map]
  exact List.mapM_pure

theorem mapM_render_rulesGrids (r : Report) :
    (r.rulesGrids.map Part.grid).mapM (Part.render renderer) =
      if r.ruleCounts.isEmpty then pure []
      else (rulesTable renderer r.ruleCounts >>= fun table => pure [.table table]) := by
  rw [← render_rulesGrid]
  unfold rulesGrids
  split
  · rfl
  · cases rendered : (rulesGrid r.ruleCounts).render renderer <;> simp [Part.render, rendered]

theorem mapM_render_violationsGrids (r : Report) :
    (r.violationsGrids.map Part.grid).mapM (Part.render renderer) =
      (sortedNames (r.sortedViolations.map (·.rule))).mapM fun rule =>
        Block.table <$> violationsTable renderer rule (r.sortedViolations.filter (·.rule == rule)) := by
  unfold violationsGrids
  simp only [List.mapM_map, Function.comp_def, Part.render, render_violationsGrid]

theorem mapM_render_faultsGrids (r : Report) :
    (r.faultsGrids.map Part.grid).mapM (Part.render renderer) =
      .ok (if r.faults.isEmpty then [] else [.table (faultsTable r.faults)]) := by
  unfold faultsGrids
  split
  · rfl
  · simp only [List.map_cons, List.map_nil, List.mapM_cons, Part.render, render_faultsGrid]
    rfl

theorem map_advice (r : Report) :
    (adviceLines r.hints).map Block.text =
      if r.hints.isEmpty then []
      else .text "Recommended actions:".toList ::
        r.hints.map fun h => .text (dropControls (s!"  • {h}").toList) := by
  unfold adviceLines
  cases r.hints <;> simp

/-- Every part of a report is a part of its sheet, rendered. -/
theorem blocks_eq (r : Report) (strict : Bool) : r.blocks renderer strict = (r.sheet strict).mapM (Part.render renderer) := by
  have title : [Part.text "Bundle Assertion Report".toList].mapM (Part.render renderer) =
      .ok [.text "Bundle Assertion Report".toList] := rfl
  have summary : ([r.summaryGrid].map Part.grid).mapM (Part.render renderer) = .ok [.table r.summaryTable] := rfl
  have verdict : [Part.text (verdictLine (r.isSuccess strict)).toList].mapM (Part.render renderer) =
      .ok [.text (verdictLine (r.isSuccess strict)).toList] := rfl
  unfold sheet blocks
  simp only [List.map_append, List.mapM_append, title, summary, mapM_render_rulesGrids,
    mapM_render_violationsGrids, mapM_render_faultsGrids, mapM_render_text, map_advice, verdict]
  generalize ((sortedNames (r.sortedViolations.map (·.rule))).mapM fun rule =>
    Block.table <$> violationsTable renderer rule (r.sortedViolations.filter (·.rule == rule))) = shown
  cases r.ruleCounts.isEmpty with
  | true => cases shown <;> rfl
  | false => cases rulesTable renderer r.ruleCounts <;> cases shown <;> rfl

end

end BundleAudit.Report

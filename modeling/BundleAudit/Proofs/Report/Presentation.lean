import BundleAudit.Proofs.Report.Accounting
import BundleAudit.Proofs.Report.Sheet
import BundleAudit.Proofs.Report.StableSort
import BundleAudit.Report.Document

/-!
# Two presentations of a report

The document for machines and the sheet for people are made from a report in two ways. One lists the outcomes
and all violations, the other counts the outcomes and groups the violations by rule. They present the same
report (`Report.presents_same`).
-/

namespace BundleAudit

/-! ## Reading documents -/

namespace Json

def string? (name : String) (object : Json) : Option String :=
  match object.field? name with
  | some (.str s) => some s
  | _ => none

/-- A number of the summary of a report document. -/
def summary? (name : String) (document : Json) : Option Json := (document.field? "summary").bind (·.field? name)

/-- The violations of a report document. -/
def violations (document : Json) : List Json := ((document.field? "violations").map items).getD []

/-- The faults of a report document. -/
def faults (document : Json) : List Json := ((document.field? "faults").map items).getD []

/-- The number of tasks of a rule that have a status. -/
def countTasks (document : Json) (rule status : String) : Nat :=
  document.tasks.countP fun task => task.string? "task" == some rule && task.string? "status" == some status

/-- The line of a violation of a document, which may be null. -/
def line? (violation : Json) : Option (Option Int) :=
  match violation.field? "line" with
  | some (.int n) => some (some n)
  | some .null => some none
  | _ => none

end Json

namespace Report

open BundleAudit.Console BundleAudit.FileSystem

/-! ## What a sheet shows of a document -/

/-- What a table shows of a violation of a document. -/
def violationRow? (violation : Json) : Option (List Cell) := do
  let severity ← violation.string? "severity"
  let file ← violation.string? "file"
  let line ← violation.line?
  let message ← violation.string? "message"
  return [.plain severity.toList, .plain (dropControls (baseName file).toList), .plain (shownLine line),
    .plain (dropControls message.toList)]

/-- What a table shows of a fault of a document. -/
def faultRow? (fault : Json) : Option (List Cell) := do
  let file ← fault.string? "file"
  let message ← fault.string? "message"
  return [.plain (dropControls file.toList), .plain (dropControls message.toList)]

/-- What a table shows of the tasks of a rule in a document. -/
def countsRow (document : Json) (rule : String) : List Cell :=
  [.marked rule, .ofNat (document.countTasks rule "passed"), .ofNat (document.countTasks rule "warning"),
    .ofNat (document.countTasks rule "failed")]

def Part.grid? : Part → Option Grid
  | .text _ => none
  | .grid g => some g

/-- The grids of a sheet under certain headers. -/
def gridsUnder (headers : List String) (sheet : List Part) : List Grid :=
  (sheet.filterMap Part.grid?).filter fun g => g.headers == headers

def summaryHeaders : List String := ["Metric", "Value"]

def ruleHeaders : List String := ["Rule", "Passed", "Warnings", "Failed"]

def violationHeaders : List String := ["Severity", "File", "Line", "Message"]

def faultHeaders : List String := ["File", "Error"]

/-- The sheet and the document present the same report. -/
structure Presents (r : Report) (sheet : List Part) (document : Json) : Prop where
  numbers : ∃ passed warnings failed : Nat,
    document.summary? "passed" = some (.int passed) ∧ document.summary? "warnings" = some (.int warnings) ∧
      document.summary? "failed" = some (.int failed) ∧
      (gridsUnder summaryHeaders sheet).map (·.rows.take 3) =
        [[[.plain "Passed".toList, .ofNat passed], [.plain "Warnings".toList, .ofNat warnings],
          [.plain "Failed".toList, .ofNat failed]]]
  verdict : ∀ success, .text (verdictLine success).toList ∈ sheet ↔ document.verdict? = some (.bool success)
  /-- One row for each rule that has tasks, in ascending order. -/
  rules : ∃ names : List String, names.Pairwise (· < ·) ∧
    (∀ name, name ∈ names ↔ ∃ task ∈ document.tasks, task.string? "task" = some name) ∧
    (gridsUnder ruleHeaders sheet).map (·.rows) =
      if names.isEmpty then [] else [names.map (countsRow document)]
  /-- One grid for each rule that has violations, in ascending order. -/
  findings : ∃ names : List String, names.Pairwise (· < ·) ∧
    (∀ name, name ∈ names ↔ ∃ v ∈ document.violations, v.string? "rule" = some name) ∧
    (gridsUnder violationHeaders sheet).map (fun g => (g.title, g.rows.map some)) =
      names.map fun name => (some (.marked s!"Violations: {name}"),
        (document.violations.filter (·.string? "rule" == some name)).map violationRow?)
  faults : (gridsUnder faultHeaders sheet).map (·.rows.map some) =
    if document.faults.isEmpty then [] else [document.faults.map faultRow?]
  /-- All grids of violations together show each violation of the document once. -/
  violations : ((gridsUnder violationHeaders sheet).flatMap (·.rows.map some)).Perm
    (document.violations.map violationRow?)
  /-- The document lists all that was recorded. -/
  lists : document.tasks.Perm (r.outcomes.map Outcome.toJson) ∧
    document.violations.Perm (r.violations.map Violation.toJson) ∧
    document.faults = r.faults.map FileFault.toJson

/-! ## The grids of a sheet -/

section
variable (r : Report) (strict : Bool)

theorem grids_sheet : (r.sheet strict).filterMap Part.grid? =
    [r.summaryGrid] ++ r.rulesGrids ++ r.violationsGrids ++ r.faultsGrids := by
  have texts : ∀ lines : List (List Char), (lines.map Part.text).filterMap Part.grid? = [] := fun lines => by
    rw [List.filterMap_map]
    exact List.filterMap_eq_nil_iff.2 fun _ _ => rfl
  have grids : ∀ gs : List Grid, (gs.map Part.grid).filterMap Part.grid? = gs := fun gs => by
    rw [List.filterMap_map]
    exact List.filterMap_some
  have title : [Part.text "Bundle Assertion Report".toList].filterMap Part.grid? = [] := rfl
  have verdict : [Part.text (verdictLine (r.isSuccess strict)).toList].filterMap Part.grid? = [] := rfl
  unfold sheet
  simp only [List.filterMap_append, title, grids, texts, verdict, List.nil_append, List.append_nil]

theorem filter_headers {gs : List Grid} {own : List String} (same : ∀ g ∈ gs, g.headers = own)
    (headers : List String) : gs.filter (·.headers == headers) = if own == headers then gs else [] := by
  by_cases asked : own == headers
  · rw [if_pos asked]
    exact List.filter_eq_self.2 fun g mem => by rw [same g mem, asked]
  · rw [if_neg asked]
    exact List.filter_eq_nil_iff.2 fun g mem => by rwa [same g mem]

/-- Each kind of grid has headers of its own. -/
theorem gridsUnder_sheet (headers : List String) :
    gridsUnder headers (r.sheet strict) =
      (if summaryHeaders == headers then [r.summaryGrid] else []) ++
        (if ruleHeaders == headers then r.rulesGrids else []) ++
        (if violationHeaders == headers then r.violationsGrids else []) ++
        (if faultHeaders == headers then r.faultsGrids else []) := by
  have summary : ∀ g ∈ [r.summaryGrid], g.headers = summaryHeaders := List.forall_mem_singleton.2 rfl
  have rules : ∀ g ∈ r.rulesGrids, g.headers = ruleHeaders := by
    unfold rulesGrids
    split
    · exact List.forall_mem_nil _
    · exact List.forall_mem_singleton.2 rfl
  have violations : ∀ g ∈ r.violationsGrids, g.headers = violationHeaders := by
    intro g mem
    obtain ⟨rule, -, rfl⟩ := List.mem_map.1 mem
    rfl
  have faults : ∀ g ∈ r.faultsGrids, g.headers = faultHeaders := by
    unfold faultsGrids
    split
    · exact List.forall_mem_nil _
    · exact List.forall_mem_singleton.2 rfl
  unfold gridsUnder
  rw [grids_sheet, List.filter_append, List.filter_append, List.filter_append, filter_headers summary,
    filter_headers rules, filter_headers violations, filter_headers faults]

theorem gridsUnder_summary : gridsUnder summaryHeaders (r.sheet strict) = [r.summaryGrid] :=
  r.gridsUnder_sheet strict _

theorem gridsUnder_rules : gridsUnder ruleHeaders (r.sheet strict) = r.rulesGrids := by
  rw [gridsUnder_sheet]
  exact (List.append_nil _).trans (List.append_nil _)

theorem gridsUnder_violations : gridsUnder violationHeaders (r.sheet strict) = r.violationsGrids := by
  rw [gridsUnder_sheet]
  exact List.append_nil _

theorem gridsUnder_faults : gridsUnder faultHeaders (r.sheet strict) = r.faultsGrids :=
  r.gridsUnder_sheet strict _

theorem head?_advice {line : List Char} (mem : line ∈ adviceLines r.hints) :
    line.head? = some 'R' ∨ line.head? = some ' ' := by
  unfold adviceLines at mem
  split at mem
  · exact absurd mem List.not_mem_nil
  · rcases List.mem_cons.1 mem with rfl | mem
    · exact .inl rfl
    · obtain ⟨hint, -, rfl⟩ := List.mem_map.1 mem
      refine .inr ?_
      rw [String.toList_append]
      rfl

/-- The texts of a sheet are its title, the advice and the verdict. -/
theorem text_mem_sheet {line : List Char} :
    Part.text line ∈ r.sheet strict ↔ line = "Bundle Assertion Report".toList ∨ line ∈ adviceLines r.hints ∨
      line = (verdictLine (r.isSuccess strict)).toList := by
  have noGrid : ∀ gs : List Grid, Part.text line ∉ gs.map Part.grid := fun gs mem => by
    obtain ⟨g, -, same⟩ := List.mem_map.1 mem
    cases same
  unfold sheet
  simp only [List.mem_append, noGrid]
  simp [or_assoc]

/-- The verdict of a sheet is told by its last line alone. -/
theorem verdictLine_mem (success : Bool) :
    Part.text (verdictLine success).toList ∈ r.sheet strict ↔ r.isSuccess strict = success := by
  have head : (verdictLine success).toList.head? = some (if success then 'P' else 'F') := by
    cases success <;> rfl
  have not_opening : (verdictLine success).toList ≠ "Bundle Assertion Report".toList := by
    cases success <;> decide
  have not_advice : (verdictLine success).toList ∉ adviceLines r.hints := by
    intro mem
    rcases r.head?_advice mem with h | h <;> rw [head] at h <;> cases success <;> cases h
  have last : (verdictLine success).toList = (verdictLine (r.isSuccess strict)).toList ↔
      r.isSuccess strict = success := by
    cases success <;> cases r.isSuccess strict <;> decide
  rw [text_mem_sheet, ← last, or_iff_right not_opening, or_iff_right not_advice]

end

theorem sortedNames_ascending (names : List String) : (sortedNames names).Pairwise (· < ·) :=
  ascending_mergeSort (nodup_foldl_distinct names [] List.nodup_nil)

/-- Groups by name put together hold what there is to group. -/
theorem flatMap_filter_perm {names : List String} (nodup : names.Nodup) {vs : List Violation}
    (named : ∀ v ∈ vs, v.rule ∈ names) : (names.flatMap fun n => vs.filter (·.rule == n)).Perm vs := by
  refine List.perm_iff_count.2 fun v => ?_
  have group : ∀ n, (vs.filter (·.rule == n)).count v = vs.count v * if v.rule == n then 1 else 0 := by
    intro n
    by_cases same : v.rule == n
    · rw [List.count_filter (p := fun w : Violation => w.rule == n) same, if_pos same, Nat.mul_one]
    · rw [if_neg same, Nat.mul_zero]
      exact List.count_eq_zero.2 fun mem => same (List.mem_filter.1 mem).2
  rw [List.count_flatMap]
  simp only [Function.comp_def, group, List.sum_map_mul_left, sum_map_indicator]
  by_cases mem : v ∈ vs
  · rw [List.count_eq_one_of_mem nodup (named v mem), Nat.mul_one]
  · rw [List.count_eq_zero.2 mem, Nat.zero_mul]

/-! ## Agreement -/

theorem violationRow?_toJson (v : Violation) : violationRow? v.toJson = some ((violationRow v).map .plain) := by
  obtain ⟨rule, severity, message, file, line, matched, context⟩ := v
  cases line <;> rfl

theorem faultRow?_toJson (f : FileFault) : faultRow? f.toJson = some ((faultRow f).map .plain) := rfl

theorem status_name_beq (s status : Status) : (some s.name == some status.name) = (s == status) := by
  cases s <;> cases status <;> rfl

section
variable {r : Report} {document : Json}

theorem countTasks_eq (tasks : document.tasks = r.sortedOutcomes.map Outcome.toJson) (rule : String)
    (status : Status) :
    document.countTasks rule status.name = (r.outcomes.filter (·.rule == rule)).countP (·.status == status) := by
  have read : ∀ o : Outcome,
      (o.toJson.string? "task" == some rule && o.toJson.string? "status" == some status.name) =
        (o.status == status && o.rule == rule) := by
    intro o
    rw [← status_name_beq, Bool.and_comm]
    rfl
  unfold Json.countTasks
  rw [tasks, List.countP_map, List.countP_filter]
  exact ((List.mergeSort_perm _ _).countP_eq _).trans (List.countP_congr fun o _ => by rw [← read o]; rfl)

theorem presents_rules (tasks : document.tasks = r.sortedOutcomes.map Outcome.toJson) :
    ∃ names : List String, names.Pairwise (· < ·) ∧
      (∀ name, name ∈ names ↔ ∃ task ∈ document.tasks, task.string? "task" = some name) ∧
      r.rulesGrids.map (·.rows) = if names.isEmpty then [] else [names.map (countsRow document)] := by
  have row : ∀ name, countsRow document name =
      let c := r.ruleCountOf name
      [.marked c.rule, .ofNat c.passed, .ofNat c.warning, .ofNat c.failed] := by
    intro name
    have passed := countTasks_eq tasks name .passed
    have warning := countTasks_eq tasks name .warning
    have failed := countTasks_eq tasks name .failed
    simp only [Status.name] at passed warning failed
    unfold countsRow
    rw [passed, warning, failed]
    rfl
  refine ⟨sortedNames (r.outcomes.map (·.rule)), sortedNames_ascending _, fun name => ?_, ?_⟩
  · rw [mem_sortedNames, tasks]
    constructor
    · intro mem
      obtain ⟨o, ho, rfl⟩ := List.mem_map.1 mem
      exact ⟨o.toJson, List.mem_map_of_mem (List.mem_mergeSort.2 ho), rfl⟩
    · rintro ⟨task, mem, named⟩
      obtain ⟨o, ho, rfl⟩ := List.mem_map.1 mem
      obtain rfl : o.rule = name := Option.some.inj named
      exact List.mem_map_of_mem (List.mem_mergeSort.1 ho)
  · unfold rulesGrids
    rw [ruleCounts_eq, List.isEmpty_map]
    split
    · rfl
    · rw [funext row]
      simp only [List.map_cons, List.map_nil, rulesGrid, List.map_map, Function.comp_def]

theorem rows_violationsGrid (rule : String) (vs : List Violation) :
    (violationsGrid rule vs).rows.map some = (vs.map Violation.toJson).map violationRow? := by
  unfold violationsGrid
  simp only [List.map_map, Function.comp_def, violationRow?_toJson]

theorem filter_toJson (rule : String) (vs : List Violation) :
    (vs.map Violation.toJson).filter (·.string? "rule" == some rule) =
      (vs.filter (·.rule == rule)).map Violation.toJson := by
  rw [List.filter_map]
  rfl

theorem presents_findings (violations : document.violations = r.sortedViolations.map Violation.toJson) :
    ∃ names : List String, names.Pairwise (· < ·) ∧
      (∀ name, name ∈ names ↔ ∃ v ∈ document.violations, v.string? "rule" = some name) ∧
      r.violationsGrids.map (fun g => (g.title, g.rows.map some)) =
        names.map fun name => (some (.marked s!"Violations: {name}"),
          (document.violations.filter (·.string? "rule" == some name)).map violationRow?) := by
  refine ⟨sortedNames (r.sortedViolations.map (·.rule)), sortedNames_ascending _, fun name => ?_, ?_⟩
  · rw [mem_sortedNames, violations]
    constructor
    · intro mem
      obtain ⟨v, hv, rfl⟩ := List.mem_map.1 mem
      exact ⟨v.toJson, List.mem_map_of_mem hv, rfl⟩
    · rintro ⟨object, mem, named⟩
      obtain ⟨v, hv, rfl⟩ := List.mem_map.1 mem
      obtain rfl : v.rule = name := Option.some.inj named
      exact List.mem_map_of_mem hv
  · unfold violationsGrids
    rw [List.map_map]
    refine List.map_congr_left fun name _ => ?_
    rw [violations, filter_toJson, ← rows_violationsGrid name]
    rfl

theorem presents_violations (violations : document.violations = r.sortedViolations.map Violation.toJson) :
    (r.violationsGrids.flatMap (·.rows.map some)).Perm (document.violations.map violationRow?) := by
  have grouped := flatMap_filter_perm (nodup_sortedNames (r.sortedViolations.map (·.rule))) fun v mem =>
    mem_sortedNames.2 (List.mem_map_of_mem mem)
  have rows := (grouped.map Violation.toJson).map violationRow?
  rw [List.map_flatMap, List.map_flatMap] at rows
  unfold violationsGrids
  rw [violations, List.flatMap_map]
  simp only [rows_violationsGrid]
  exact rows

theorem presents_faults (faults : document.faults = r.faults.map FileFault.toJson) :
    r.faultsGrids.map (·.rows.map some) =
      if document.faults.isEmpty then [] else [document.faults.map faultRow?] := by
  unfold faultsGrids
  rw [faults, List.isEmpty_map]
  split
  · rfl
  · simp only [List.map_cons, List.map_nil, faultsGrid, List.map_map, Function.comp_def, faultRow?_toJson]

end

/-- Whatever its time stamp, the document of a report presents the same as its sheet; and the sheet, rendered in
whatever way, is the console report. -/
theorem presents_same (r : Report) (strict : Bool) :
    (∃ document : String → Json, r.document strict = (Time.stampText r.timestamp).map document ∧
      ∀ stamp, r.Presents (r.sheet strict) (document stamp)) ∧
    ∀ renderer, r.blocks renderer strict = (r.sheet strict).mapM (Part.render renderer) := by
  refine ⟨⟨_, bind_pure_comp _ _, fun stamp => ?_⟩, fun renderer => r.blocks_eq renderer strict⟩
  refine
    { numbers := ⟨r.passed, r.warnings, r.failed, rfl, rfl, rfl, ?_⟩
      verdict := fun success => ?_
      rules := ?_
      findings := ?_
      faults := ?_
      violations := ?_
      lists := ⟨(List.mergeSort_perm _ _).map _, (List.mergeSort_perm _ _).map _, rfl⟩ }
  · rw [gridsUnder_summary]
    rfl
  · rw [verdictLine_mem]
    exact ⟨fun h => h ▸ rfl, fun h => Json.bool.inj (Option.some.inj h)⟩
  · rw [gridsUnder_rules]
    exact presents_rules rfl
  · rw [gridsUnder_violations]
    exact presents_findings rfl
  · rw [gridsUnder_faults]
    exact presents_faults rfl
  · rw [gridsUnder_violations]
    exact presents_violations rfl

end Report

end BundleAudit

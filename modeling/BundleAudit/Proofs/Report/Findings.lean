import BundleAudit.Proofs.Report.Recording
import BundleAudit.Proofs.Report.StableSort
import BundleAudit.Report.Document

/-!
# What a document depends on

Apart from the fields that say how a run was carried out and how long it took (`runFields`), the document
of a report does not depend on the order in which outcomes were recorded, provided that no two outcomes
are of the same file and rule and that each violation names the file and the rule of its outcome.
-/

namespace BundleAudit

/-! ## Documents without some of their fields -/

namespace Json

mutual

/-- The document without the fields of certain names, at any depth. -/
def without (names : List String) : Json → Json
  | .arr items => .arr (withoutItems names items)
  | .obj fields => .obj (withoutFields names fields)
  | document => document

def withoutItems (names : List String) : List Json → List Json
  | [] => []
  | item :: rest => item.without names :: withoutItems names rest

def withoutFields (names : List String) : List (String × Json) → List (String × Json)
  | [] => []
  | (name, value) :: rest =>
    if names.contains name then withoutFields names rest
    else (name, value.without names) :: withoutFields names rest

end

theorem withoutItems_eq_map (names : List String) : ∀ items : List Json,
    withoutItems names items = items.map (without names)
  | [] => rfl
  | item :: rest => by rw [withoutItems, withoutItems_eq_map names rest, List.map_cons]

end Json

/-- The fields of a document that say how the run was carried out and how long it took. -/
def runFields : List String := ["parallel", "workers", "timestamp", "executionTime"]

theorem Outcome.toJson_untimed (o : Outcome) : o.untimed.toJson.without runFields = o.toJson.without runFields := by
  simp [Outcome.toJson, untimed, Json.without, Json.withoutFields, runFields]

theorem Violation.toJson_without (v : Violation) : v.toJson.without runFields = v.toJson := by
  cases line : v.line <;> simp [Violation.toJson, Json.without, Json.withoutFields, runFields, line]

theorem FileFault.toJson_without (f : FileFault) : f.toJson.without runFields = f.toJson := by
  simp [FileFault.toJson, Json.without, Json.withoutFields, runFields]

namespace Report

/-- What a document says about the findings of a run. -/
def findings (r : Report) (strict : Bool) : Json :=
  .obj
    [("summary", .obj
      [("passed", .int r.passed), ("failed", .int r.failed), ("warnings", .int r.warnings),
       ("total", .int (r.passed + r.failed + r.warnings)), ("success", .bool (r.isSuccess strict))]),
     ("metadata", .obj [("filesScanned", .int r.filesScanned), ("strict", .bool strict)]),
     ("tasks", .arr ((r.sortedOutcomes.map Outcome.untimed).map fun o => o.toJson.without runFields)),
     ("violations", .arr (r.sortedViolations.map Violation.toJson)),
     ("faults", .arr (r.faults.map FileFault.toJson))]

/-- A report has a document if its time stamp has a text, and then the document says this. -/
theorem document_without (r : Report) (strict : Bool) :
    (r.document strict).map (·.without runFields) =
      (Time.stampText r.timestamp).map fun _ => r.findings strict := by
  unfold document
  cases Time.stampText r.timestamp with
  | error e => rfl
  | ok stamp =>
    have tasks : Json.withoutItems runFields (r.sortedOutcomes.map Outcome.toJson) =
        (r.sortedOutcomes.map Outcome.untimed).map fun o => o.toJson.without runFields := by
      rw [Json.withoutItems_eq_map, List.map_map, List.map_map]
      exact List.map_congr_left fun o _ => o.toJson_untimed.symm
    have violations : Json.withoutItems runFields (r.sortedViolations.map Violation.toJson) =
        r.sortedViolations.map Violation.toJson := by
      rw [Json.withoutItems_eq_map, List.map_map]
      exact List.map_congr_left fun v _ => v.toJson_without
    have faults : Json.withoutItems runFields (r.faults.map FileFault.toJson) =
        r.faults.map FileFault.toJson := by
      rw [Json.withoutItems_eq_map, List.map_map]
      exact List.map_congr_left fun f _ => f.toJson_without
    conv_rhs => rw [findings, ← tasks, ← violations, ← faults]
    rfl

/-- Apart from the run fields the document of the report is this one, unless the time stamp has no text. -/
def Shows (r : Report) (strict : Bool) (document : Json) : Prop :=
  (r.document strict).map (·.without runFields) = (Time.stampText r.timestamp).map fun _ => document

theorem shows_of_findings {r : Report} {strict : Bool} {document : Json} (h : r.findings strict = document) :
    r.Shows strict document :=
  h ▸ r.document_without strict

/-! ## Orders of recording -/

/-- The order of the tasks of a document. -/
def outcomeOrder (o p : Outcome) : Ordering := (compare o.file p.file).then (compare o.rule p.rule)

instance : Std.TransCmp outcomeOrder :=
  inferInstanceAs (Std.TransCmp (compareLex (compareOn Outcome.file) (compareOn Outcome.rule)))

instance : Std.TransCmp violationOrder :=
  inferInstanceAs <| Std.TransCmp <|
    compareLex (compareOn Violation.file) <| compareLex (compareOn Violation.rule) <|
      compareLex (compareOn fun v => v.line.getD 0) <|
        compareLex (compareOn fun v => v.severity.rank) (compareOn Violation.message)

/-- The outcomes are of the same file and rule. -/
def SamePair (o p : Outcome) : Prop := o.file = p.file ∧ o.rule = p.rule

theorem samePair_of_outcomeOrder {o p : Outcome} (h : outcomeOrder o p = .eq) : SamePair o p := by
  simp only [outcomeOrder, Ordering.then_eq_eq, Std.LawfulEqCmp.compare_eq_iff_eq] at h
  exact h

/-- Violations that the report does not tell apart are of the same file and rule. -/
theorem eq_of_violationOrder {v w : Violation} (h : violationOrder v w = .eq) :
    v.file = w.file ∧ v.rule = w.rule := by
  simp only [violationOrder, Ordering.then_eq_eq, Std.LawfulEqCmp.compare_eq_iff_eq] at h
  exact ⟨h.1, h.2.1⟩

/-- Each violation names the file and the rule of its outcome. -/
def Signed (o : Outcome) : Prop := ∀ v ∈ o.violations, v.file = o.file ∧ v.rule = o.rule

/-- The reports count the same. -/
structure CountAlike (r r' : Report) : Prop where
  passed : r.passed = r'.passed
  failed : r.failed = r'.failed
  warnings : r.warnings = r'.warnings

theorem countAlike_perm {os os' : List Outcome} (perm : os.Perm os') (faults : List FileFault) (files : Nat) :
    CountAlike (ofOutcomes os faults files) (ofOutcomes os' faults files) :=
  have found := perm.flatMap_right Outcome.violations
  ⟨perm.countP_eq _, found.countP_eq _, found.countP_eq _⟩

theorem flatMap_violations_untimed (os : List Outcome) :
    (os.map Outcome.untimed).flatMap (·.violations) = os.flatMap (·.violations) := by
  rw [List.flatMap_map]
  rfl

theorem countAlike_untimed (os : List Outcome) (faults : List FileFault) (files : Nat) :
    CountAlike (ofOutcomes (os.map Outcome.untimed) faults files) (ofOutcomes os faults files) where
  passed := List.countP_map
  failed := congrArg (List.countP Violation.isBlocking) (flatMap_violations_untimed os)
  warnings := congrArg (List.countP fun v : Violation => !v.isBlocking) (flatMap_violations_untimed os)

theorem sortedViolations_untimed (os : List Outcome) (faults : List FileFault) (files : Nat) :
    (ofOutcomes (os.map Outcome.untimed) faults files).sortedViolations =
      (ofOutcomes os faults files).sortedViolations :=
  congrArg (List.mergeSort · fun v w => (violationOrder v w).isLE) (flatMap_violations_untimed os)

section
variable {os os' : List Outcome} (perm : os.Perm os') (apart : os.Pairwise fun o p => ¬ SamePair o p)
include perm apart

theorem sortedOutcomes_perm (faults : List FileFault) (files : Nat) :
    (ofOutcomes os faults files).sortedOutcomes = (ofOutcomes os' faults files).sortedOutcomes := by
  have sorted := mergeSort_flatMap_perm outcomeOrder (fun o => [o]) perm <|
    apart.imp fun {o p} h x hx y hy tie => by
      obtain rfl := List.mem_singleton.1 hx
      obtain rfl := List.mem_singleton.1 hy
      exact h (samePair_of_outcomeOrder tie)
  rw [List.flatMap_singleton', List.flatMap_singleton'] at sorted
  exact sorted

theorem sortedViolations_perm (signed : ∀ o ∈ os, Signed o) (faults : List FileFault) (files : Nat) :
    (ofOutcomes os faults files).sortedViolations = (ofOutcomes os' faults files).sortedViolations := by
  refine mergeSort_flatMap_perm violationOrder Outcome.violations perm ?_
  refine apart.imp_of_mem fun {o p} ho hp h v hv w hw tie => h ?_
  obtain ⟨file, rule⟩ := eq_of_violationOrder tie
  obtain ⟨vf, vr⟩ := signed o ho v hv
  obtain ⟨wf, wr⟩ := signed p hp w hw
  exact ⟨by rw [← vf, file, wf], by rw [← vr, rule, wr]⟩

theorem findings_perm (signed : ∀ o ∈ os, Signed o) (faults : List FileFault) (files : Nat) (strict : Bool) :
    (ofOutcomes os faults files).findings strict = (ofOutcomes os' faults files).findings strict := by
  obtain ⟨passed, failed, warnings⟩ := countAlike_perm perm faults files
  unfold findings isSuccess
  rw [passed, failed, warnings, sortedOutcomes_perm perm apart, sortedViolations_perm perm apart signed]
  rfl

end

/-- The time that evaluations took does not show in the findings. -/
theorem findings_untimed (os : List Outcome) (faults : List FileFault) (files : Nat) (strict : Bool) :
    (ofOutcomes (os.map Outcome.untimed) faults files).findings strict =
      (ofOutcomes os faults files).findings strict := by
  obtain ⟨passed, failed, warnings⟩ := countAlike_untimed os faults files
  have tasks : (ofOutcomes (os.map Outcome.untimed) faults files).sortedOutcomes.map Outcome.untimed =
      (ofOutcomes os faults files).sortedOutcomes.map Outcome.untimed := by
    have sorted : (os.mergeSort fun o p => (outcomeOrder o p).isLE).map Outcome.untimed =
        (os.map Outcome.untimed).mergeSort fun o p => (outcomeOrder o p).isLE :=
      List.map_mergeSort fun _ _ _ _ => rfl
    show ((os.map Outcome.untimed).mergeSort fun o p => (outcomeOrder o p).isLE).map Outcome.untimed = _
    rw [← sorted, List.map_map]
    rfl
  unfold findings isSuccess
  rw [passed, failed, warnings, tasks, sortedViolations_untimed]
  rfl

end Report

end BundleAudit

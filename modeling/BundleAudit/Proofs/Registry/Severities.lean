import BundleAudit.Proofs.Registry.Selection
import Mathlib.Data.List.Nodup

/-!
# Included severities

Of rules of different names, a registry for some severities gives what the registry of all rules gives,
less the outcomes of the rules of other severities: for each file, and in each report that a run can end
with. If none of the severities blocks, a run with them is blocked by crashes alone.
-/

namespace BundleAudit

/-! ## Which outcomes are left -/

/-- Whether one of the rules has this name and an included severity. -/
def includesName (rules : List Rule) (included : List Severity) (name : String) : Bool :=
  rules.any fun rule => rule.name == name && included.contains rule.severity

theorem includesName_of_mem {rules : List Rule} (names : (rules.map (·.name)).Nodup) {rule : Rule}
    (mem : rule ∈ rules) (included : List Severity) :
    includesName rules included rule.name = included.contains rule.severity := by
  unfold includesName
  cases taken : included.contains rule.severity with
  | true => exact List.any_eq_true.2 ⟨rule, mem, by rw [beq_self_eq_true, taken]; rfl⟩
  | false =>
    refine List.any_eq_false.2 fun other mem' both => ?_
    obtain ⟨named, taken'⟩ := Bool.and_eq_true_iff.1 both
    obtain rfl : other = rule := List.inj_on_of_nodup_map names mem' mem (eq_of_beq named)
    exact Bool.noConfusion (taken'.symm.trans taken)

theorem Run.report_keeping (keep : String → Bool) (r : Run) :
    (r.keeping keep).report = r.report.keeping keep := by
  have outcomes : (r.keeping keep).files.flatMap (·.outcomes) =
      (r.files.flatMap (·.outcomes)).filter (keep ·.rule) := by
    rw [Run.keeping, List.flatMap_map, List.filter_flatMap]
    exact List.flatMap_congr fun f _ => f.outcomes_keeping keep
  have scanned : (r.keeping keep).files.length = r.files.length := List.length_map _
  rw [report, report, reportOf_eq, reportOf_eq, outcomes, scanned]
  rfl

namespace Registry

theorem runFile_eq (r : Registry) (b : Bundle) :
    r.runFile b = ⟨b, (r.applicable b.path).map fun rule =>
      ⟨rule, b.path, rule.evaluate (Source.strip b.content) b.content b.path⟩⟩ := by
  unfold runFile
  cases r.applicable b.path <;> rfl

section
variable {keep : String → Bool} {r s : Registry} (rules : s.rules = r.rules.filter (keep ·.name))
include rules

theorem runFile_of_filter (b : Bundle) : s.runFile b = (r.runFile b).keeping keep := by
  have applicable : s.applicable b.path = (r.applicable b.path).filter (keep ·.name) := by
    rw [Registry.applicable, rules, Registry.applicable, List.filter_comm]
  rw [runFile_eq, runFile_eq, applicable, FileRun.keeping, List.filter_map]
  rfl

theorem runIntake_of_filter (taken : Intake) (parallel : Bool) (maxWorkers : Int) :
    s.runIntake taken parallel maxWorkers = (r.runIntake taken parallel maxWorkers).keeping keep := by
  have files : taken.bundles.map s.runFile = (taken.bundles.map r.runFile).map (·.keeping keep) := by
    rw [List.map_map]
    exact List.map_congr_left fun b _ => runFile_of_filter rules b
  unfold runIntake runAll
  rw [files]
  rfl

end

end Registry

/-! ## Severities that do not block -/

theorem countP_isBlocking_flatMap : ∀ {outcomes : List Outcome},
    (∀ o ∈ outcomes, o.violations.countP (·.isBlocking) = if o.faulted then 1 else 0) →
      (outcomes.flatMap (·.violations)).countP (·.isBlocking) = outcomes.countP (·.faulted)
  | [], _ => rfl
  | o :: outcomes, each => by
    have rest := countP_isBlocking_flatMap fun o mem => each o (List.mem_cons_of_mem _ mem)
    rw [List.flatMap_cons, List.countP_append, each o List.mem_cons_self, rest, List.countP_cons]
    omega

namespace Registry

theorem failed_of_ends {r : Registry} (mild : ∀ rule ∈ r.rules, rule.severity.isBlocking = false)
    {taken : Intake} {parallel : Bool} {maxWorkers : Int} {report : Report}
    (ends : (r.runIntake taken parallel maxWorkers).Ends report) :
    report.failed = report.outcomes.countP (·.faulted) := by
  obtain ⟨outcomes, perm, report_eq⟩ := ends_runIntake ends
  rw [report_eq]
  refine countP_isBlocking_flatMap fun o mem => ?_
  -- The time that the evaluation took has no part in what was found.
  obtain ⟨b, -, rule, applicable, same⟩ := mem_outcomesOf.1 (perm.mem_iff.1 (List.mem_map_of_mem mem))
  rw [show o.violations = o.untimed.violations from rfl, show o.faulted = o.untimed.faulted from rfl, ← same]
  exact Evaluation.blocking_of_mild (mild rule (mem_applicable applicable))

/-! ## Projection -/

/-- Rules of different names are registered in whole, or as far as their severity is included. The outcomes
of the smaller registry for a file are those of the whole one whose rule has an included severity, in their
order. The report of a run in order, and every report that a run can end with, is the report on those
outcomes alone. If no included severity blocks, a run counts as failed what crashed and nothing else. -/
theorem projects_on_included {rules : List Rule} (names : (rules.map (·.name)).Nodup)
    (included : List Severity) :
    ∃ whole selected : Registry,
      (ofRules rules none = .ok whole ∧ whole.rules = rules) ∧
      (ofRules rules (some included) = .ok selected ∧
        selected.rules = rules.filter (included.contains ·.severity)) ∧
      (∀ b : Bundle, (selected.runFile b).outcomes =
        (whole.runFile b).outcomes.filter fun o => includesName rules included o.rule) ∧
      (∀ taken parallel maxWorkers,
        (selected.runIntake taken parallel maxWorkers).report =
            (whole.runIntake taken parallel maxWorkers).report.keeping (includesName rules included) ∧
          ∀ report, (selected.runIntake taken parallel maxWorkers).Ends report ↔
            ∃ report', (whole.runIntake taken parallel maxWorkers).Ends report' ∧
              report = report'.keeping (includesName rules included)) ∧
      ((∀ s ∈ included, s.isBlocking = false) → ∀ taken parallel maxWorkers report,
        (selected.runIntake taken parallel maxWorkers).Ends report →
          report.failed = report.outcomes.countP (·.faulted)) := by
  obtain ⟨whole, registered, all⟩ := ofRules_of_nodup names none
  obtain ⟨selected, registered', some⟩ := ofRules_of_nodup names (some included)
  have all : whole.rules = rules := all.trans (by simp)
  have some : selected.rules = rules.filter (included.contains ·.severity) := some.trans (by simp)
  have left : selected.rules = whole.rules.filter (includesName rules included ·.name) := by
    rw [some, all]
    exact List.filter_congr fun rule mem => (includesName_of_mem names mem included).symm
  refine ⟨whole, selected, ⟨registered, all⟩, ⟨registered', some⟩, fun b => ?_,
    fun taken parallel maxWorkers => ?_, fun mild taken parallel maxWorkers report ends => ?_⟩
  · rw [runFile_of_filter left, FileRun.outcomes_keeping]
  · rw [runIntake_of_filter left]
    exact ⟨Run.report_keeping _ _, fun report => Run.ends_keeping_iff⟩
  · refine failed_of_ends (fun rule mem => ?_) ends
    rw [some] at mem
    exact mild _ (by simpa using (List.mem_filter.1 mem).2)

/-- Of a rule that finds something severe and one that crashes, the second is left. -/
theorem projects_on_included_of_crash :
    let finds : Rule :=
      { name := "finding", description := "", severity := .high, appliesTo := ["*"]
        evaluate := fun _ _ path => .ok [{ rule := "finding", severity := .high, message := "found", file := path }] }
    let crashes : Rule :=
      { name := "crashing", description := "", severity := .low, appliesTo := ["*.js"]
        evaluate := fun _ _ _ => .error ⟨"ValueError", "no reason"⟩ }
    let rules := [finds, crashes]
    let b : Bundle := ⟨"a.js", []⟩
    (rules.map (·.name)).Nodup ∧ (∀ s ∈ [Severity.low], s.isBlocking = false) ∧
      ∃ whole selected : Registry, ofRules rules none = .ok whole ∧ ofRules rules (some [.low]) = .ok selected ∧
        (whole.runFile b).outcomes = [finds.outcomeOn b, crashes.outcomeOn b] ∧
        (selected.runFile b).outcomes = [crashes.outcomeOn b] ∧
        ∃ report, (selected.runIntake { bundles := [b] } true 2).Ends report ∧
          report.failed = report.outcomes.countP (·.faulted) := by
  intro finds crashes rules b
  have names : (rules.map (·.name)).Nodup := by decide
  have mild : ∀ s ∈ [Severity.low], s.isBlocking = false := by decide
  obtain ⟨whole, selected, ⟨registered, all⟩, ⟨registered', -⟩, projects, -, failed⟩ :=
    projects_on_included names [.low]
  have covered : Glob.covers "*" "a.js" = true ∧ Glob.covers "*.js" "a.js" = true := by decide +kernel
  have outcomes : (whole.runFile b).outcomes = [finds.outcomeOn b, crashes.outcomeOn b] := by
    have named : FileSystem.baseName b.path = "a.js" := by cbv
    rw [outcomes_runFile, applicable, all, named]
    simp [rules, finds, crashes, covered]
  refine ⟨names, mild, whole, selected, registered, registered', outcomes, ?_, _,
    Run.ends_report (selected.capacity_runIntake _ true 2), ?_⟩
  · rw [projects, outcomes]
    rfl
  · exact failed mild _ true 2 _ (Run.ends_report (selected.capacity_runIntake _ true 2))

end Registry

end BundleAudit

import BundleAudit.Proofs.Registry.Outcomes
import BundleAudit.Proofs.Report.Findings
import Mathlib.Data.List.Nodup
import Mathlib.Data.List.Perm.Basic

/-!
# Agreement of runs

Runs of the same rules on the same files agree in their documents. The schedule, the number of workers
and the order in which the rules were registered show in no field but those on how the run was carried
out, provided that the paths are distinct and that each rule signs its findings. What is said of an intake
holds of bundles alone, which are run as an intake without faults.
-/

namespace BundleAudit

open BundleAudit.Report (SamePair Signed)

/-! ## Signed findings -/

/-- The rule names itself and the path that it was given in each of its violations. -/
def Rule.SignsFindings (rule : Rule) : Prop :=
  ∀ (cleaned raw : List Char) (path : String) (vs : List Violation),
    rule.evaluate cleaned raw path = .ok vs → ∀ v ∈ vs, v.rule = rule.name ∧ v.file = path

/-- The violations of an outcome are signed, also that which stands for a crash. -/
theorem Rule.SignsFindings.outcomeOn {rule : Rule} (signs : rule.SignsFindings) (b : Bundle) :
    Signed (rule.outcomeOn b) := by
  intro v hv
  cases result : rule.evaluate (Source.strip b.content) b.content b.path with
  | error c =>
    rw [outcomeOn_crash result] at hv ⊢
    obtain rfl := List.mem_singleton.1 hv
    exact ⟨rfl, rfl⟩
  | ok vs =>
    rw [outcomeOn_ok result] at hv
    obtain ⟨w, hw, rfl⟩ := List.mem_map.1 hv
    obtain ⟨named, placed⟩ := signs _ _ _ _ result w hw
    rw [w.clamp_eq rule.severity]
    exact ⟨placed, named⟩

namespace Registry

theorem signed_outcomesOf {r : Registry} (signs : ∀ rule ∈ r.rules, rule.SignsFindings)
    (bundles : List Bundle) : ∀ o ∈ r.outcomesOf bundles, Signed o := by
  intro o ho
  obtain ⟨b, -, rule, applicable, rfl⟩ := mem_outcomesOf.1 ho
  exact (signs rule (mem_applicable applicable)).outcomeOn b

/-! ## One outcome for each file and rule -/

theorem outcomesOf_apart (r : Registry) {bundles : List Bundle}
    (distinct : (bundles.map (·.path)).Nodup) :
    (r.outcomesOf bundles).Pairwise fun o p => ¬ SamePair o p := by
  rw [outcomesOf, List.pairwise_flatMap]
  constructor
  · intro b _
    refine List.pairwise_map.2 ?_
    exact (List.pairwise_map.1 (r.applicable_names_nodup b.path)).imp fun names same => names same.2
  · refine (List.pairwise_map.1 distinct).imp fun {b c} paths o ho p hp same => paths ?_
    obtain ⟨_, -, rfl⟩ := List.mem_map.1 ho
    obtain ⟨_, -, rfl⟩ := List.mem_map.1 hp
    exact same.1

/-! ## Orders of registration -/

theorem outcomesOf_perm {r r' : Registry} (same : r'.rules.Perm r.rules) (bundles : List Bundle) :
    (r'.outcomesOf bundles).Perm (r.outcomesOf bundles) :=
  List.Perm.flatMap_left bundles fun _ _ => (same.filter _).map _

/-! ## Agreement -/

theorem findings_eq {r : Registry} (signs : ∀ rule ∈ r.rules, rule.SignsFindings) {bundles : List Bundle}
    (distinct : (bundles.map (·.path)).Nodup) {outcomes : List Outcome}
    (perm : (outcomes.map Outcome.untimed).Perm (r.outcomesOf bundles)) (faults : List FileFault)
    (files : Nat) (strict : Bool) :
    (Report.ofOutcomes outcomes faults files).findings strict =
      (Report.ofOutcomes (r.outcomesOf bundles) faults files).findings strict := by
  rw [← Report.findings_untimed outcomes]
  exact (Report.findings_perm perm.symm (r.outcomesOf_apart distinct) (r.signed_outcomesOf signs bundles)
    faults files strict).symm

/-- There is one document that the sequential run shows, and that every run of the same rules shows in
whatever order they were registered, whether the files are committed in any order at all or by a number
of workers. -/
theorem shows_same_document {r : Registry} (signs : ∀ rule ∈ r.rules, rule.SignsFindings) {taken : Intake}
    (distinct : (taken.bundles.map (·.path)).Nodup) (strict : Bool) :
    ∃ document : Json,
      (∀ (maxWorkers : Int) (elapsed timestamp : Float),
        { (r.runIntake taken false maxWorkers).report with
          elapsed := elapsed, timestamp := timestamp }.Shows strict document) ∧
      ∀ r' : Registry, r'.rules.Perm r.rules → ∀ (parallel : Bool) (maxWorkers : Int),
        (∀ order : List FileRun, order.Perm (r'.runIntake taken parallel maxWorkers).files →
          ∀ elapsed timestamp : Float,
            { (r'.runIntake taken parallel maxWorkers).reportOf order with
              elapsed := elapsed, timestamp := timestamp }.Shows strict document) ∧
        ∀ report : Report, (r'.runIntake taken parallel maxWorkers).Ends report →
          report.Shows strict document := by
  have shown (r' : Registry) (same : r'.rules.Perm r.rules) (parallel : Bool) (maxWorkers : Int)
      (order : List FileRun) (perm : order.Perm (r'.runIntake taken parallel maxWorkers).files)
      (elapsed timestamp : Float) :
      { (r'.runIntake taken parallel maxWorkers).reportOf order with
        elapsed := elapsed, timestamp := timestamp }.Shows strict
          ((Report.ofOutcomes (r.outcomesOf taken.bundles) taken.faults taken.bundles.length).findings
            strict) := by
    have outcomes : (order.flatMap (·.outcomes)).Perm (r'.outcomesOf taken.bundles) := by
      rw [← outcomes_runIntake r' taken parallel maxWorkers]
      exact perm.flatMap_right _
    have untimed := outcomes.map Outcome.untimed
    rw [map_untimed_outcomesOf] at untimed
    have scanned : order.length = taken.bundles.length := perm.length_eq.trans (List.length_map _)
    refine Report.shows_of_findings ?_
    rw [Run.reportOf_eq, scanned]
    exact findings_eq signs distinct (untimed.trans (outcomesOf_perm same _)) _ _ strict
  refine ⟨_, fun maxWorkers elapsed timestamp => shown r (.refl _) false maxWorkers _ (.refl _) elapsed timestamp,
    fun r' same parallel maxWorkers => ⟨shown r' same parallel maxWorkers, fun report ends => ?_⟩⟩
  obtain ⟨outcomes, perm, report_eq⟩ := ends_runIntake ends
  refine Report.shows_of_findings ?_
  rw [report_eq]
  exact findings_eq signs distinct (perm.trans (outcomesOf_perm same _)) _ _ strict

/-! ## An instance -/

/-- A rule whose two findings differ only in what the report does not sort by. -/
def doubled : Rule where
  name := "doubled"
  description := ""
  severity := .low
  appliesTo := ["*.js"]
  evaluate _ _ path := .ok
    [{ rule := "doubled", severity := .high, message := "found", file := path, context := "second" },
     { rule := "doubled", severity := .high, message := "found", file := path, context := "first" }]

def crashing : Rule where
  name := "crashing"
  description := ""
  severity := .low
  appliesTo := ["*.js"]
  evaluate _ _ _ := .error ⟨"ValueError", "no reason"⟩

theorem shows_same_document_reversed :
    let r : Registry := { rules := [doubled, crashing], names_nodup := by decide }
    let r' : Registry := { rules := [crashing, doubled], names_nodup := by decide }
    let taken : Intake := { bundles := [⟨"b.js", []⟩, ⟨"a.js", []⟩], faults := [⟨"c.js", "gone"⟩] }
    (∀ rule ∈ r.rules, rule.SignsFindings) ∧ (taken.bundles.map (·.path)).Nodup ∧ r'.rules.Perm r.rules ∧
      ∃ document : Json,
        (r.runIntake taken false 1).report.Shows true document ∧
          ((r'.runIntake taken true 2).reportOf [r'.runFile ⟨"a.js", []⟩, r'.runFile ⟨"b.js", []⟩]).Shows true
            document := by
  intro r r' taken
  have signs : ∀ rule ∈ r.rules, rule.SignsFindings := by
    intro rule mem
    obtain rfl | mem := List.mem_cons.1 mem
    · intro cleaned raw path vs result v hv
      obtain rfl := Except.ok.inj result
      obtain rfl | hv := List.mem_cons.1 hv
      · exact ⟨rfl, rfl⟩
      · obtain rfl := List.mem_singleton.1 hv
        exact ⟨rfl, rfl⟩
    · obtain rfl := List.mem_singleton.1 mem
      intro cleaned raw path vs result
      cases result
  have distinct : (taken.bundles.map (·.path)).Nodup := by decide
  have same : r'.rules.Perm r.rules := .swap _ _ _
  obtain ⟨document, sequential, every⟩ := shows_same_document signs distinct true
  exact ⟨signs, distinct, same, document, sequential 1 0.0 0.0,
    (every r' same true 2).1 _ (.swap _ _ _) 0.0 0.0⟩

end Registry

end BundleAudit

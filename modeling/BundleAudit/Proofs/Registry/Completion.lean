import BundleAudit.Proofs.Registry.Agreement
import BundleAudit.Proofs.Report.Advice

/-!
# Orders of completion

The order in which the files of a run are committed shows in one place of the console report: where a rule is
given two pieces of advice, since it crashed on one file and found something in another, that one comes first
whose file was committed first (`Registry.advice_of_orders`).
-/

namespace BundleAudit

open BundleAudit.Report

/-- The reports that a run may have: some schedule ends with it, or its files were committed in some order. -/
def Run.Yields (run : Run) (report : Report) : Prop :=
  run.Ends report ∨ ∃ order : List FileRun, order.Perm run.files ∧ ∃ elapsed timestamp : Float,
    report = { run.reportOf order with elapsed := elapsed, timestamp := timestamp }

namespace Registry

section
variable {r : Registry} {taken : Intake} {parallel : Bool} {maxWorkers : Int}

theorem outcomes_of_order {order : List FileRun}
    (perm : order.Perm (r.runIntake taken parallel maxWorkers).files) :
    (order.flatMap (·.outcomes)).Perm (r.outcomesOf taken.bundles) := by
  rw [← outcomes_runIntake r taken parallel maxWorkers]
  exact perm.flatMap_right _

/-- Whatever the order, a report holds the outcomes of the bundles, each once. -/
theorem yields_runIntake {report : Report} (yields : (r.runIntake taken parallel maxWorkers).Yields report) :
    ∃ outcomes : List Outcome,
      (outcomes.map Outcome.untimed).Perm (r.outcomesOf taken.bundles) ∧
        report =
          { Report.ofOutcomes outcomes taken.faults taken.bundles.length with
            elapsed := report.elapsed
            parallel := (r.runIntake taken parallel maxWorkers).concurrent
            workers := (r.runIntake taken parallel maxWorkers).capacity
            timestamp := report.timestamp } := by
  rcases yields with ends | ⟨order, perm, elapsed, timestamp, rfl⟩
  · exact ends_runIntake ends
  · have untimed := (outcomes_of_order perm).map Outcome.untimed
    rw [map_untimed_outcomesOf] at untimed
    have scanned : order.length = taken.bundles.length := perm.length_eq.trans (List.length_map _)
    refine ⟨_, untimed, ?_⟩
    rw [Run.reportOf_eq, scanned]
    rfl

theorem kinds_of_yields {report : Report} (yields : (r.runIntake taken parallel maxWorkers).Yields report) :
    report.faults = taken.faults ∧
      ∃ os : List Outcome, os.Perm (r.outcomesOf taken.bundles) ∧ kinds report.outcomes = kinds os := by
  obtain ⟨outcomes, perm, report_eq⟩ := yields_runIntake yields
  refine ⟨by rw [report_eq]; rfl, _, perm, ?_⟩
  rw [report_eq, kinds_untimed]
  rfl

/-- A file has one outcome for each rule that looks at it. -/
theorem filter_outcomes_runFile {b : Bundle} {rule : Rule} (applicable : rule ∈ r.applicable b.path)
    (concern : (rule.outcomeOn b).status ≠ .passed) :
    ∃ rest, (r.runFile b).outcomes.filter (sharesRule (rule.outcomeOn b)) = rule.outcomeOn b :: rest := by
  have own : rule.outcomeOn b ∈ (r.runFile b).outcomes.filter (sharesRule (rule.outcomeOn b)) := by
    refine List.mem_filter.2 ⟨?_, Bool.and_eq_true_iff.2 ⟨bne_iff_ne.2 concern, ties_self _⟩⟩
    rw [outcomes_runFile]
    exact List.mem_map_of_mem applicable
  obtain ⟨p, rest, found⟩ := List.exists_cons_of_ne_nil (List.ne_nil_of_mem own)
  have first : p ∈ (r.runFile b).outcomes.filter (sharesRule (rule.outcomeOn b)) := by
    rw [found]
    exact List.mem_cons_self
  obtain ⟨hp, shares⟩ := List.mem_filter.1 first
  rw [outcomes_runFile] at hp
  obtain ⟨other, applicable', rfl⟩ := List.mem_map.1 hp
  have name : rule.name = other.name :=
    Std.LawfulEqCmp.eq_of_compare (ties_iff.1 (Bool.and_eq_true_iff.1 shares).2)
  obtain rfl := List.inj_on_of_nodup_map (r.applicable_names_nodup b.path) applicable applicable' name
  exact ⟨rest, found⟩

/-- The file of an outcome can be committed first, and then it is the first outcome of its rule. -/
theorem exists_order (parallel : Bool) (maxWorkers : Int) {o : Outcome} (mem : o ∈ r.outcomesOf taken.bundles)
    (concern : o.status ≠ .passed) :
    ∃ order : List FileRun, order.Perm (r.runIntake taken parallel maxWorkers).files ∧
      ∃ rest, (order.flatMap (·.outcomes)).filter (sharesRule o) = o :: rest := by
  obtain ⟨b, hb, rule, applicable, rfl⟩ := mem_outcomesOf.1 mem
  obtain ⟨before, after, split⟩ := List.append_of_mem (List.mem_map_of_mem (f := r.runFile) hb)
  obtain ⟨rest, first⟩ := filter_outcomes_runFile applicable concern
  refine ⟨r.runFile b :: (before ++ after), ?_, ?_⟩
  · show List.Perm _ (taken.bundles.map r.runFile)
    rw [split]
    exact List.perm_middle.symm
  · rw [List.flatMap_cons, List.filter_append, first]
    exact ⟨_, rfl⟩

/-- If in every order the same advice is given, then no rule is given two pieces of advice. -/
theorem nodup_of_same_hints {parallel : Bool} {maxWorkers : Int} {advice : List String}
    (same : ∀ report, (r.runIntake taken parallel maxWorkers).Yields report → report.hints = advice) :
    ((kinds (r.outcomesOf taken.bundles)).map (·.1)).Nodup := by
  have commits : ∀ kind ∈ kinds (r.outcomesOf taken.bundles), ∃ outcomes : List Outcome,
      outcomes.Perm (r.outcomesOf taken.bundles) ∧
        (kinds outcomes).map kindHint ++ (if taken.faults.isEmpty then [] else [readFaultHint]) = advice ∧
        ((kinds outcomes).filter (·.1 == kind.1)).head? = some kind := by
    intro kind mem
    obtain ⟨o, ho, concern, rfl, -⟩ := mem_kinds.1 mem
    obtain ⟨order, perm, rest, first⟩ := exists_order parallel maxWorkers ho concern
    have outcomes := outcomes_of_order perm
    refine ⟨_, outcomes, ?_, head?_kinds first ((kinds_perm outcomes).mem_iff.2 mem)⟩
    rw [← same _ (.inr ⟨order, perm, 0.0, 0.0, rfl⟩), hints_eq, Run.reportOf_eq]
    rfl
  refine List.Nodup.map_on (fun k hk l hl rule => ?_) (nodup_kinds _)
  obtain ⟨os, perm, hints, head⟩ := commits k hk
  obtain ⟨os', perm', hints', head'⟩ := commits l hl
  have listed : kinds os = kinds os' :=
    kinds_eq_of_hints (kinds_perm (perm.trans perm'.symm)) (kinds_sorted os) (kinds_sorted os')
      (List.append_cancel_right (hints.trans hints'.symm))
  rw [rule, listed, head'] at head
  exact (Option.some.inj head).symm

end

/-- However the files are committed, the console reports of a run show the same but for the order of the advice
and for times. The advice stands in the same order exactly if no rule is given two pieces of advice. -/
theorem advice_of_orders {r : Registry} (signs : ∀ rule ∈ r.rules, rule.SignsFindings) {taken : Intake}
    (distinct : (taken.bundles.map (·.path)).Nodup) (strict : Bool) :
    ∃ (opening closing : List Part) (advice : List String), ∀ (parallel : Bool) (maxWorkers : Int),
      (∀ report, (r.runIntake taken parallel maxWorkers).Yields report →
        (∀ renderer, report.timeless.blocks renderer strict =
            (opening ++ (adviceLines report.hints).map Part.text ++ closing).mapM (Part.render renderer)) ∧
          report.hints.Perm advice) ∧
      ((∀ report, (r.runIntake taken parallel maxWorkers).Yields report → report.hints = advice) ↔
        ((hinted (r.outcomesOf taken.bundles)).map (·.rule)).Nodup) := by
  have apart := r.outcomesOf_apart distinct
  have signed := r.signed_outcomesOf signs taken.bundles
  let sequential := Report.ofOutcomes (r.outcomesOf taken.bundles) taken.faults taken.bundles.length
  have rules : ((hinted (r.outcomesOf taken.bundles)).map (·.rule)) =
      (kinds (r.outcomesOf taken.bundles)).map (·.1) := by
    unfold kinds
    rw [List.map_map]
    rfl
  refine ⟨sequential.opening, sequential.closing strict, sequential.hints,
    fun parallel maxWorkers => ⟨fun report yields => ?_, ?_⟩⟩
  · obtain ⟨outcomes, perm, report_eq⟩ := yields_runIntake yields
    have before : report.opening = sequential.opening := by
      rw [report_eq]
      exact (opening_untimed _ _ outcomes).symm.trans (opening_perm _ _ perm.symm apart signed).symm
    have behind : report.closing strict = sequential.closing strict := by
      rw [report_eq]
      exact (closing_untimed _ _ outcomes strict).symm.trans (closing_perm _ _ perm strict)
    obtain ⟨faults, os, same, listed⟩ := kinds_of_yields yields
    refine ⟨?_, ?_⟩
    · intro renderer
      rw [blocks_eq, sheet_timeless, before, behind]
    · rw [hints_eq, hints_eq, faults, listed]
      exact ((kinds_perm same).map _).append_right _
  · rw [rules]
    refine ⟨nodup_of_same_hints, fun single report yields => ?_⟩
    obtain ⟨faults, os, same, listed⟩ := kinds_of_yields yields
    rw [hints_eq, hints_eq, faults, listed, ← kinds_eq_of_nodup same.symm single]
    rfl

/-! ## An instance -/

/-- A rule that finds something in one bundle and crashes on all others. -/
def wavering : Rule where
  name := "wavering"
  description := ""
  severity := .high
  appliesTo := ["*.js"]
  evaluate _ _ path :=
    if path = "a.js" then .ok [{ rule := "wavering", severity := .high, message := "found", file := path }]
    else .error ⟨"ValueError", "no reason"⟩

def waveringOnly : Registry := { rules := [wavering], names_nodup := by decide }

def twoBundles : Intake := { bundles := [⟨"a.js", []⟩, ⟨"b.js", []⟩] }

theorem signsFindings_waveringOnly : ∀ rule ∈ waveringOnly.rules, rule.SignsFindings := by
  intro rule mem cleaned raw path vs result v hv
  obtain rfl := List.mem_singleton.1 mem
  change (if path = "a.js" then _ else _) = _ at result
  split at result
  · obtain rfl := Except.ok.inj result
    obtain rfl := List.mem_singleton.1 hv
    exact ⟨rfl, rfl⟩
  · cases result

theorem outcomes_wavering :
    (waveringOnly.runFile ⟨"a.js", []⟩).outcomes = [wavering.outcomeOn ⟨"a.js", []⟩] ∧
      (waveringOnly.runFile ⟨"b.js", []⟩).outcomes = [wavering.outcomeOn ⟨"b.js", []⟩] := by
  have one (b : Bundle) (covered : Glob.covers "*.js" (FileSystem.baseName b.path) = true) :
      (waveringOnly.runFile b).outcomes = [wavering.outcomeOn b] := by
    have applicable : waveringOnly.applicable b.path = [wavering] :=
      List.filter_cons_of_pos (by simpa [wavering] using covered)
    rw [outcomes_runFile, applicable]
    rfl
  exact ⟨one _ (by decide +kernel), one _ (by decide +kernel)⟩

theorem kinds_wavering :
    let a := wavering.outcomeOn ⟨"a.js", []⟩
    let b := wavering.outcomeOn ⟨"b.js", []⟩
    kinds [a, b] = [("wavering", false), ("wavering", true)] ∧
      kinds [b, a] = [("wavering", true), ("wavering", false)] := by
  intro a b
  have found : a = _ := Rule.outcomeOn_ok rfl
  have crashed : b = _ := Rule.outcomeOn_crash rfl
  have concern : a.status ≠ .passed := by rw [found]; decide
  have concern' : b.status ≠ .passed := by rw [crashed]; decide
  have other : hintKey a ≠ hintKey b := by rw [found, crashed]; decide
  rw [kinds_pair concern concern' rfl other, kinds_pair concern' concern rfl other.symm, found, crashed]
  exact ⟨rfl, rfl⟩

theorem advice_of_orders_of_wavering :
    let run := waveringOnly.runIntake twoBundles true 2
    (∀ rule ∈ waveringOnly.rules, rule.SignsFindings) ∧ (twoBundles.bundles.map (·.path)).Nodup ∧
      ∃ (opening closing : List Part) (advice : List String),
        (∀ report, run.Yields report →
          (∀ renderer, report.timeless.blocks renderer true =
              (opening ++ (adviceLines report.hints).map Part.text ++ closing).mapM (Part.render renderer)) ∧
            report.hints.Perm advice) ∧
        ¬ ∀ report, run.Yields report → report.hints = advice := by
  intro run
  have distinct : (twoBundles.bundles.map (·.path)).Nodup := by decide
  obtain ⟨opening, closing, advice, every⟩ := advice_of_orders signsFindings_waveringOnly distinct true
  obtain ⟨alike, same_iff⟩ := every true 2
  refine ⟨signsFindings_waveringOnly, distinct, opening, closing, advice, alike, fun same => ?_⟩
  have rules := congrArg (List.map Prod.fst) kinds_wavering.1
  unfold kinds at rules
  rw [List.map_map] at rules
  have single := same_iff.1 same
  rw [← outcomes_runIntake waveringOnly twoBundles true 2] at single
  change ((hinted ([waveringOnly.runFile ⟨"a.js", []⟩, waveringOnly.runFile ⟨"b.js", []⟩].flatMap
    (·.outcomes))).map _).Nodup at single
  rw [List.flatMap_cons, List.flatMap_singleton, outcomes_wavering.1, outcomes_wavering.2] at single
  exact absurd (rules ▸ single) (by decide)

/-- What is advised if the first bundle is committed first, and if the second one is. -/
theorem hints_of_wavering :
    let run := waveringOnly.runIntake twoBundles false 1
    let a := waveringOnly.runFile ⟨"a.js", []⟩
    let b := waveringOnly.runFile ⟨"b.js", []⟩
    (∀ rule ∈ waveringOnly.rules, rule.SignsFindings) ∧ (twoBundles.bundles.map (·.path)).Nodup ∧
      run.files = [a, b] ∧
      (run.reportOf [a, b]).hints =
        ["Review the wavering findings above",
          "Rule wavering is failing during evaluation; check its pattern list and profile settings"] ∧
      (run.reportOf [b, a]).hints =
        ["Rule wavering is failing during evaluation; check its pattern list and profile settings",
          "Review the wavering findings above"] := by
  intro run a b
  obtain ⟨outcomesA, outcomesB⟩ := outcomes_wavering
  have advised (order : List FileRun) : (run.reportOf order).hints =
      (kinds (order.flatMap (·.outcomes))).map kindHint := by
    rw [hints_eq, Run.reportOf_eq]
    exact List.append_nil _
  refine ⟨signsFindings_waveringOnly, by decide, rfl, ?_, ?_⟩
  · rw [advised, List.flatMap_cons, List.flatMap_singleton, outcomesA, outcomesB, List.singleton_append,
      kinds_wavering.1]
    decide
  · rw [advised, List.flatMap_cons, List.flatMap_singleton, outcomesA, outcomesB, List.singleton_append,
      kinds_wavering.2]
    decide

end Registry

end BundleAudit

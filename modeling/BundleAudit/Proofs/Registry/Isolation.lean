import BundleAudit.Proofs.Registry.Outcomes
import BundleAudit.Proofs.Registry.Reading
import Mathlib

/-!
# Coverage and isolation

A run on paths accounts for each of them: those that cannot be read give a fault, the others are scanned,
and each rule that looks at one gives an outcome, also if it crashes (`Report.Covers`). What a rule does on
a file, and whether a file can be read, changes the outcomes of no other pair of file and rule
(`Report.SameOutcomes`).
-/

namespace BundleAudit

open BundleAudit.FileSystem

/-! ## Coverage -/

/-- The report accounts for all paths and for all rules that look at them. -/
structure Report.Covers (r : Registry) (t : Tree) (paths : List String) (report : Report) : Prop where
  /-- Each path that cannot be read has one fault, in the order of the paths. -/
  faults : report.faults = paths.filterMap (Intake.fault? t)
  /-- Each path that can be read is counted once. -/
  scanned : report.filesScanned = (paths.filterMap (Intake.bundle? t)).length
  complete : report.filesScanned + report.faults.length = paths.length
  /-- The outcomes are those of the applicable rules on what was read, each once. -/
  outcomes : (report.outcomes.map Outcome.untimed).Perm (r.outcomesOf (paths.filterMap (Intake.bundle? t)))
  /-- A file and a rule that looks at it have as many outcomes as the file has occurrences. -/
  once : ∀ (file : String), ∀ rule ∈ r.applicable file,
    report.outcomes.countP (fun o => o.file == file && o.rule == rule.name) =
      (paths.filterMap (Intake.bundle? t)).countP (·.path == file)

namespace Registry

theorem countP_outcomesOf (r : Registry) {file : String} {rule : Rule} (mem : rule ∈ r.applicable file) :
    ∀ bundles : List Bundle,
      (r.outcomesOf bundles).countP (fun o => o.file == file && o.rule == rule.name) =
        bundles.countP (·.path == file)
  | [] => rfl
  | b :: bundles => by
    have rest := r.countP_outcomesOf mem bundles
    have one : ((r.applicable b.path).map (·.outcomeOn b)).countP
        (fun o => o.file == file && o.rule == rule.name) = if b.path == file then 1 else 0 := by
      rw [List.countP_map]
      cases same : b.path == file with
      | false => simp [same, Function.comp_def]
      | true =>
        obtain rfl := eq_of_beq same
        have single := List.count_eq_one_of_mem (r.applicable_names_nodup b.path) (List.mem_map_of_mem mem)
        rw [List.count, List.countP_map] at single
        simpa [Function.comp_def] using single
    rw [outcomesOf, List.flatMap_cons, List.countP_append, one, List.countP_cons, Nat.add_comm]
    exact congrArg (· + _) rest

theorem covers_of_ends {r : Registry} {t : Tree} {paths : List String}
    (served : ∀ path ∈ paths, Intake.isRefused path = false) {parallel : Bool} {maxWorkers : Int}
    {report : Report} (ends : (r.runIntake (Intake.ofPaths t paths) parallel maxWorkers).Ends report) :
    report.Covers r t paths := by
  obtain ⟨outcomes, perm, report_eq⟩ := ends_runIntake ends
  rw [Intake.bundles_ofPaths t served] at perm report_eq
  rw [Intake.faults_ofPaths t served] at report_eq
  have faults : report.faults = paths.filterMap (Intake.fault? t) := by rw [report_eq]; rfl
  have scanned : report.filesScanned = (paths.filterMap (Intake.bundle? t)).length := by rw [report_eq]; rfl
  have recorded : report.outcomes = outcomes := by rw [report_eq]; rfl
  refine ⟨faults, scanned, ?_, ?_, fun file rule mem => ?_⟩
  · rw [faults, scanned]
    exact Intake.length_bundles_add_faults t paths
  · rw [recorded]
    exact perm
  · rw [recorded, ← r.countP_outcomesOf mem, ← perm.countP_eq, List.countP_map]
    rfl

end Registry

/-! ## Isolation -/

/-- The outcomes of these pairs of file and rule are the same, regardless of the order in which they were
recorded and of the time that the evaluations took. -/
def Report.SameOutcomes (pairs : String → String → Bool) (report report' : Report) : Prop :=
  ((report.outcomes.filter fun o => pairs o.file o.rule).map Outcome.untimed).Perm
    ((report'.outcomes.filter fun o => pairs o.file o.rule).map Outcome.untimed)

/-- The rule with another behaviour on some files. -/
def Rule.replaceOn (files : String → Bool)
    (behaviour : List Char → List Char → String → Except Crash (List Violation)) (rule : Rule) : Rule :=
  { rule with
    evaluate := fun cleaned raw path =>
      if files path then behaviour cleaned raw path else rule.evaluate cleaned raw path }

namespace Registry

section
variable (r : Registry) (name : String) (files : String → Bool)
  (behaviour : List Char → List Char → String → Except Crash (List Violation))

/-- The registry with another behaviour of the rule of a name on some files. -/
def replaceOn : Registry where
  rules := r.rules.map fun rule => if rule.name == name then rule.replaceOn files behaviour else rule
  included := r.included
  names_nodup := by
    rw [List.map_map]
    refine (congrArg List.Nodup (List.map_congr_left fun rule _ => ?_)).mpr r.names_nodup
    show (if rule.name == name then rule.replaceOn files behaviour else rule).name = rule.name
    split <;> rfl

theorem applicable_replaceOn (path : String) :
    (r.replaceOn name files behaviour).applicable path =
      (r.applicable path).map fun rule => if rule.name == name then rule.replaceOn files behaviour else rule := by
  unfold applicable replaceOn
  rw [List.filter_map]
  refine congrArg _ (List.filter_congr fun rule _ => ?_)
  show (if rule.name == name then rule.replaceOn files behaviour else rule).appliesTo.any _ = _
  split <;> rfl

end

/-- Two ways to obtain outcomes of rules come to the same if they keep the same rules and agree on those. -/
theorem filter_map_outcomes {keep : Outcome → Bool} {f g : Rule → Outcome} (rules : List Rule)
    (same : ∀ rule, keep (f rule) = keep (g rule)) (equal : ∀ rule, keep (g rule) = true → f rule = g rule) :
    (rules.map f).filter keep = (rules.map g).filter keep := by
  have kept : rules.filter (keep ∘ f) = rules.filter (keep ∘ g) := List.filter_congr fun rule _ => same rule
  rw [List.filter_map, List.filter_map, kept]
  exact List.map_congr_left fun rule mem => equal rule (List.mem_filter.1 mem).2

theorem filter_outcomesOf_replaceOn (r : Registry) (name : String) (files : String → Bool)
    (behaviour : List Char → List Char → String → Except Crash (List Violation)) (bundles : List Bundle) :
    ((r.replaceOn name files behaviour).outcomesOf bundles).filter
        (fun o => !(files o.file && o.rule == name)) =
      (r.outcomesOf bundles).filter fun o => !(files o.file && o.rule == name) := by
  unfold outcomesOf
  rw [List.filter_flatMap, List.filter_flatMap]
  refine List.flatMap_congr fun b _ => ?_
  rw [applicable_replaceOn, List.map_map]
  refine filter_map_outcomes _ (fun rule => ?_) fun rule kept => ?_
  · show (!(files _ && Outcome.rule (Rule.outcomeOn _ b) == name)) = _
    dsimp only [Function.comp]
    split <;> rfl
  · dsimp only [Function.comp]
    split
    · rename_i named
      have off : files b.path = false := by simpa [named] using kept
      simp [Rule.outcomeOn, Rule.replaceOn, Evaluation.outcome, Evaluation.violations, Evaluation.faulted, off]
    · rfl

/-- The outcomes on paths, path by path. -/
theorem outcomesOf_filterMap (r : Registry) (t : Tree) (paths : List String) :
    r.outcomesOf (paths.filterMap (Intake.bundle? t)) =
      paths.flatMap fun path => r.outcomesOf (Intake.bundle? t path).toList := by
  rw [List.filterMap_eq_flatMap_toList, outcomesOf, List.flatMap_assoc]
  rfl

/-- All outcomes on a path are of its file. -/
theorem file_of_mem_outcomesOf {r : Registry} {t : Tree} {path : String} {o : Outcome}
    (h : o ∈ r.outcomesOf (Intake.bundle? t path).toList) : o.file = Bundle.pathOf path := by
  obtain ⟨b, read, rule, -, rfl⟩ := mem_outcomesOf.1 h
  exact Intake.bundle?_path (Option.mem_toList.1 read)

theorem filter_outcomesOf_reread (r : Registry) {t t' : Tree} {files : String → Bool} {paths : List String}
    (same : ∀ path ∈ paths, files (Bundle.pathOf path) = false → Bundle.read t' path = Bundle.read t path) :
    (r.outcomesOf (paths.filterMap (Intake.bundle? t'))).filter (fun o => !files o.file) =
      (r.outcomesOf (paths.filterMap (Intake.bundle? t))).filter fun o => !files o.file := by
  rw [outcomesOf_filterMap, outcomesOf_filterMap, List.filter_flatMap, List.filter_flatMap]
  refine List.flatMap_congr fun path mem => ?_
  cases changed : files (Bundle.pathOf path) with
  | false => rw [Intake.bundle?, same path mem changed, Intake.bundle?]
  | true =>
    have gone (u : Tree) :
        (r.outcomesOf (Intake.bundle? u path).toList).filter (fun o => !files o.file) = [] :=
      List.filter_eq_nil_iff.2 fun o ho => by simp [file_of_mem_outcomesOf ho, changed]
    rw [gone t', gone t]

/-- Runs whose outcomes are to be the same for some pairs of file and rule end with reports in which
they are. -/
theorem sameOutcomes_of_ends {r r' : Registry} {taken taken' : Intake} {parallel parallel' : Bool}
    {maxWorkers maxWorkers' : Int} {report report' : Report} {pairs : String → String → Bool}
    (ends : (r.runIntake taken parallel maxWorkers).Ends report)
    (ends' : (r'.runIntake taken' parallel' maxWorkers').Ends report')
    (same : (r'.outcomesOf taken'.bundles).filter (fun o => pairs o.file o.rule) =
      (r.outcomesOf taken.bundles).filter fun o => pairs o.file o.rule) :
    report'.SameOutcomes pairs report := by
  have kept {s : Registry} {read : Intake} {parallel : Bool} {maxWorkers : Int} {done : Report}
      (ends : (s.runIntake read parallel maxWorkers).Ends done) :
      ((done.outcomes.filter fun o => pairs o.file o.rule).map Outcome.untimed).Perm
        ((s.outcomesOf read.bundles).filter fun o => pairs o.file o.rule) := by
    obtain ⟨outcomes, perm, report_eq⟩ := ends_runIntake ends
    have recorded : done.outcomes = outcomes := by rw [report_eq]; rfl
    rw [recorded]
    have filtered := perm.filter fun o => pairs o.file o.rule
    rw [List.filter_map] at filtered
    exact filtered
  exact (kept ends').trans (same ▸ (kept ends).symm)

/-- A run ends, and with whatever report it ends, that covers all paths and rules. A rule that crashes has
one failed outcome in it, with one violation. Had the rule of some name behaved differently on some files,
all other pairs of file and rule would have the same outcomes; so would all other files, had some files
been different or not been readable. -/
theorem covered_and_isolated (r : Registry) (t : Tree) {paths : List String}
    (served : ∀ path ∈ paths, Intake.isRefused path = false) (parallel : Bool) (maxWorkers : Int) :
    (∃ report, (r.runIntake (Intake.ofPaths t paths) parallel maxWorkers).Ends report) ∧
      ∀ report, (r.runIntake (Intake.ofPaths t paths) parallel maxWorkers).Ends report →
        report.Covers r t paths ∧
        (∀ b ∈ paths.filterMap (Intake.bundle? t), ∀ rule ∈ r.applicable b.path, ∀ c : Crash,
          rule.evaluate (Source.strip b.content) b.content b.path = .error c →
            { file := b.path, rule := rule.name, status := .failed, faulted := true
              violations :=
                [{ rule := rule.name, severity := .high, file := b.path
                   message := s!"Rule raised {c.kind}: {c.message}" }] : Outcome } ∈
              report.outcomes.map Outcome.untimed) ∧
        (∀ name files behaviour parallel' maxWorkers' report',
          ((r.replaceOn name files behaviour).runIntake (Intake.ofPaths t paths) parallel' maxWorkers').Ends
              report' →
            report'.SameOutcomes (fun file rule => !(files file && rule == name)) report) ∧
        ∀ (t' : Tree) (files : String → Bool),
          (∀ path ∈ paths, files (Bundle.pathOf path) = false → Bundle.read t' path = Bundle.read t path) →
            ∀ parallel' maxWorkers' report',
              (r.runIntake (Intake.ofPaths t' paths) parallel' maxWorkers').Ends report' →
                report'.SameOutcomes (fun file _ => !files file) report := by
  refine ⟨⟨_, Run.ends_report (r.capacity_runIntake _ parallel maxWorkers)⟩, fun report ends => ?_⟩
  have covers := covers_of_ends served ends
  refine ⟨covers, fun b read rule mem c raised => ?_, fun name files behaviour _ _ report' ends' => ?_,
    fun t' files same _ _ report' ends' => ?_⟩
  · refine covers.outcomes.mem_iff.2 (mem_outcomesOf.2 ⟨b, read, rule, mem, ?_⟩)
    exact Rule.outcomeOn_crash raised
  · exact sameOutcomes_of_ends ends ends' (r.filter_outcomesOf_replaceOn name files behaviour _)
  · refine sameOutcomes_of_ends ends ends' ?_
    rw [Intake.bundles_ofPaths t served, Intake.bundles_ofPaths t' served]
    exact r.filter_outcomesOf_reread same

theorem covered_and_isolated_of_crash :
    let t : Tree := { entries := [(["a.js"], .file []), (["b.js"], .file [])], workingDirectory := [] }
    let rule : Rule :=
      { name := "crashing", description := "", severity := .low, appliesTo := ["*.js"]
        evaluate := fun _ _ _ => .error ⟨"ValueError", "no reason"⟩ }
    let r : Registry := { rules := [rule] }
    let paths := ["b.js", "c.js", "a.js"]
    (∀ path ∈ paths, Intake.isRefused path = false) ∧
      ∃ report, (r.runIntake (Intake.ofPaths t paths) true 2).Ends report ∧
        report.filesScanned = 2 ∧ report.faults.length = 1 ∧
        { file := "b.js", rule := "crashing", status := .failed, faulted := true
          violations :=
            [{ rule := "crashing", severity := .high, file := "b.js"
               message := "Rule raised ValueError: no reason" }] : Outcome } ∈
          report.outcomes.map Outcome.untimed ∧
        ∀ report',
          ((r.replaceOn "crashing" (· == "b.js") fun _ _ _ => .ok []).runIntake (Intake.ofPaths t paths)
            false 1).Ends report' →
          report'.SameOutcomes (fun file rule => !(file == "b.js" && rule == "crashing")) report := by
  intro t rule r paths
  have served : ∀ path ∈ paths, Intake.isRefused path = false := by simp [paths, Intake.isRefused]
  have read : paths.filterMap (Intake.bundle? t) = [⟨"b.js", []⟩, ⟨"a.js", []⟩] := by cbv
  have applicable : rule ∈ r.applicable "b.js" := List.mem_filter.2 ⟨List.mem_singleton.2 rfl, by decide +kernel⟩
  obtain ⟨⟨report, ends⟩, every⟩ := covered_and_isolated r t served true 2
  obtain ⟨covers, crashes, replaced, -⟩ := every report ends
  have scanned : report.filesScanned = 2 := by rw [covers.scanned, read]; rfl
  refine ⟨served, report, ends, scanned, ?_, ?_, fun report' ends' => replaced _ _ _ false 1 report' ends'⟩
  · have complete := covers.complete
    rw [scanned] at complete
    exact Nat.add_left_cancel complete
  · exact crashes ⟨"b.js", []⟩ (by rw [read]; exact List.mem_cons_self) rule applicable _ rfl

end Registry

end BundleAudit

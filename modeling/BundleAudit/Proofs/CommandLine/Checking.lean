import BundleAudit.Proofs.CommandLine.Announcement
import BundleAudit.Proofs.CommandLine.CheckCall
import BundleAudit.Proofs.Registry.Agreement
import BundleAudit.Proofs.Registry.Calls
import BundleAudit.Proofs.Registry.Verdict
import BundleAudit.Proofs.Report.Blocks
import BundleAudit.Proofs.Rule.Signing

/-!
# Checking with a profile

Once its settings and its profile are known, a check registers the rules, looks for bundles, says what it is
going to check and shows a report (`checkUnder`). If the rules can be read, it ends by the verdict on the
bundles, or it ends at the first thing that is missing: the directory, a bundle, the name of the profile or
the date.
-/

namespace BundleAudit.CommandLine

open BundleAudit.Console BundleAudit.FileSystem

/-- How the check ends, by its verdict. -/
def endOf (success : Bool) : Except Stop Unit := if success then .ok () else .error (.exit 1)

/-- What stands on the standard output at the end of a check. -/
structure Prints (text : String) (format : OutputFormat) (success : Bool) : Prop where
  isEmpty : format = .text → text = ""
  document : format = .json → ∃ document : Json,
    text = document.text .indented ++ "\n" ∧ document.verdict? = some (.bool success)

theorem document_isOk {r : Report} {stamp : String} (dated : Time.stampText r.timestamp = .ok stamp)
    (strict : Bool) : ∃ document, r.document strict = .ok document := by
  unfold Report.document
  exact bind_isOk ⟨stamp, dated⟩ fun _ => ⟨_, rfl⟩

namespace Program

/-- What a check does with its settings and its profile. -/
def checkUnder (around : Surroundings) (view : LogView) (s : Settings) (p : Profile) : Program Unit := do
  let registry ← buildRegistry view p s.severities
  let bundles ← discover around view s p
  if s.format == .text then announce around.renderer s p bundles.length registry.rules.length
  checkBundles around view s registry bundles

theorem check_eq {around : Surroundings} {view : LogView} {profilePath : Option String} {words : List String}
    {r : Reading} {s : Settings} (accepts : Accepts around.files checkCommand true words r)
    (noWords : r.words = []) (settings : checkSettings around.environment r = pure s) :
    check around view profilePath words = loadProfile around.files profilePath >>= checkUnder around view s := by
  unfold check
  dsimp only
  rw [readOptions_eq accepts noWords, pure_bind, settings, pure_bind]
  rfl

/-! ## Rules -/

/-- Rules that are refused are passed over. -/
theorem fst_registerAll : ∀ (rules : List Rule) (r : Registry) (entries : List LogEntry),
    (registerAll r entries rules).1 = r.afterCalls rules
  | [], _, _ => rfl
  | rule :: rest, r, entries => by
    have step : r.afterCalls (rule :: rest) = (r.call rule).2.afterCalls rest := rfl
    rw [registerAll, step, Registry.call]
    cases r.register rule with
    | error e => exact fst_registerAll rest r entries
    | ok taken => exact fst_registerAll rest taken.2 _

theorem buildRegistry_unread {p : Profile} {e : Regex.ReadError} (unread : defaultRules p = .error e)
    (view : LogView) (included : List Severity) :
    buildRegistry view p included = stop (.failure (.expression e)) := by
  unfold buildRegistry
  rw [unread]
  rfl

/-! ## Bundles -/

variable {around : Surroundings} {p : Profile}

/-- What a check finds in its directory: it cannot be looked at, or it has no bundles, or it has some. -/
inductive Finds (t : Tree) (s : Settings) (p : Profile) : Except Stop (List String) → Prop
  | blocked {e : FileError}
    (failed : Discovery.find t s.distDir (p.text .bundleMarker) (p.text .bundleExtension) = .error e) :
    Finds t s p (.error (.failure (.file e)))
  | nothing {found}
    (looked : Discovery.find t s.distDir (p.text .bundleMarker) (p.text .bundleExtension) = .ok found)
    (none : Discovery.paths? t s.distDir (p.text .bundleMarker) (p.text .bundleExtension) = none) :
    Finds t s p (.error (.exit 1))
  | bundles {found} {paths : List String}
    (looked : Discovery.find t s.distDir (p.text .bundleMarker) (p.text .bundleExtension) = .ok found)
    (some : Discovery.paths? t s.distDir (p.text .bundleMarker) (p.text .bundleExtension) = some paths) :
    Finds t s p (.ok paths)

theorem runs_discover (view : LogView) (s : Settings) (p : Profile) :
    ∃ result, Runs (discover around view s p) result "" ∧ Finds around.files s p result := by
  unfold discover
  dsimp only
  cases looked : Discovery.find around.files s.distDir (p.text .bundleMarker) (p.text .bundleExtension) with
  | error e => exact ⟨_, (runs_orFail_error rfl).stop, .blocked looked⟩
  | ok result =>
    cases result with
    | error e =>
      refine ⟨_, (runs_orFail rfl).then (runs_noBundles around.renderer e), .nothing looked ?_⟩
      rw [Discovery.paths?, looked]
    | ok found =>
      cases listed : found.bundles (p.text .bundleMarker) (p.text .bundleExtension) with
      | error e =>
        refine ⟨_, (runs_orFail rfl).then ((runs_log _ _).then ?_), .nothing looked ?_⟩
        · simp only [listed]
          exact runs_noBundles around.renderer e
        · simp only [Discovery.paths?, looked, listed]
          rfl
      | ok paths =>
        refine ⟨.ok paths, (runs_orFail rfl).then ((runs_log _ _).then ?_), .bundles looked ?_⟩
        · simp only [listed]
          exact runs_pure paths
        · simp only [Discovery.paths?, looked, listed]
          rfl

theorem Finds.paths?_eq_some {t : Tree} {s : Settings} {paths : List String} (h : Finds t s p (.ok paths)) :
    Discovery.paths? t s.distDir (p.text .bundleMarker) (p.text .bundleExtension) = some paths := by
  cases h with
  | bundles looked some => exact some

theorem Finds.paths?_eq_none {t : Tree} {s : Settings} {stop : Stop} (h : Finds t s p (.error stop)) :
    Discovery.paths? t s.distDir (p.text .bundleMarker) (p.text .bundleExtension) = none := by
  cases h with
  | blocked failed => rw [Discovery.paths?, failed]
  | nothing looked none => exact none

theorem Finds.exitCode_eq_one {t : Tree} {s : Settings} {stop : Stop} (h : Finds t s p (.error stop)) :
    stop.exitCode = 1 := by
  cases h <;> rfl

/-! ## The report -/

section
variable (renderer : Renderer)

theorem runs_exitWith (r : Report) (strict : Bool) :
    Runs (if r.exitCode strict != 0 then stop (.exit (r.exitCode strict)) else pure ())
      (endOf (r.isSuccess strict)) "" := by
  unfold Report.exitCode endOf
  cases r.isSuccess strict with
  | true => exact runs_pure ()
  | false => exact runs_stop _

/-- A report that can be shown in either format is shown, and the check ends by its verdict. -/
theorem runs_conclude (r : Report) (format : OutputFormat) (strict : Bool)
    (dated : format = .json → ∃ stamp, Time.stampText r.timestamp = .ok stamp)
    (drawn : ∃ blocks, r.blocks renderer strict = .ok blocks) :
    ∃ text, Runs (conclude renderer r format strict) (endOf (r.isSuccess strict)) text ∧
      Prints text format (r.isSuccess strict) := by
  unfold conclude
  cases format with
  | text =>
    obtain ⟨blocks, drawn⟩ := drawn
    refine ⟨"", ?_, ⟨fun _ => rfl, fun json => by cases json⟩⟩
    exact (runs_orFail drawn).then ((runs_print _).then (runs_exitWith r strict))
  | json =>
    obtain ⟨stamp, dated⟩ := dated rfl
    obtain ⟨document, written⟩ := document_isOk dated strict
    have text : r.documentText strict = .ok (document.text .indented) := by
      rw [Report.documentText, written]
      rfl
    refine ⟨document.text .indented ++ "\n", ?_, ⟨fun text => (by cases text), fun _ => ?_⟩⟩
    · exact (runs_orFail text).then ((runs_writeOut _).quiet (runs_exitWith r strict))
    · exact ⟨document, rfl, (Report.tasks_and_verdict?_document written).2⟩

theorem runs_conclude_undated (r : Report) {time : Float} {e : Time.StampError}
    (undated : Time.stampText time = .error e) (strict : Bool) :
    Runs (conclude renderer { r with timestamp := time } .json strict) (.error (.failure (.time e))) "" := by
  unfold conclude
  refine (runs_orFail_error ?_).stop
  rw [Report.documentText, Report.document, undated]
  rfl

end

/-- The report can be shown: as a text under the name of the profile, or for machines with a date. -/
def CanShow (around : Surroundings) (s : Settings) (p : Profile) : Prop :=
  match s.format with
  | .text => p.name ≠ none
  | .json => ∃ stamp, Time.stampText around.time = .ok stamp

theorem runs_hidden (view : LogView) {s : Settings} (hidden : ¬ CanShow around s p) (registry : Registry)
    (paths : List String) : ∃ f, Runs (do
      if s.format == .text then announce around.renderer s p paths.length registry.rules.length
      checkBundles around view s registry paths) (.error (.failure f)) "" := by
  unfold CanShow at hidden
  cases format : s.format with
  | text =>
    rw [format] at hidden
    have unnamed : p.name = none := not_not.1 hidden
    refine ⟨.noProfileName, Runs.stop ?_⟩
    unfold announce
    rw [unnamed]
    exact runs_stop _
  | json =>
    rw [format] at hidden
    cases dated : Time.stampText around.time with
    | ok stamp => exact absurd ⟨stamp, dated⟩ hidden
    | error e =>
      refine ⟨.time e, ?_⟩
      show Runs (checkBundles around view s registry paths) _ _
      unfold checkBundles
      rw [format]
      generalize registry.runIntake (Intake.ofPaths around.files paths) s.parallel s.maxWorkers = run
      exact (runs_log view run.log).then (runs_conclude_undated around.renderer run.report dated s.strict)

/-- The ways in which a check ends whose rules can be read. -/
inductive Concludes (around : Surroundings) (s : Settings) (p : Profile) (rules : List Rule) :
    Except Stop Unit → String → Prop
  | unseen {stop : Stop} (unseen : Finds around.files s p (.error stop)) :
    Concludes around s p rules (.error stop) ""
  | hidden {paths : List String} (found : Finds around.files s p (.ok paths)) (hidden : ¬ CanShow around s p)
    (f : Failure) : Concludes around s p rules (.error (.failure f)) ""
  | shown {paths : List String} (found : Finds around.files s p (.ok paths)) (shown : CanShow around s p)
    {text : String} {success : Bool} (prints : Prints text s.format success)
    (verdict : success = true ↔ Succeeds (rules.filter (s.severities.contains ·.severity))
      (Intake.ofPaths around.files paths) s.strict) :
    Concludes around s p rules (endOf success) text

/-! ## The whole -/

section
variable {rules : List Rule} (read : defaultRules p = .ok rules)
include read

theorem runs_buildRegistry (view : LogView) (included : List Severity) : ∃ registry : Registry,
    Runs (buildRegistry view p included) (.ok registry) "" ∧
      registry.rules = rules.filter (included.contains ·.severity) := by
  have distinct : ((rules.filter (included.contains ·.severity)).map (·.name)).Nodup :=
    (nodup_names_of_defaultRules read).sublist (List.filter_sublist.map _)
  unfold buildRegistry
  refine ⟨(registerAll { included := some included } [] rules).1, ?_, ?_⟩
  · refine (runs_orFail read).then ?_
    exact (runs_log _ _).then ((runs_log _ _).then (runs_pure _))
  · rw [fst_registerAll, Registry.rules_afterCalls_empty]
    exact firsts_eq_self distinct

theorem plain_of_defaultRules {rule : Rule} (mem : rule ∈ rules) : '[' ∉ rule.name.toList := by
  have plain : ∀ name ∈ ruleNames, '[' ∉ name.toList := by decide
  refine plain rule.name ?_
  rw [← names_of_defaultRules read]
  exact List.mem_map_of_mem mem

/-- The report of a run can be shown on the console. -/
theorem blocks_isOk_of_subset {registry : Registry} (registered : registry.rules ⊆ rules)
    (taken : Intake) (parallel : Bool) (maxWorkers : Int) (time : Float) (renderer : Renderer) (strict : Bool) :
    ∃ blocks, ({ (registry.runIntake taken parallel maxWorkers).report with timestamp := time } :
      Report).blocks renderer strict = .ok blocks := by
  have signs : ∀ rule ∈ registry.rules, rule.SignsFindings := fun rule mem =>
    signsFindings_of_defaultRules read (registered mem)
  have plain : ∀ o ∈ registry.outcomesOf taken.bundles, '[' ∉ o.rule.toList := by
    intro o mem
    obtain ⟨b, -, rule, applicable, rfl⟩ := Registry.mem_outcomesOf.1 mem
    exact plain_of_defaultRules read (registered (Registry.mem_applicable applicable))
  have report_eq := (registry.runIntake taken parallel maxWorkers).reportOf_eq
    (registry.runIntake taken parallel maxWorkers).files
  rw [Registry.outcomes_runIntake] at report_eq
  rw [Run.report, report_eq]
  refine Report.blocks_isOk renderer plain (fun v mem => ?_) strict
  obtain ⟨o, recorded, found⟩ := List.mem_flatMap.1 mem
  rw [(registry.signed_outcomesOf signs taken.bundles o recorded v found).2]
  exact plain o recorded

theorem runs_checkBundles (view : LogView) (s : Settings) {registry : Registry}
    (registered : registry.rules ⊆ rules)
    (dated : s.format = .json → ∃ stamp, Time.stampText around.time = .ok stamp) (paths : List String) :
    ∃ text success, Runs (checkBundles around view s registry paths) (endOf success) text ∧
      Prints text s.format success ∧
        (success = true ↔ Succeeds registry.rules (Intake.ofPaths around.files paths) s.strict) := by
  have drawn := blocks_isOk_of_subset read registered (Intake.ofPaths around.files paths) s.parallel
    s.maxWorkers around.time around.renderer s.strict
  have ends := Run.ends_report
    (registry.capacity_runIntake (Intake.ofPaths around.files paths) s.parallel s.maxWorkers)
  have verdict := Registry.isSuccess_of_ends ends s.strict
  unfold checkBundles
  generalize registry.runIntake (Intake.ofPaths around.files paths) s.parallel s.maxWorkers = run at *
  obtain ⟨text, concludes, prints⟩ :=
    runs_conclude around.renderer { run.report with timestamp := around.time } s.format s.strict dated drawn
  -- The time of the report has no part in its verdict.
  exact ⟨text, _, (runs_log _ _).then concludes, prints, verdict⟩

/-- What follows the registration of the rules, if there are bundles. -/
theorem runs_shown (view : LogView) {s : Settings} (shown : CanShow around s p) {registry : Registry}
    (registered : registry.rules ⊆ rules) (paths : List String) :
    ∃ text success, Runs (do
        if s.format == .text then announce around.renderer s p paths.length registry.rules.length
        checkBundles around view s registry paths) (endOf success) text ∧
      Prints text s.format success ∧
        (success = true ↔ Succeeds registry.rules (Intake.ofPaths around.files paths) s.strict) := by
  unfold CanShow at shown
  cases format : s.format with
  | text =>
    rw [format] at shown
    obtain ⟨name, named⟩ := Option.ne_none_iff_exists'.1 shown
    obtain ⟨text, success, checked, prints, verdict⟩ :=
      runs_checkBundles read view s registered (fun json => by rw [format] at json; cases json) paths
    rw [format] at prints
    exact ⟨text, success, (runs_announce around.renderer s named _ _).then checked, prints, verdict⟩
  | json =>
    rw [format] at shown
    obtain ⟨text, success, checked, prints, verdict⟩ :=
      runs_checkBundles read view s registered (fun _ => shown) paths
    rw [format] at prints
    exact ⟨text, success, checked, prints, verdict⟩

theorem runs_checkUnder (view : LogView) (s : Settings) :
    ∃ result text, Runs (checkUnder around view s p) result text ∧ Concludes around s p rules result text := by
  obtain ⟨registry, registered, selected⟩ := runs_buildRegistry read view s.severities
  obtain ⟨result, discovered, found⟩ := runs_discover view s p
  unfold checkUnder
  cases result with
  | error stop => exact ⟨_, _, registered.then discovered.stop, .unseen found⟩
  | ok paths =>
    by_cases shown : CanShow around s p
    · have subset : registry.rules ⊆ rules := selected ▸ List.filter_subset_self _
      obtain ⟨text, success, checked, prints, verdict⟩ := runs_shown read view shown subset paths
      rw [selected] at verdict
      exact ⟨_, _, registered.then (discovered.then checked), .shown found shown prints verdict⟩
    · obtain ⟨f, failed⟩ := runs_hidden view shown registry paths
      exact ⟨_, _, registered.then (discovered.then failed), .hidden found shown f⟩

end

end Program

end BundleAudit.CommandLine

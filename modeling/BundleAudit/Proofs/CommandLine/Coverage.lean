import BundleAudit.Proofs.CommandLine.Checking
import BundleAudit.Proofs.CommandLine.Relisting
import BundleAudit.Proofs.Registry.Coverage

/-!
# No bundle goes unchecked

A check that is asked for its document ends without one if discovery fails. If it does not, the document
accounts for each bundle of the directory (`run_accounts`). It is the document of a run on the bundles, and
whatever the schedule of that run, each document that it can end with accounts for them.
-/

namespace BundleAudit

open BundleAudit.FileSystem

/-- What a report writes for machines; nothing if its time has no date. -/
def Report.printed (r : Report) (strict : Bool) : String :=
  match r.documentText strict with
  | .ok text => text ++ "\n"
  | .error _ => ""

theorem Discovery.paths?_eq_some_iff {t : Tree} {directory marker ext : String} {paths : List String} :
    paths? t directory marker ext = some paths ↔ search t directory marker ext = .ok (.ok paths) := by
  unfold paths? search
  cases find t directory marker ext with
  | error e => exact iff_of_false (fun h => nomatch h) fun h => nomatch h
  | ok result =>
    cases result with
    | error e => exact iff_of_false (fun h => nomatch h) fun h => nomatch h
    | ok found =>
      show (found.bundles marker ext).toOption = some paths ↔ Except.ok (found.bundles marker ext) = _
      cases found.bundles marker ext <;> simp [Except.toOption]

/-- The time of a report is open. -/
theorem Run.Ends.dated {r : Run} {report : Report} (ends : r.Ends report) (time : Float) :
    r.Ends { report with timestamp := time } := by
  obtain ⟨p, elapsed, timestamp, steps, stuck, rfl⟩ := ends
  exact ⟨p, elapsed, time, steps, stuck, rfl⟩

namespace CommandLine

open BundleAudit.Console

/-- A call of the check that asks for the document, with all that it has been given. -/
structure DocumentCall (around : Surroundings) (words : List String) where
  /-- The options in front of the name of the command, and the words behind it. -/
  globals : Reading
  arguments : List String
  options : Reading
  settings : Settings
  profile : Profile
  rules : List Rule
  accepts_globals : Accepts around.files Program.group false words globals
  globals_words : globals.words = "check" :: arguments
  accepts_options : Accepts around.files Program.checkCommand true arguments options
  options_words : options.words = []
  settings_eq : Program.checkSettings around.environment options = pure settings
  profile_eq : Program.loadProfile around.files (globals.value? "--profile") = pure profile
  rules_eq : defaultRules profile = .ok rules
  format_eq : settings.format = .json

namespace DocumentCall

variable {around : Surroundings} {words : List String}

def marker (c : DocumentCall around words) : String := c.profile.text .bundleMarker

def ext (c : DocumentCall around words) : String := c.profile.text .bundleExtension

def directory (c : DocumentCall around words) : String := c.settings.distDir

/-- The rules whose severity is asked for. -/
def selected (c : DocumentCall around words) : List Rule :=
  c.rules.filter (c.settings.severities.contains ·.severity)

/-- What discovery comes to. -/
def search (c : DocumentCall around words) : Except FileError (Except DiscoveryError (List String)) :=
  Discovery.search around.files c.directory c.marker c.ext

end DocumentCall

namespace Program

variable {around : Surroundings} {s : Settings}

theorem runs_conclude_json (renderer : Renderer) (r : Report) (strict : Bool) :
    ∃ result, Runs (conclude renderer r .json strict) result (r.printed strict) := by
  unfold conclude Report.printed
  cases written : r.documentText strict with
  | error e => exact ⟨_, Runs.stop (runs_orFail_error rfl)⟩
  | ok text => exact ⟨_, (runs_orFail rfl).then ((runs_writeOut _).quiet (runs_exitWith r strict))⟩

/-- Where bundles are found, a check writes a document of the run on them. -/
theorem runs_checkUnder_json (json : s.format = .json) {p : Profile} {rules : List Rule}
    (read : defaultRules p = .ok rules) (view : LogView) {paths : List String}
    (found : Discovery.search around.files s.distDir (p.text .bundleMarker) (p.text .bundleExtension) =
      .ok (.ok paths)) :
    ∃ (registry : Registry) (report : Report),
      registry.rules = rules.filter (s.severities.contains ·.severity) ∧
      (registry.runIntake (Intake.ofPaths around.files paths) s.parallel s.maxWorkers).Ends report ∧
        report.timestamp = around.time ∧
          ∃ result, Runs (checkUnder around view s p) result (report.printed s.strict) := by
  obtain ⟨registry, registered, selected⟩ := runs_buildRegistry read view s.severities
  obtain ⟨result, discovered, finds⟩ := runs_discover view s p
  -- What the program finds is what was found.
  have paths?_eq := Discovery.paths?_eq_some_iff.2 found
  obtain rfl : result = .ok paths := by
    cases result with
    | error stop => exact absurd (finds.paths?_eq_none.symm.trans paths?_eq) (by simp)
    | ok paths' => rw [Option.some.inj (finds.paths?_eq_some.symm.trans paths?_eq)]
  have ends := (Run.ends_report
    (registry.capacity_runIntake (Intake.ofPaths around.files paths) s.parallel s.maxWorkers)).dated around.time
  obtain ⟨result, concludes⟩ := runs_conclude_json around.renderer
    { (registry.runIntake (Intake.ofPaths around.files paths) s.parallel s.maxWorkers).report with
      timestamp := around.time } s.strict
  refine ⟨registry, _, selected, ends, rfl, result, ?_⟩
  unfold checkUnder
  refine registered.then (discovered.then ?_)
  rw [json]
  show Runs (checkBundles around view s registry paths) _ _
  unfold checkBundles
  rw [json]
  exact (runs_log view _).then concludes

/-- Where none are found, a check fails without a word on the standard output. -/
theorem runs_checkUnder_unseen {p : Profile} {rules : List Rule} (read : defaultRules p = .ok rules)
    (view : LogView) (unseen : ∀ paths, Discovery.search around.files s.distDir (p.text .bundleMarker)
      (p.text .bundleExtension) ≠ .ok (.ok paths)) :
    ∃ stop : Stop, stop.exitCode = 1 ∧ Runs (checkUnder around view s p) (.error stop) "" := by
  obtain ⟨registry, registered, -⟩ := runs_buildRegistry read view s.severities
  obtain ⟨result, discovered, finds⟩ := runs_discover view s p
  cases result with
  | error stop => exact ⟨stop, finds.exitCode_eq_one, registered.then discovered.stop⟩
  | ok paths => exact absurd (Discovery.paths?_eq_some_iff.1 finds.paths?_eq_some) (unseen paths)

end Program

section
variable {around : Surroundings} {words : List String} (c : DocumentCall around words)
include c

/-- A call comes to check with its settings and its profile. -/
theorem runGroup_eq_checkUnder : ∃ view : Program.LogView,
    Program.runGroup around words = Program.checkUnder around view c.settings c.profile := by
  obtain ⟨view, whole⟩ := Program.runGroup_eq c.accepts_globals c.globals_words
  rw [if_pos (by decide), Program.check_eq c.accepts_options c.options_words c.settings_eq, c.profile_eq,
    pure_bind] at whole
  exact ⟨view, whole⟩

theorem stdout_run_of_found {paths : List String} (found : c.search = .ok (.ok paths)) :
    ∃ (registry : Registry) (report : Report), registry.rules = c.selected ∧
      (registry.runIntake (Intake.ofPaths around.files paths) c.settings.parallel
        c.settings.maxWorkers).Ends report ∧
      report.timestamp = around.time ∧
      (run around words).output.stdout = report.printed c.settings.strict := by
  obtain ⟨view, whole⟩ := runGroup_eq_checkUnder c
  obtain ⟨registry, report, selected, ends, dated, result, runs⟩ :=
    Program.runs_checkUnder_json c.format_eq c.rules_eq view found
  exact ⟨registry, report, selected, ends, dated, (Program.run_of_runs (whole ▸ runs)).2⟩

theorem run_of_unseen (unseen : ∀ paths, c.search ≠ .ok (.ok paths)) :
    (run around words).exitCode = 1 ∧ (run around words).output.stdout = "" := by
  obtain ⟨view, whole⟩ := runGroup_eq_checkUnder c
  obtain ⟨stop, code, runs⟩ := Program.runs_checkUnder_unseen c.rules_eq view unseen
  obtain ⟨exit, stdout⟩ := Program.run_of_runs (whole ▸ runs)
  exact ⟨exit.trans code, stdout⟩

end

/-- Discovery ends in an error of its own if and only if there is no directory or no bundle in it, and it is
refused if and only if a path is too long. In both cases the check fails. In any other case it writes the
document of a run on the bundles of the directory, and every such document accounts for each of them: whatever
the schedule of the run, and however the files have changed since they were listed. The order of the listing
is not seen. -/
theorem run_accounts {around : Surroundings} {words : List String} (c : DocumentCall around words)
    (named : around.files.IsNamed) :
    ((∃ e, c.search = .ok (.error e)) ↔
      ¬ Discovery.IsOverlong around.files (Path.ofString c.directory) ∧
        ∀ place name, around.files.directory? (Path.ofString c.directory) = .ok (some place) →
          ¬ Discovery.IsBundle around.files place c.marker c.ext name) ∧
    ((∃ e, c.search = .error e) ↔ Discovery.IsOverlong around.files (Path.ofString c.directory)) ∧
    ((∀ paths, c.search ≠ .ok (.ok paths)) →
      (run around words).exitCode = 1 ∧ (run around words).output.stdout = "") ∧
    (∀ paths, c.search = .ok (.ok paths) → ∃ place names,
      around.files.directory? (Path.ofString c.directory) = .ok (some place) ∧
      Discovery.Lists around.files place c.marker c.ext names ∧ names ≠ [] ∧
      paths = names.map (Discovery.pathOf c.directory) ∧
      (∃ (registry : Registry) (report : Report), registry.rules = c.selected ∧
        (registry.runIntake (Intake.ofPaths around.files paths) c.settings.parallel
          c.settings.maxWorkers).Ends report ∧ report.timestamp = around.time ∧
            (run around words).output.stdout = report.printed c.settings.strict) ∧
      ∀ (registry : Registry) (later : Tree) (parallel : Bool) (maxWorkers : Int) (report : Report),
        registry.rules = c.selected →
        (registry.runIntake (Intake.ofPaths later paths) parallel maxWorkers).Ends report → ∀ strict : Bool,
          ∃ document : String → Json,
            report.document strict = (Time.stampText report.timestamp).map document ∧
              ∀ stamp, (document stamp).Accounts later c.directory names c.selected) ∧
    (∀ files : Tree, around.files.Relists files →
      run { around with files := files } words = run around words) := by
  refine ⟨Discovery.search_raises_iff named c.marker c.ext, Discovery.search_refused_iff named c.marker c.ext,
    run_of_unseen c, fun paths found => ?_, fun files relists => run_relisted relists words⟩
  -- Of the ways in which a search ends, only one gives paths.
  have sought := Discovery.search_ends named c.directory c.marker c.ext
  rw [show Discovery.search around.files c.directory c.marker c.ext = _ from found] at sought
  cases sought with
  | @bundles place names short there lists some =>
    refine ⟨place, names, there, lists, some, rfl, stdout_run_of_found c found, ?_⟩
    intro registry later parallel maxWorkers report selected ends strict
    have bundleNames : ∀ name ∈ names, IsName name := fun name mem =>
      named.of_mem_children (Tree.mem_children_of_file (Tree.holdsFile_iff.2 ((lists.mem name).1 mem).file))
    rw [← selected]
    exact Registry.accounts_of_ends bundleNames lists.nodup there ends strict

/-- Of a directory with a bundle, a chunk and another file, the bundle has a task for the one rule whose
severity is asked for. If the bundle is gone when it is to be read, it is a fault. -/
theorem run_accounts_of_mixed_directory :
    let files : Tree :=
      { entries := [(["dist", "notes.txt"], .file []), (["dist", "b.umd.js"], .file []),
          (["dist", "7.umd.js"], .file [])]
        workingDirectory := [] }
    let emptied : Tree := { entries := [], workingDirectory := [] }
    let around : Surroundings := { environment := [], files := files }
    let words := ["check", "--json", "--severity", "low"]
    ∃ c : DocumentCall around words, files.IsNamed ∧ c.search = .ok (.ok ["dist/b.umd.js"]) ∧
      (∃ (report : Report) (document : String → Json),
        (run around words).output.stdout = report.printed false ∧
          report.document false = (Time.stampText report.timestamp).map document ∧
            ∀ stamp, (document stamp).tasks.map Json.row =
              [(some "dist/b.umd.js", some "build-target-validation")]) ∧
      (∀ (registry : Registry) (report : Report), registry.rules = c.selected →
        (registry.runIntake (Intake.ofPaths emptied ["dist/b.umd.js"]) true 4).Ends report →
          ∃ document : String → Json, report.document false = (Time.stampText report.timestamp).map document ∧
            ∀ stamp, (document stamp).tasks.map Json.row = [] ∧
              (document stamp).faults.map (·.string? "file") = [some "dist/b.umd.js"]) ∧
      run { around with files := { files with entries := files.entries.reverse } } words = run around words := by
  intro files emptied around words
  obtain ⟨rules, rules_eq⟩ := exists_rules_umdSdk
  obtain ⟨primary, fallback, -, -, rfl⟩ := eq_of_defaultRules rules_eq
  have named : files.IsNamed := by decide +kernel
  have there : files.directory? (Path.ofString "dist") = .ok (some ["dist"]) := by cbv
  have fits : ∀ name ∈ files.children ["dist"], Tree.Fits (Path.ofString "dist") name := by decide +kernel
  have bundles : Discovery.namesIn files ["dist"] ".umd." ".js" = ["b.umd.js"] := by
    have kept : ((files.children ["dist"]).filter fun name => files.holdsFile (["dist"] ++ [name]) &&
        Discovery.isCandidateName ".umd." ".js" name && !Discovery.isChunkName name) = ["b.umd.js"] := by
      decide +kernel
    rw [← List.perm_singleton, ← kept]
    exact Discovery.namesIn_perm _ _ _ _
  have found : Discovery.search files "dist" ".umd." ".js" = .ok (.ok ["dist/b.umd.js"]) := by
    rw [Discovery.search_of_directory named there fits, bundles]
    rfl
  let c : DocumentCall around words :=
    { globals := { words := words }
      arguments := ["--json", "--severity", "low"]
      options :=
        { given := [⟨Program.checkCommand.options[0], ""⟩, ⟨Program.checkCommand.options[3], "low"⟩] }
      settings := { format := .json, severities := [.low] }
      profile := Profile.umdSdk
      rules := _
      accepts_globals := ⟨rfl, rfl, fun g mem => by cases mem⟩
      globals_words := rfl
      accepts_options := ⟨rfl, rfl, List.forall_mem_cons.2 ⟨rfl, List.forall_mem_singleton.2 rfl⟩⟩
      options_words := rfl
      settings_eq := rfl
      profile_eq := rfl
      rules_eq := rules_eq
      format_eq := rfl }
  obtain ⟨-, -, -, accounted, relisted⟩ := run_accounts c named
  obtain ⟨place, names, there', lists, -, -, ⟨registry, report, selected, ends, -, stdout⟩, accounts⟩ :=
    accounted _ found
  obtain rfl : ["dist"] = place := Option.some.inj (Except.ok.inj (there.symm.trans there'))
  obtain rfl : names = ["b.umd.js"] :=
    (lists.eq (Discovery.lists_namesIn files ["dist"] ".umd." ".js")).trans bundles
  refine ⟨c, named, found, ?_, ?_, relisted _ ⟨rfl, (List.reverse_perm _).symm, by decide⟩⟩
  · have covered : Glob.covers "*" "b.umd.js" = true := by decide +kernel
    have readable : Discovery.isReadable files "dist" "b.umd.js" = true := by cbv
    have looks : rulesFor c.selected "b.umd.js" = [BuildTarget.rule Profile.umdSdk] := by
      refine List.filter_eq_self.2 (List.forall_mem_singleton.2 ?_)
      exact List.any_eq_true.2 ⟨"*", List.mem_cons_self, covered⟩
    have due : rowsDue files "dist" ["b.umd.js"] c.selected =
        [(some "dist/b.umd.js", some "build-target-validation")] := by
      rw [rowsDue_of_readable (List.forall_mem_singleton.2 readable), List.flatMap_singleton, looks]
      rfl
    obtain ⟨document, written, accounts⟩ := accounts registry files _ _ report selected ends false
    refine ⟨report, document, stdout, written, fun stamp => ?_⟩
    exact List.perm_singleton.1 (due ▸ (accounts stamp).tasks)
  · intro registry report selected ends
    have gone : Discovery.isReadable emptied "dist" "b.umd.js" = false := by cbv
    have none_due : rowsDue emptied "dist" ["b.umd.js"] c.selected = [] :=
      rowsDue_of_unreadable (List.forall_mem_singleton.2 gone)
    have fault_due : faultsDue emptied "dist" ["b.umd.js"] = [some "dist/b.umd.js"] := by
      rw [faultsDue, List.filter_eq_self.2 (List.forall_mem_singleton.2 (by rw [gone]; rfl))]
      rfl
    obtain ⟨document, written, accounts⟩ := accounts registry emptied _ _ report selected ends false
    refine ⟨document, written, fun stamp => ⟨?_, (accounts stamp).faults.trans fault_due⟩⟩
    exact List.perm_nil.1 (none_due ▸ (accounts stamp).tasks)

end CommandLine

end BundleAudit

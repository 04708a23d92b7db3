import BundleAudit.Proofs.CommandLine.Checking
import BundleAudit.Proofs.Registry.Reading

/-!
# The exit status of a check

An accepted call of the check ends with the exit code zero if there are bundles and the run on them
succeeds, and with one otherwise. Nothing else in the call has a say in it.
-/

namespace BundleAudit.CommandLine

open BundleAudit.Console BundleAudit.FileSystem

/-- There are bundles in the directory, and the run of the rules of some severities on them succeeds. -/
def Passes (t : Tree) (p : Profile) (rules : List Rule) (severities : List Severity) (directory : String)
    (strict : Bool) : Prop :=
  ∃ paths, Discovery.paths? t directory (p.text .bundleMarker) (p.text .bundleExtension) = some paths ∧
    Succeeds (rules.filter (severities.contains ·.severity)) (Intake.ofPaths t paths) strict

namespace Program

variable {around : Surroundings} {words : List String} (c : CheckCall around words)

theorem runs_check (view : LogView) :
    (∃ paths text success, c.paths? = some paths ∧
      Runs (check around view (c.globals.value? "--profile") c.arguments) (endOf success) text ∧
        Prints text c.format success ∧
          (success = true ↔ Succeeds c.selected (Intake.ofPaths around.files paths) c.strict)) ∨
      c.paths? = none ∧ ∃ stop : Stop, stop.exitCode = 1 ∧
        Runs (check around view (c.globals.value? "--profile") c.arguments) (.error stop) "" := by
  obtain ⟨s, settings, dir, severities, strict, format⟩ := checkSettings_eq c
  rw [check_eq c.accepts_options c.options_words settings, loadProfile_eq, pure_bind]
  have shown : CanShow around s c.profile := by
    unfold CanShow
    cases asked : s.format with
    | text => simp [c.name_eq]
    | json => exact c.dated (format.symm.trans asked)
  have paths_eq : c.paths? = Discovery.paths? around.files s.distDir (c.profile.text .bundleMarker)
      (c.profile.text .bundleExtension) := by rw [CheckCall.paths?, dir]
  rw [paths_eq, CheckCall.selected, ← severities, ← strict, ← format]
  obtain ⟨result, text, checked, ends⟩ := runs_checkUnder c.rules_eq view s
  cases ends with
  | unseen unseen => exact .inr ⟨unseen.paths?_eq_none, _, unseen.exitCode_eq_one, checked⟩
  | hidden found hidden f => exact absurd shown hidden
  | shown found shown prints verdict =>
    exact .inl ⟨_, text, _, found.paths?_eq_some, checked, prints, verdict⟩

/-- An accepted call finds bundles and ends by the verdict on them, or it finds none. -/
theorem run_check :
    (∃ paths success, c.paths? = some paths ∧ (run around words).exitCode = (if success then 0 else 1) ∧
      Prints (run around words).output.stdout c.format success ∧
        (success = true ↔ Succeeds c.selected (Intake.ofPaths around.files paths) c.strict)) ∨
      c.paths? = none ∧ (run around words).exitCode = 1 ∧ (run around words).output.stdout = "" := by
  obtain ⟨view, whole⟩ := runGroup_eq c.accepts_globals c.globals_words
  rw [if_pos (by decide)] at whole
  rcases runs_check c view with ⟨paths, text, success, found, runs, prints, verdict⟩ | ⟨none, stop, code, runs⟩
  · obtain ⟨exit, stdout⟩ := run_of_runs (whole ▸ runs)
    refine .inl ⟨paths, success, found, ?_, stdout ▸ prints, verdict⟩
    rw [exit]
    cases success <;> rfl
  · obtain ⟨exit, stdout⟩ := run_of_runs (whole ▸ runs)
    exact .inr ⟨none, exit.trans code, stdout⟩

end Program

section
variable {around around' : Surroundings} {words words' : List String} (c : CheckCall around words)
include c

theorem exitCode_le_one : (run around words).exitCode = 0 ∨ (run around words).exitCode = 1 := by
  rcases Program.run_check c with ⟨_, success, -, code, -⟩ | ⟨-, code, -⟩
  · rw [code]
    cases success <;> simp
  · exact .inr code

omit c in
theorem passes_iff {c : CheckCall around words} {paths : List String} (found : c.paths? = some paths) :
    Passes around.files c.profile c.rules c.severities c.distDir c.strict ↔
      Succeeds c.selected (Intake.ofPaths around.files paths) c.strict := by
  constructor
  · rintro ⟨paths', found', succeeds⟩
    obtain rfl := Option.some.inj (found.symm.trans found')
    exact succeeds
  · exact fun succeeds => ⟨paths, found, succeeds⟩

theorem exitCode_eq_zero_iff : (run around words).exitCode = 0 ↔
    Passes around.files c.profile c.rules c.severities c.distDir c.strict := by
  rcases Program.run_check c with ⟨paths, success, found, code, -, verdict⟩ | ⟨none, code, -⟩
  · have zero : (run around words).exitCode = 0 ↔ success = true := by
      rw [code]
      cases success <;> simp
    rw [zero, verdict, passes_iff found]
  · rw [code]
    refine ⟨fun h => absurd h (by decide), ?_⟩
    rintro ⟨paths, found, -⟩
    exact absurd (none.symm.trans found) (by simp)

/-- Two exit codes that are zero together are equal. -/
theorem exitCode_eq {code : Nat} (le : code = 0 ∨ code = 1)
    (zero : code = 0 ↔ Passes around.files c.profile c.rules c.severities c.distDir c.strict) :
    code = (run around words).exitCode := by
  have zero' := exitCode_eq_zero_iff c
  rcases le with rfl | rfl <;> rcases exitCode_le_one c with eq | eq <;> rw [eq] at zero' ⊢ <;> simp_all

/-- The exit code depends on the files, the profile, the severities, the directory and the strict option. -/
theorem exitCode_eq_of_same (c' : CheckCall around' words') (files : around'.files = around.files)
    (profile : c'.profile = c.profile) (severities : c'.severities = c.severities)
    (distDir : c'.distDir = c.distDir) (strict : c'.strict = c.strict) :
    (run around' words').exitCode = (run around words).exitCode := by
  have rules : c'.rules = c.rules := by
    have read := c'.rules_eq
    rw [profile] at read
    exact Except.ok.inj (read.symm.trans c.rules_eq)
  refine exitCode_eq c (exitCode_le_one c') ?_
  rw [exitCode_eq_zero_iff c', files, profile, rules, severities, distDir, strict]

/-- Every schedule of the run leads to the exit code. -/
theorem exitCode_of_ends {paths : List String} (found : c.paths? = some paths) {registry : Registry}
    (selected : registry.rules = c.selected) {parallel : Bool} {maxWorkers : Int} {report : Report}
    (ends : (registry.runIntake (Intake.ofPaths around.files paths) parallel maxWorkers).Ends report) :
    report.exitCode c.strict = (run around words).exitCode := by
  have verdict := Registry.isSuccess_of_ends ends c.strict
  rw [selected] at verdict
  have zero : report.exitCode c.strict = 0 ↔ report.isSuccess c.strict = true := by
    unfold Report.exitCode
    cases report.isSuccess c.strict <;> simp
  refine exitCode_eq c ?_ (zero.trans (verdict.trans (passes_iff found).symm))
  unfold Report.exitCode
  cases report.isSuccess c.strict <;> simp

/-- A check does not pass over a bundle that cannot be read. -/
theorem exitCode_of_unread {paths : List String} (found : c.paths? = some paths)
    (served : ∀ path ∈ paths, Intake.isRefused path = false) {path : String} (mem : path ∈ paths) {e : FileError}
    (unread : Bundle.read around.files path = .error e) : (run around words).exitCode = 1 := by
  refine (exitCode_le_one c).resolve_left fun zero => ?_
  have succeeds := (passes_iff found).1 ((exitCode_eq_zero_iff c).1 zero)
  have faults := succeeds.read
  rw [Intake.faults_ofPaths _ served, List.filterMap_eq_nil_iff] at faults
  have none := faults path mem
  rw [Intake.fault?, unread] at none
  cases none

/-- A document is printed if it is asked for and there are bundles. -/
theorem stdout_ne_empty_iff :
    (run around words).output.stdout ≠ "" ↔ c.format = .json ∧ c.paths? ≠ none := by
  rcases Program.run_check c with ⟨paths, success, found, -, prints, -⟩ | ⟨none, -, stdout⟩
  · rw [found]
    cases format : c.format with
    | text => simp [prints.isEmpty format]
    | json =>
      obtain ⟨document, text, -⟩ := prints.document format
      simp [text]
  · simp [none, stdout]

theorem document_of_stdout (printed : (run around words).output.stdout ≠ "") : ∃ document : Json,
    (run around words).output.stdout = document.text .indented ++ "\n" ∧
      document.verdict? = some (.bool ((run around words).exitCode = 0)) := by
  obtain ⟨format, -⟩ := (stdout_ne_empty_iff c).1 printed
  rcases Program.run_check c with ⟨paths, success, -, code, prints, -⟩ | ⟨-, -, stdout⟩
  · obtain ⟨document, text, verdict⟩ := prints.document format
    refine ⟨document, text, ?_⟩
    rw [verdict, code]
    cases success <;> rfl
  · exact absurd stdout printed

end

/-- An accepted call of the check has the exit code zero or one. It is zero if and only if there are bundles
and the run on them succeeds: all of them could be read, no violation blocks, and under the strict option
there is no other violation either. All calls with the same files, profile, severities, directory and
strict option have the same exit code, whatever else they ask for, at whatever time; and every report that
the run can end with has this exit code, whatever the schedule. A document is printed if it is asked for and
there are bundles, and it tells whether the exit code is zero. -/
theorem exitCode_run_check {around : Surroundings} {words : List String} (c : CheckCall around words) :
    ((run around words).exitCode = 0 ∨ (run around words).exitCode = 1) ∧
      ((run around words).exitCode = 0 ↔
        Passes around.files c.profile c.rules c.severities c.distDir c.strict) ∧
      (∀ {around' : Surroundings} {words' : List String} (c' : CheckCall around' words'),
        around'.files = around.files → c'.profile = c.profile → c'.severities = c.severities →
          c'.distDir = c.distDir → c'.strict = c.strict →
            (run around' words').exitCode = (run around words).exitCode) ∧
      (∀ paths, c.paths? = some paths → ∀ registry : Registry, registry.rules = c.selected →
        ∀ (parallel : Bool) (maxWorkers : Int) (report : Report),
          (registry.runIntake (Intake.ofPaths around.files paths) parallel maxWorkers).Ends report →
            report.exitCode c.strict = (run around words).exitCode) ∧
      ((run around words).output.stdout ≠ "" ↔ c.format = .json ∧ c.paths? ≠ none) ∧
      ((run around words).output.stdout ≠ "" → ∃ document : Json,
        (run around words).output.stdout = document.text .indented ++ "\n" ∧
          document.verdict? = some (.bool ((run around words).exitCode = 0))) := by
  refine ⟨exitCode_le_one c, exitCode_eq_zero_iff c, ?_, ?_, stdout_ne_empty_iff c, document_of_stdout c⟩
  · intro around' words' c' files profile severities distDir strict
    exact exitCode_eq_of_same c c' files profile severities distDir strict
  · intro paths found registry selected parallel maxWorkers report ends
    exact exitCode_of_ends c found selected ends

/-- An empty bundle exports nothing. That blocks, unless only findings of another severity are asked for. -/
theorem exitCode_run_check_of_empty_bundle :
    let files : Tree := { entries := [(["dist", "a.umd.js"], .file [])], workingDirectory := [] }
    let around : Surroundings := { environment := [], files := files }
    (∃ c : CheckCall around ["-v", "check"], c.paths? = some ["dist/a.umd.js"]) ∧
      (run around ["-v", "check"]).exitCode = 1 ∧
      (∃ c : CheckCall around ["check", "--severity", "medium"], c.paths? = some ["dist/a.umd.js"]) ∧
      (run around ["check", "--severity", "medium"]).exitCode = 0 := by
  intro files around
  obtain ⟨rules, rules_eq⟩ := exists_rules_umdSdk
  obtain ⟨primary, fallback, -, -, rfl⟩ := eq_of_defaultRules rules_eq
  have found : Discovery.paths? files "dist" (Profile.umdSdk.text .bundleMarker)
    (Profile.umdSdk.text .bundleExtension) = some ["dist/a.umd.js"] := by cbv
  have bundles : (Intake.ofPaths files ["dist/a.umd.js"]).bundles = [⟨"dist/a.umd.js", []⟩] := by cbv
  have faults : (Intake.ofPaths files ["dist/a.umd.js"]).faults = [] := by cbv
  let all : CheckCall around ["-v", "check"] :=
    { globals := { given := [⟨Program.group.options[2], ""⟩], words := ["check"] }
      arguments := []
      options := {}
      settings := {}
      severities := Severity.all
      profile := Profile.umdSdk
      name := "umd-sdk"
      rules := _
      accepts_globals := ⟨rfl, rfl, fun g mem => by obtain rfl := List.mem_singleton.1 mem; rfl⟩
      globals_words := rfl
      accepts_options := ⟨rfl, rfl, fun g mem => by cases mem⟩
      options_words := rfl
      settings_eq := rfl
      severities_eq := .inl ⟨rfl, rfl⟩
      profile_eq := .inl ⟨rfl, rfl⟩
      name_eq := rfl
      rules_eq := rules_eq
      dated := fun json => by cases json }
  let medium : CheckCall around ["check", "--severity", "medium"] :=
    { globals := { words := ["check", "--severity", "medium"] }
      arguments := ["--severity", "medium"]
      options := { given := [⟨Program.checkCommand.options[3], "medium"⟩] }
      settings := {}
      severities := [.medium]
      profile := Profile.umdSdk
      name := "umd-sdk"
      rules := _
      accepts_globals := ⟨rfl, rfl, fun g mem => by cases mem⟩
      globals_words := rfl
      accepts_options := ⟨rfl, rfl, fun g mem => by obtain rfl := List.mem_singleton.1 mem; rfl⟩
      options_words := rfl
      settings_eq := rfl
      severities_eq := .inr ⟨"medium", rfl, rfl⟩
      profile_eq := .inl ⟨rfl, rfl⟩
      name_eq := rfl
      rules_eq := rules_eq
      dated := fun json => by cases json }
  refine ⟨⟨all, found⟩, ?_, ⟨medium, found⟩, ?_⟩
  · obtain ⟨le, zero, -⟩ := exitCode_run_check all
    refine le.resolve_left fun eq => ?_
    obtain ⟨paths, found', succeeds⟩ := zero.1 eq
    obtain rfl := Option.some.inj (found.symm.trans found')
    have blocked : GlobalExport.missing (Profile.umdSdk.text .exportName) "dist/a.umd.js" ∈
        violationsIn all.selected (Intake.ofPaths files ["dist/a.umd.js"]).bundles := by
      have silent : GlobalExport.isPublished (Profile.umdSdk.text .exportName).toList
        (Profile.umdSdk.list .exportRoots) [] = false := by decide +kernel
      have covered : Glob.covers "*.umd.js" (baseName "dist/a.umd.js") = true := by decide +kernel
      rw [bundles]
      refine List.mem_flatMap.2 ⟨⟨"dist/a.umd.js", []⟩, List.mem_cons_self, ?_⟩
      refine List.mem_flatMap.2 ⟨GlobalExport.rule Profile.umdSdk, ?_, ?_⟩
      · refine List.mem_filter.2 ⟨List.mem_cons_self, ?_⟩
        exact List.any_eq_true.2 ⟨"*.umd.js", List.mem_cons_self, covered⟩
      · have missed : (GlobalExport.rule Profile.umdSdk).evaluate [] [] "dist/a.umd.js" =
            .ok [GlobalExport.missing (Profile.umdSdk.text .exportName) "dist/a.umd.js"] := by
          simp only [GlobalExport.rule, silent, Bool.false_eq_true, if_false]
        have stripped : Source.strip [] = [] := rfl
        simp only [Rule.outcomeOn, Evaluation.outcome, Evaluation.violations, stripped, missed]
        exact List.mem_cons_self
    exact absurd (succeeds.unblocked _ blocked) (by decide)
  · obtain ⟨-, zero, -⟩ := exitCode_run_check medium
    refine zero.2 ⟨_, found, faults, ?_, ?_⟩
    · rw [bundles]
      intro v mem
      cases mem
    · intro strict
      cases strict

end BundleAudit.CommandLine

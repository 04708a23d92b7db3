import BundleAudit.Proofs.CommandLine.Checking
import BundleAudit.Proofs.Profile.Run

/-!
# Calls with a profile

Both commands load the profile that they are given, and read the rules under it, before they do anything
else with it. A profile that cannot be loaded ends the call with a message if its error has one. An error that
has none ends the call without any, and so does a guard expression that cannot be read
(`run_of_profile`).
-/

namespace BundleAudit.CommandLine

open BundleAudit.Console BundleAudit.FileSystem

namespace Program

/-- What the list of rules does with its profile. -/
def listUnder (renderer : Renderer) (view : LogView) (included : Option (List Severity)) (p : Profile) : Program Unit := do
  let registry ← buildRegistry view p (included.getD Severity.all)
  print [.table (← rulesTable renderer p registry.rules)]

theorem listRules_eq {around : Surroundings} {view : LogView} {profilePath : Option String} {words : List String}
    {r : Reading} {included : Option (List Severity)} (accepts : Accepts around.files rulesCommand true words r)
    (noWords : r.words = []) (severities : severitiesOf rulesCommand r = pure included) :
    listRules around view profilePath words =
      loadProfile around.files profilePath >>= listUnder around.renderer view included := by
  unfold listRules
  rw [readOptions_eq accepts noWords, pure_bind]
  refine bind_congr fun p => ?_
  rw [severities, pure_bind]
  rfl

end Program

/-- What a call asks for, by options that are accepted. -/
inductive Task (around : Surroundings) (options : Reading)
  | check (s : Settings) (accepted : Program.checkSettings around.environment options = pure s)
  | rules (included : Option (List Severity))
    (accepted : Program.severitiesOf Program.rulesCommand options = pure included)

namespace Task

variable {around : Surroundings} {options : Reading}

def name : Task around options → String
  | check .. => "check"
  | rules .. => "rules"

def command : Task around options → Command
  | check .. => Program.checkCommand
  | rules .. => Program.rulesCommand

/-- What is done with a profile. -/
def under (view : Program.LogView) : Task around options → Profile → Program Unit
  | check s _, p => Program.checkUnder around view s p
  | rules included _, p => Program.listUnder around.renderer view included p

/-- What is asked for can be shown. The name of the profile stands in the title of the list of rules as it is,
so that it must not close what has not been opened. A check must be able to look at its directory, and if there
are bundles to show its report. -/
def Shows (p : Profile) : Task around options → Prop
  | check s _ =>
    (∃ found, Discovery.find around.files s.distDir (p.text .bundleMarker) (p.text .bundleExtension) = .ok found) ∧
      (Discovery.paths? around.files s.distDir (p.text .bundleMarker) (p.text .bundleExtension) ≠ none →
        Program.CanShow around s p)
  | rules .. => ∃ title, around.renderer.render s!"Rules ({p.title})".toList = .ok title

end Task

/-- A call of one of the commands with a profile, whose other words are accepted. -/
structure ProfileCall (around : Surroundings) (words : List String) where
  /-- The options in front of the name of the command, and the words behind it. -/
  globals : Reading
  arguments : List String
  options : Reading
  path : String
  task : Task around options
  accepts_globals : Accepts around.files Program.group false words globals
  globals_words : globals.words = task.name :: arguments
  path_eq : globals.value? "--profile" = some path
  accepts_options : Accepts around.files task.command true arguments options
  options_words : options.words = []

namespace Program

variable {around : Surroundings} {words : List String}

section
variable {p : Profile} {rules : List Rule} (read : defaultRules p = .ok rules)
include read

/-- Of what the list of rules shows, only its title may be refused. -/
theorem rulesTable_eq (renderer : Renderer) {selected : List Rule} (registered : selected ⊆ rules)
    {title : List Char} (shown : renderer.render s!"Rules ({p.title})".toList = .ok title) :
    ∃ table, rulesTable renderer p selected = pure table ∧ table.title = some title := by
  unfold rulesTable
  rw [shown, orFail, pure_bind]
  have named : ∀ rule ∈ selected, ∃ row, (do
      let name ← orFail .markup (renderer.render rule.name.toList)
      return [name, rule.severity.name.toList, dropControls (", ".intercalate rule.appliesTo).toList,
        dropControls rule.description.toList]) = (pure row : Program (List (List Char))) := by
    intro rule mem
    obtain ⟨name, plain⟩ := renderer.render_isOk_of_notMem (plain_of_defaultRules read (registered mem))
    rw [plain]
    exact ⟨_, rfl⟩
  obtain ⟨rows, drawn⟩ := mapM_eq_pure named
  rw [drawn, pure_bind]
  exact ⟨_, rfl, rfl⟩

/-- A task ends in an orderly way if and only if what it asks for can be shown. -/
theorem runs_under {options : Reading} (task : Task around options) (view : LogView) :
    ∃ result text, Runs (task.under view p) result text ∧
      (task.Shows p ↔ ∀ f, result ≠ .error (.failure f)) := by
  cases task with
  | check s accepted =>
    obtain ⟨result, text, checked, ends⟩ := runs_checkUnder read view s
    refine ⟨result, text, checked, ?_⟩
    cases ends with
    | unseen unseen =>
      cases unseen with
      | blocked failed =>
        refine iff_of_false ?_ fun orderly => orderly _ rfl
        rintro ⟨⟨found, eq⟩, -⟩
        cases failed.symm.trans eq
      | nothing looked none =>
        exact iff_of_true ⟨⟨_, looked⟩, fun some => absurd none some⟩ fun f h => nomatch h
    | hidden found hidden f =>
      refine iff_of_false ?_ fun orderly => orderly _ rfl
      rintro ⟨-, shown⟩
      exact hidden (shown (by simp [found.paths?_eq_some]))
    | shown found shown prints verdict =>
      cases found with
      | bundles looked some =>
        refine iff_of_true ⟨⟨_, looked⟩, fun _ => shown⟩ fun f => ?_
        unfold endOf
        split <;> exact fun h => nomatch h
  | rules included accepted =>
    obtain ⟨registry, registered, selected⟩ := runs_buildRegistry read view (included.getD Severity.all)
    have subset : registry.rules ⊆ rules := selected ▸ List.filter_subset_self _
    cases shown : around.renderer.render s!"Rules ({p.title})".toList with
    | ok title =>
      obtain ⟨table, drawn, -⟩ := rulesTable_eq read around.renderer subset shown
      refine ⟨.ok (), "", registered.then ?_, iff_of_true ⟨title, shown⟩ fun f h => nomatch h⟩
      rw [drawn, pure_bind]
      exact runs_print _
    | error e =>
      refine ⟨.error (.failure (.markup e)), "", registered.then (Runs.stop (Runs.stop ?_)),
        iff_of_false ?_ fun orderly => orderly _ rfl⟩
      · exact runs_orFail_error shown
      · rintro ⟨title, eq⟩
        cases shown.symm.trans eq

end

/-! ## The profile -/

theorem under_unread {options : Reading} (task : Task around options) (view : LogView) {p : Profile}
    {e : Regex.ReadError} (unread : defaultRules p = .error e) :
    task.under view p = stop (.failure (.expression e)) := by
  cases task with
  | check s accepted =>
    rw [Task.under, checkUnder, buildRegistry_unread unread]
    rfl
  | rules included accepted =>
    rw [Task.under, listUnder, buildRegistry_unread unread]
    rfl

/-- A call comes to load its profile, with nothing written before. -/
theorem runGroup_eq_loadProfile (c : ProfileCall around words) : ∃ view : LogView,
    runGroup around words = loadProfile around.files (some c.path) >>= c.task.under view := by
  obtain ⟨view, whole⟩ := runGroup_eq c.accepts_globals c.globals_words
  obtain ⟨globals, arguments, options, path, task, accepts, words_eq, path_eq, accepts', noWords⟩ := c
  refine ⟨view, whole.trans ?_⟩
  rw [path_eq]
  cases task with
  | check s accepted => exact (if_pos rfl).trans (check_eq accepts' noWords accepted)
  | rules included accepted =>
    have other : ¬ ("rules" == "check") = true := by decide
    exact (if_neg other).trans ((if_pos rfl).trans (listRules_eq accepts' noWords accepted))

theorem run_of_failWith {message : String} {next : Profile → Program Unit}
    (fails : runGroup around words = failWith message >>= next) :
    run around words = ⟨1, ⟨"", "Error: " ++ message ++ "\n"⟩, none⟩ := by
  have ends : run around words = ⟨1, ⟨"" ++ "", "" ++ lines ["Error: " ++ message]⟩, none⟩ := by
    unfold run
    rw [fails]
    rfl
  rw [ends]
  simp [lines, String.join]

theorem run_of_stop {f : Failure} (stops : runGroup around words = stop (.failure f)) :
    run around words = ⟨1, {}, some f⟩ := by
  unfold run
  rw [stops]
  rfl

theorem failure_run_of_runs {result : Except Stop Unit} {text : String}
    (h : Runs (runGroup around words) result text) :
    (run around words).failure = none ↔ ∀ f, result ≠ .error (.failure f) := by
  obtain ⟨errors, eq⟩ := h {}
  unfold run
  rw [eq]
  rcases result with (code | f) | u
  · simp
  · simp
  · simp

end Program

/-- A profile that cannot be loaded ends a call with the message of its error, if that has one. If not, the call
ends with nothing but the failure, as it does where a guard expression of the profile cannot be read. With any
other profile a call fails if and only if what it asks for cannot be shown. -/
theorem run_of_profile {around : Surroundings} {words : List String} (c : ProfileCall around words) :
    (∀ e message, Profile.load around.files c.path = .error e → e.message? = some message →
      run around words = ⟨1, ⟨"", "Error: Failed to load profile: " ++ message ++ "\n"⟩, none⟩) ∧
    (∀ e, Profile.load around.files c.path = .error e → e.message? = none →
      run around words = ⟨1, {}, some (.profile e)⟩) ∧
    (∀ p e, Profile.load around.files c.path = .ok p → defaultRules p = .error e →
      run around words = ⟨1, {}, some (.expression e)⟩) ∧
    (∀ p rules, Profile.load around.files c.path = .ok p → defaultRules p = .ok rules →
      ((run around words).failure = none ↔ c.task.Shows p)) := by
  obtain ⟨view, whole⟩ := Program.runGroup_eq_loadProfile c
  refine ⟨fun e message failed given => ?_, fun e failed none => ?_, fun p e loaded unread => ?_,
    fun p rules loaded read => ?_⟩
  · have fails : Program.loadProfile around.files (some c.path) =
        Program.failWith ("Failed to load profile: " ++ message) := by
      simp only [Program.loadProfile, failed, given]
      rfl
    rw [fails] at whole
    rw [Program.run_of_failWith whole, ← String.append_assoc]
    rfl
  · refine Program.run_of_stop (whole.trans ?_)
    simp only [Program.loadProfile, failed, none]
    rfl
  · refine Program.run_of_stop (whole.trans ?_)
    simp only [Program.loadProfile, loaded, pure_bind]
    exact Program.under_unread c.task view unread
  · obtain ⟨result, text, runs, orderly⟩ := Program.runs_under read c.task view
    have ends : Program.runGroup around words = c.task.under view p := by
      rw [whole]
      simp only [Program.loadProfile, loaded, pure_bind]
    rw [orderly]
    exact Program.failure_run_of_runs (ends ▸ runs)

/-- A bracket that is not closed ends a check without a message. -/
theorem run_of_profile_of_malformed :
    let files : Tree := { entries := [(["p.yaml"], .file [91])], workingDirectory := [] }
    let around : Surroundings := { environment := [], files := files }
    ∃ e, Profile.load files "p.yaml" = .error e ∧ e.message? = none ∧
      run around ["--profile", "p.yaml", "check"] = ⟨1, {}, some (.profile e)⟩ := by
  intro files around
  have checked : Given.check files ⟨Program.group.options[1], "p.yaml"⟩ = .ok (.ok ()) := by cbv
  let call : ProfileCall around ["--profile", "p.yaml", "check"] :=
    { globals := { given := [⟨Program.group.options[1], "p.yaml"⟩], words := ["check"] }
      arguments := []
      options := {}
      path := "p.yaml"
      task := .check {} rfl
      accepts_globals := ⟨rfl, rfl, fun g mem => by obtain rfl := List.mem_singleton.1 mem; exact checked⟩
      globals_words := rfl
      path_eq := rfl
      accepts_options := ⟨rfl, rfl, fun g mem => by cases mem⟩
      options_words := rfl }
  have found (presets : Tree) : Profile.find presets files (.file "p.yaml") = .ok (.file ["p.yaml"], [91]) := by
    cbv
  have silent : ((Profile.Draft.ofBytes [91]).map fun _ => ()).mapError (·.message?) = .error none := by
    decide +kernel
  cases read : Profile.Draft.ofBytes [91] with
  | ok d =>
    rw [read] at silent
    cases silent
  | error e =>
    rw [read] at silent
    have none : e.message? = none := Except.error.inj silent
    have failed : Profile.load files "p.yaml" = .error e := by
      refine Profile.loadReference_unread ?_
      simp [Profile.readReference, found, read, bind, Except.bind]
    exact ⟨e, failed, none, (run_of_profile call).2.1 e failed none⟩

end BundleAudit.CommandLine

import BundleAudit.Proofs.CommandLine.ProfileCall
import BundleAudit.Proofs.Console.Literal
import BundleAudit.Proofs.Profile.Parents

/-!
# The list of rules under a name

The name of the profile stands in the title of the list of rules as it is, and the title is read as markup. What comes
of it is said for every renderer that keeps to its rules: a name that closes more than it has opened ends the call
without a list, and of other names the tags, the backslashes in front of brackets and the names of pictures are not
shown (`listing_of_named`). A check escapes the name.
-/

namespace BundleAudit.CommandLine

open BundleAudit.Console BundleAudit.FileSystem

/-- A call ends well, and the rules are drawn under the title, behind what has been logged. -/
def Draws (renderer : Renderer) (ending : Ending) (p : Profile) (selected : List Rule) (title : List Char) : Prop :=
  ∃ table logged, Program.rulesTable renderer p selected = pure table ∧ table.title = some title ∧
    ending = ⟨0, ⟨"", logged ++ String.ofList (Report.drawBlocks Program.consoleWidth [.table table])⟩, none⟩

/-! ## The title -/

theorem tagsOf_title (name : String) : tagsOf s!"Rules ({name})".toList = tagsOf name.toList := by
  have plain : ∀ c ∈ "Rules (".toList, c ≠ '\\' ∧ c ≠ '[' := by simp
  have plain' : ∀ c ∈ ")".toList, c ≠ '[' ∧ c ≠ ']' := by simp
  have between := tagsOf_between plain' plain name.toList
  simpa [toString] using between

theorem literal_title {name : String} : Literal s!"Rules ({name})".toList ↔ Literal name.toList := by
  have plain : ∀ c ∈ "Rules (".toList, c ≠ '\\' ∧ c ≠ '[' ∧ ¬ isControl c := by simp [isControl]
  have plain' : ∀ c ∈ ")".toList, c ≠ '[' ∧ c ≠ ']' ∧ ¬ isControl c := by simp [isControl]
  have between := literal_between plain plain' (s := name.toList)
  simpa [toString] using between

theorem withPictures_title {picture? : List Char → Option (List Char)} {name : String} :
    withPictures picture? s!"Rules ({name})".toList = s!"Rules ({name})".toList ↔
      withPictures picture? name.toList = name.toList := by
  have between := @withPictures_between picture? "Rules (".toList ")".toList (by simp) (by simp) name.toList
  have title : s!"Rules ({name})".toList = "Rules (".toList ++ (name.toList ++ ")".toList) := by simp [toString]
  rw [title, between, List.append_cancel_left_eq, List.append_cancel_right_eq]

theorem Program.eq_of_pure_eq_pure {α : Type} {a b : α} (h : (pure a : Program α) = pure b) : a = b :=
  Except.ok.inj (congrArg Prod.fst (congrFun h {}))

section
variable {around : Surroundings} {words : List String} (c : ProfileCall around words)
  {included : Option (List Severity)} {accepted : Program.severitiesOf Program.rulesCommand c.options = pure included}
  (listing : c.task = .rules included accepted)
  {p : Profile} (loaded : Profile.load around.files c.path = .ok p)
  {rules : List Rule} (read : defaultRules p = .ok rules)
include listing loaded read

omit read in
theorem runGroup_eq_listUnder : ∃ view, Program.runGroup around words =
    Program.listUnder around.renderer view included p := by
  obtain ⟨view, whole⟩ := Program.runGroup_eq_loadProfile c
  refine ⟨view, whole.trans ?_⟩
  rw [listing]
  simp only [Program.loadProfile, loaded, pure_bind]
  rfl

/-- A title that is refused ends the call. -/
theorem run_of_refused {e : MarkupError} (refused : around.renderer.render s!"Rules ({p.title})".toList = .error e) :
    ∃ logged, run around words = ⟨1, ⟨"", logged⟩, some (.markup e)⟩ := by
  obtain ⟨view, whole⟩ := runGroup_eq_listUnder c listing loaded
  obtain ⟨registry, registered, -⟩ := Program.runs_buildRegistry read view (included.getD Severity.all)
  refine Program.run_of_failure (whole ▸ registered.then (Program.Runs.stop (Program.Runs.stop ?_)))
  exact Program.runs_orFail_error refused

/-- Under a title that is shown, the rules are drawn that were asked for. -/
theorem run_of_shown {title : List Char} (shown : around.renderer.render s!"Rules ({p.title})".toList = .ok title) :
    Draws around.renderer (run around words) p (rules.filter ((included.getD Severity.all).contains ·.severity))
      title := by
  obtain ⟨view, whole⟩ := runGroup_eq_listUnder c listing loaded
  obtain ⟨registry, registered, selected⟩ := Program.runs_buildRegistry read view (included.getD Severity.all)
  have subset : registry.rules ⊆ rules := selected ▸ List.filter_subset_self _
  obtain ⟨table, drawn, titled⟩ := Program.rulesTable_eq read around.renderer subset shown
  have prints : (Program.rulesTable around.renderer p registry.rules >>= fun table =>
      Program.print [.table table]) = Program.print [.table table] := by
    rw [drawn, pure_bind]
  obtain ⟨logged, ends⟩ := Program.run_of_print whole registered prints
  exact ⟨table, logged, selected ▸ drawn, titled, ends⟩

/-- What is drawn under a title is drawn under what the title is rendered as. -/
theorem render_of_draws {title : List Char} (draws : Draws around.renderer (run around words) p
    (rules.filter ((included.getD Severity.all).contains ·.severity)) title) :
    around.renderer.render s!"Rules ({p.title})".toList = .ok title := by
  obtain ⟨table, logged, drawn, titled, ends⟩ := draws
  cases shown : around.renderer.render s!"Rules ({p.title})".toList with
  | error e =>
    obtain ⟨logged', failed⟩ := run_of_refused c listing loaded read shown
    cases ends.symm.trans failed
  | ok title' =>
    obtain ⟨table', drawn', titled'⟩ :=
      Program.rulesTable_eq read around.renderer (List.filter_subset_self _) shown
    obtain rfl := Program.eq_of_pure_eq_pure (drawn.symm.trans drawn')
    rw [Option.some.inj (titled.symm.trans titled')]

end

/-- The list of rules is drawn under what is shown of its title, or else the title is refused and the call ends with
the error of the console. It is refused if the name closes more than it has opened somewhere, and not if its tags are
words that are closed in the reverse of the order in which they are opened. The name stands in the title as it is
exactly if it is literal and names no picture. A check announces every name of ordinary characters as it is. -/
theorem listing_of_named {around : Surroundings} {words : List String} (c : ProfileCall around words)
    {included : Option (List Severity)}
    {accepted : Program.severitiesOf Program.rulesCommand c.options = pure included}
    (listing : c.task = .rules included accepted) {p : Profile} {name : String} {rules : List Rule}
    (loaded : Profile.load around.files c.path = .ok p) (named : p.name = some name)
    (read : defaultRules p = .ok rules) :
    let renderer := around.renderer
    let selected := rules.filter ((included.getD Severity.all).contains ·.severity)
    let title := s!"Rules ({name})".toList
    ((run around words).exitCode = 0 ↔
        Draws renderer (run around words) p selected (shownText renderer.picture? title)) ∧
      ((run around words).exitCode ≠ 0 → ∃ e logged, renderer.render title = .error e ∧
        run around words = ⟨1, ⟨"", logged⟩, some (.markup e)⟩) ∧
      (∀ front, front <+: tagsOf name.toList → Unmatched front → (run around words).exitCode = 1) ∧
      ((nest [] (tagsOf name.toList)).isSome → (run around words).exitCode = 0) ∧
      (Draws renderer (run around words) p selected title ↔
        Literal name.toList ∧ withPictures renderer.picture? name.toList = name.toList) ∧
      ∀ (s : Settings) (bundles count : Nat), (∀ c ∈ s.distDir.toList, IsOrdinary c) →
        (∀ c ∈ name.toList, IsOrdinary c) → Program.announce renderer s p bundles count = Program.print [.text
          s!"bundleguard checking {s.distDir} with profile {name} ({bundles} bundles, {count} rules)\n".toList] := by
  obtain rfl : p.title = name := by rw [Profile.title, named, Option.getD_some]
  intro renderer selected title
  have shown {t : List Char} (rendered : renderer.render title = .ok t) :
      Draws renderer (run around words) p selected t := run_of_shown c listing loaded read rendered
  have refused {e : MarkupError} (failed : renderer.render title = .error e) :
      ∃ logged, run around words = ⟨1, ⟨"", logged⟩, some (.markup e)⟩ := run_of_refused c listing loaded read failed
  have code_of_draws {t : List Char} : Draws renderer (run around words) p selected t →
      (run around words).exitCode = 0 := by
    rintro ⟨table, logged, -, -, ends⟩
    rw [ends]
  refine ⟨⟨fun zero => ?_, code_of_draws⟩, fun nonzero => ?_, fun front isFront unmatched => ?_, fun nested => ?_,
    ⟨fun draws => ?_, fun ⟨literal, noPicture⟩ => ?_⟩,
    fun s bundles count dir ordinary => Program.announce_eq renderer s named dir ordinary bundles count⟩
  · cases rendered : renderer.render title with
    | ok t => exact renderer.render_eq rendered ▸ shown rendered
    | error e =>
      obtain ⟨logged, ends⟩ := refused rendered
      rw [ends] at zero
      cases zero
  · cases rendered : renderer.render title with
    | ok t => exact absurd (code_of_draws (shown rendered)) nonzero
    | error e =>
      obtain ⟨logged, ends⟩ := refused rendered
      exact ⟨e, logged, rfl, ends⟩
  · rw [← tagsOf_title] at isFront
    obtain ⟨e, failed⟩ := renderer.render_unmatched isFront unmatched
    obtain ⟨logged, ends⟩ := refused failed
    rw [ends]
  · rw [← tagsOf_title] at nested
    obtain ⟨t, rendered⟩ := renderer.render_nested nested
    exact code_of_draws (shown rendered)
  · have same := render_of_draws c listing loaded read draws
    obtain ⟨literal, noPicture⟩ := (render_eq_self_iff renderer).1 same
    exact ⟨literal_title.1 literal, withPictures_title.1 noPicture⟩
  · exact shown ((render_eq_self_iff renderer).2 ⟨literal_title.2 literal, withPictures_title.2 noPicture⟩)

/-! ## Profiles with nothing but a name -/

/-- A directory with one profile. -/
def besideProfile (bytes : List UInt8) : Surroundings :=
  { environment := [], files := { entries := [(["p.yaml"], .file bytes)], workingDirectory := [] } }

theorem find_besideProfile (presets : Tree) (bytes : List UInt8) :
    Profile.find presets { entries := [(["p.yaml"], .file bytes)], workingDirectory := [] } (.file "p.yaml") =
      .ok (.file ["p.yaml"], bytes) := by
  cbv

theorem check_besideProfile (bytes : List UInt8) :
    Given.check { entries := [(["p.yaml"], .file bytes)], workingDirectory := [] }
      ⟨Program.group.options[1], "p.yaml"⟩ = .ok (.ok ()) := by
  cbv

def listingCall (bytes : List UInt8) : ProfileCall (besideProfile bytes) ["--profile", "p.yaml", "rules"] where
  globals := { given := [⟨Program.group.options[1], "p.yaml"⟩], words := ["rules"] }
  arguments := []
  options := {}
  path := "p.yaml"
  task := .rules none rfl
  accepts_globals :=
    ⟨rfl, rfl, fun g mem => by obtain rfl := List.mem_singleton.1 mem; exact check_besideProfile bytes⟩
  globals_words := rfl
  path_eq := rfl
  accepts_options := ⟨rfl, rfl, fun g mem => by cases mem⟩
  options_words := rfl

/-- A document with a name and without guard expressions loads under that name, and its rules can be read. -/
theorem loads_named {bytes : List UInt8} {name : String}
    (leaf : (Profile.leaf? bytes).map (fun d =>
      (d.profileName, d.own? (.list .guardPatterns), d.own? (.list .fallbackGuardPatterns))) =
        some (some name, none, none)) :
    ∃ p rules, Profile.load (besideProfile bytes).files "p.yaml" = .ok p ∧ p.name = some name ∧
      defaultRules p = .ok rules := by
  obtain ⟨d, leaf, given⟩ := Option.map_eq_some_iff.1 leaf
  obtain ⟨named, guards, fallbacks⟩ : d.profileName = some name ∧ d.own? (.list .guardPatterns) = none ∧
    d.own? (.list .fallbackGuardPatterns) = none := by simpa using given
  obtain ⟨p, loaded, becomes⟩ := Profile.becomes_of_leaf? (find_besideProfile Profile.presetTree bytes) leaf
  have primary := becomes.values (.list .guardPatterns) (by decide)
  have fallback := becomes.values (.list .fallbackGuardPatterns) (by decide)
  rw [guards] at primary
  rw [fallbacks] at fallback
  obtain ⟨rules, preset⟩ := exists_rules_umdSdk
  obtain ⟨rules, read⟩ := exists_rules_of_same_guards preset (KeyValue.list.inj primary) (KeyValue.list.inj fallback)
  exact ⟨p, rules, loaded, becomes.name.trans named, read⟩

/-- An opening tag is taken away. -/
theorem listing_of_named_of_openingTag :
    let around := besideProfile (Profile.asciiBytes "\"name\": \"[b]x\"")
    ∃ p rules, Profile.load around.files "p.yaml" = .ok p ∧ p.name = some "[b]x" ∧ defaultRules p = .ok rules ∧
      Draws around.renderer (run around ["--profile", "p.yaml", "rules"]) p rules "Rules (x)".toList ∧
        ¬ Draws around.renderer (run around ["--profile", "p.yaml", "rules"]) p rules "Rules ([b]x)".toList := by
  intro around
  obtain ⟨p, rules, loaded, named, read⟩ :=
    @loads_named (Profile.asciiBytes "\"name\": \"[b]x\"") "[b]x" (by decide +kernel)
  have every : rules.filter (Severity.all.contains ·.severity) = rules :=
    List.filter_eq_self.2 fun rule _ => by cases rule.severity <;> rfl
  obtain ⟨shown, -, -, nested, literal, -⟩ := listing_of_named (listingCall _) rfl loaded named read
  have shows : shownText around.renderer.picture? "Rules ([b]x)".toList = "Rules (x)".toList := by decide
  refine ⟨p, rules, loaded, named, read, ?_, fun draws => ?_⟩
  · have draws := shown.1 (nested (by decide))
    exact every ▸ shows ▸ draws
  · have isTag : IsTag "[b]".toList := ⟨'b', [], rfl, rfl, List.forall_mem_nil _⟩
    have isLiteral := (literal.1 (every.symm ▸ draws)).1
    exact isLiteral.untagged "[b]".toList (by decide) isTag

/-- A closing tag without an opening one ends the call. -/
theorem run_of_closingTag :
    let around := besideProfile (Profile.asciiBytes "\"name\": \"[/x]\"")
    ∃ p rules logged, Profile.load around.files "p.yaml" = .ok p ∧ p.name = some "[/x]" ∧
      defaultRules p = .ok rules ∧ run around ["--profile", "p.yaml", "rules"] =
        ⟨1, ⟨"", logged⟩, some (.markup (.unmatched "/x".toList))⟩ := by
  intro around
  obtain ⟨p, rules, loaded, named, read⟩ :=
    @loads_named (Profile.asciiBytes "\"name\": \"[/x]\"") "[/x]" (by decide +kernel)
  have refused : around.renderer.render s!"Rules ({p.title})".toList = .error (.unmatched "/x".toList) := by
    rw [Profile.title, named]
    decide
  obtain ⟨logged, ends⟩ := run_of_refused (listingCall _) rfl loaded read refused
  exact ⟨p, rules, logged, loaded, named, read, ends⟩

end BundleAudit.CommandLine

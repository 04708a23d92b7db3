import BundleAudit.Proofs.Registry.Registration
import BundleAudit.Proofs.Registry.Verdict
import BundleAudit.Proofs.Rule.Leniency
import BundleAudit.Proofs.Rule.Signing

/-!
# The exit code follows the profile

A run under a milder profile succeeds where a run under the other profile does. An entry more in a list that
excuses makes a profile milder, and an entry more in one of the other lists makes it less so. The exit code
changes accordingly, if it changes at all (`Registry.exitCode_monotone`).
-/

namespace BundleAudit

/-! ## Milder rules -/

/-- Where milder rules block, the other ones block; where they find anything, the other ones do. -/
theorem exists_of_mem_violationsIn {rules rules' : List Rule}
    (milder : ∀ rule' ∈ rules', ∃ rule ∈ rules, rule'.Milder rule) {bundles : List Bundle} {v : Violation}
    (mem : v ∈ violationsIn rules' bundles) :
    ∃ w ∈ violationsIn rules bundles, v.isBlocking = true → w.isBlocking = true := by
  simp only [violationsIn, List.mem_flatMap, List.mem_filter, List.any_eq_true] at mem
  obtain ⟨b, given, rule', ⟨registered, glob, looks, covers⟩, found⟩ := mem
  obtain ⟨rule, registered', milder⟩ := milder rule' registered
  have within {w : Violation} (found : w ∈ (rule.outcomeOn b).violations) : w ∈ violationsIn rules bundles := by
    simp only [violationsIn, List.mem_flatMap, List.mem_filter, List.any_eq_true]
    exact ⟨b, given, rule, ⟨registered', glob, milder.appliesTo looks, covers⟩, found⟩
  by_cases blocking : v.isBlocking = true
  · obtain ⟨w, found, blocking'⟩ := milder.blocks b v found blocking
    exact ⟨w, within found, fun _ => blocking'⟩
  · have some : (rule.outcomeOn b).violations ≠ [] := by
      intro none
      rw [milder.silent b none] at found
      cases found
    obtain ⟨w, found⟩ := List.exists_mem_of_ne_nil _ some
    exact ⟨w, within found, fun blocks => absurd blocks blocking⟩

theorem Succeeds.of_milder {rules rules' : List Rule}
    (milder : ∀ rule' ∈ rules', ∃ rule ∈ rules, rule'.Milder rule) {taken : Intake} {strict : Bool}
    (succeeds : Succeeds rules taken strict) : Succeeds rules' taken strict := by
  refine ⟨succeeds.read, fun v mem => ?_, fun isStrict v mem => ?_⟩
  · obtain ⟨w, found, blocks⟩ := exists_of_mem_violationsIn milder mem
    by_contra blocking
    have blocked := blocks (by simpa using blocking)
    exact Bool.noConfusion ((succeeds.unblocked w found).symm.trans blocked)
  · -- Under `strict` the other rules have found nothing at all.
    obtain ⟨w, found, -⟩ := exists_of_mem_violationsIn milder mem
    exact Bool.noConfusion ((succeeds.unblocked w found).symm.trans (succeeds.unwarned isStrict w found))

namespace Registry

theorem exitCode_le_of_milder {r r' : Registry}
    (milder : ∀ rule' ∈ r'.rules, ∃ rule ∈ r.rules, rule'.Milder rule) {taken : Intake}
    {parallel parallel' : Bool} {workers workers' : Int} {report report' : Report}
    (ends : (r.runIntake taken parallel workers).Ends report)
    (ends' : (r'.runIntake taken parallel' workers').Ends report') (strict : Bool) :
    report'.exitCode strict ≤ report.exitCode strict := by
  unfold Report.exitCode
  by_cases success : report.isSuccess strict = true
  · have success' : report'.isSuccess strict = true := by
      rw [isSuccess_of_ends ends] at success
      rw [isSuccess_of_ends ends']
      exact success.of_milder milder
    simp [success']
  · rw [if_neg success]
    split <;> omega

/-- Rules are as severe as the milder ones, so both are left out together. -/
theorem exists_milder_of_filter {rules rules' : List Rule} {r r' : Registry}
    {included : Option (List Severity)}
    (rules_eq : r.rules = rules.filter fun rule => included.all (·.contains rule.severity))
    (rules_eq' : r'.rules = rules'.filter fun rule => included.all (·.contains rule.severity))
    (milder : ∀ rule' ∈ rules', ∃ rule ∈ rules, rule'.Milder rule) :
    ∀ rule' ∈ r'.rules, ∃ rule ∈ r.rules, rule'.Milder rule := by
  rw [rules_eq, rules_eq']
  intro rule' mem
  obtain ⟨mem, taken⟩ := List.mem_filter.1 mem
  obtain ⟨rule, given, milder⟩ := milder rule' mem
  rw [milder.severity] at taken
  exact ⟨rule, List.mem_filter.2 ⟨given, taken⟩, milder⟩

end Registry

/-! ## Longer lists -/

/-- The second profile differs from the first in that one of its lists holds more. -/
structure Profile.Extends (key : ListKey) (p p' : Profile) : Prop where
  text : p'.text = p.text
  more : p.list key ⊆ p'.list key
  others : ∀ other, other ≠ key → p'.list other = p.list other

namespace Profile.Extends

variable {key : ListKey} {p p' : Profile} (longer : Profile.Extends key p p')
include longer

theorem list_subset (other : ListKey) : p.list other ⊆ p'.list other := by
  by_cases same : other = key
  · exact same ▸ longer.more
  · rw [longer.others other same]
    exact List.Subset.refl _

theorem milder (excuses : key.excuses = true) : p'.Milder p := by
  refine ⟨longer.text, fun other _ => longer.list_subset other, fun other accuses => ?_⟩
  rw [longer.others other]
  · exact List.Subset.refl _
  · rintro rfl
    exact Bool.noConfusion (excuses.symm.trans accuses)

theorem milder_symm (accuses : key.excuses = false) : p.Milder p' := by
  refine ⟨longer.text.symm, fun other excuses => ?_, fun other _ => longer.list_subset other⟩
  rw [longer.others other]
  · exact List.Subset.refl _
  · rintro rfl
    exact Bool.noConfusion (excuses.symm.trans accuses)

end Profile.Extends

namespace Registry

/-- Let one list of a profile be extended, and let the guard expressions be readable with and without that.
Then the five rules can be registered under both profiles, and on the same files the exit code does not rise
if the list excuses, and does not fall otherwise, whatever the schedules of the two runs. -/
theorem exitCode_monotone {key : ListKey} {p p' : Profile} (longer : Profile.Extends key p p')
    {rules rules' : List Rule} (read : defaultRules p = .ok rules) (read' : defaultRules p' = .ok rules')
    (included : Option (List Severity)) :
    ∃ r r' : Registry, ofRules rules included = .ok r ∧ ofRules rules' included = .ok r' ∧
      ∀ (taken : Intake) (parallel parallel' : Bool) (workers workers' : Int) (report report' : Report),
        (r.runIntake taken parallel workers).Ends report →
          (r'.runIntake taken parallel' workers').Ends report' → ∀ strict,
            (key.excuses = true → report'.exitCode strict ≤ report.exitCode strict) ∧
              (key.excuses = false → report.exitCode strict ≤ report'.exitCode strict) := by
  obtain ⟨r, registered, rules_eq⟩ := ofRules_of_nodup (nodup_names_of_defaultRules read) included
  obtain ⟨r', registered', rules_eq'⟩ := ofRules_of_nodup (nodup_names_of_defaultRules read') included
  refine ⟨r, r', registered, registered', ?_⟩
  intro taken parallel parallel' workers workers' report report' ends ends' strict
  constructor
  · intro excuses
    have milder := exists_milder_of_defaultRules (longer.milder excuses) read read'
    exact exitCode_le_of_milder (exists_milder_of_filter rules_eq rules_eq' milder) ends ends' strict
  · intro accuses
    have milder := exists_milder_of_defaultRules (longer.milder_symm accuses) read' read
    exact exitCode_le_of_milder (exists_milder_of_filter rules_eq' rules_eq milder) ends' ends strict

/-- A script that no guard was looked for in passes once it is told what its guard looks like. -/
theorem exitCode_monotone_of_guard :
    let p : Profile := { list := fun key => if key = .guardAppliesTo then ["*"] else [] }
    let p' := p.setList .guardPatterns ["wss"]
    let taken : Intake := { bundles := [⟨"a.js", ['w', 's', 's']⟩] }
    p.Extends .guardPatterns p' ∧
      ∃ rules rules', defaultRules p = .ok rules ∧ defaultRules p' = .ok rules' ∧
        ∃ r r' : Registry, ofRules rules none = .ok r ∧ ofRules rules' none = .ok r' ∧
          (∀ strict, (r'.runIntake taken true 4).report.exitCode strict ≤
            (r.runIntake taken true 4).report.exitCode strict) ∧
          (r.runIntake taken true 4).report.exitCode false = 1 ∧
          (r'.runIntake taken true 4).report.exitCode false = 0 := by
  intro p p' taken
  have longer : p.Extends .guardPatterns p' :=
    ⟨rfl, List.nil_subset _, fun other ne => by simp [p', Profile.setList, ne]⟩
  have found : ((defaultRules p).toOption.map fun rules =>
      (violationsIn rules taken.bundles).map (·.severity)) = some [.high] := by decide +kernel
  have found' : ((defaultRules p').toOption.map fun rules =>
      (violationsIn rules taken.bundles).map (·.severity)) = some [] := by decide +kernel
  obtain ⟨rules, read⟩ : ∃ rules, defaultRules p = .ok rules := by
    cases read : defaultRules p with
    | error e => simp [read, Except.toOption] at found
    | ok rules => exact ⟨rules, rfl⟩
  obtain ⟨rules', read'⟩ : ∃ rules', defaultRules p' = .ok rules' := by
    cases read' : defaultRules p' with
    | error e => simp [read', Except.toOption] at found'
    | ok rules' => exact ⟨rules', rfl⟩
  rw [read] at found
  rw [read'] at found'
  obtain ⟨r, r', registered, registered', monotone⟩ := exitCode_monotone longer read read' none
  have rules_eq : r.rules = rules := by
    simpa using rules_of_ofRules (nodup_names_of_defaultRules read) registered
  have rules_eq' : r'.rules = rules' := by
    simpa using rules_of_ofRules (nodup_names_of_defaultRules read') registered'
  have ends := Run.ends_report (r.capacity_runIntake taken true 4)
  have ends' := Run.ends_report (r'.capacity_runIntake taken true 4)
  refine ⟨longer, rules, rules', read, read', r, r', registered, registered', fun strict => ?_, ?_, ?_⟩
  · exact (monotone taken true true 4 4 _ _ ends ends' strict).1 rfl
  · refine if_neg fun success => ?_
    rw [isSuccess_of_ends ends, rules_eq] at success
    obtain ⟨v, found, severe⟩ : ∃ v ∈ violationsIn rules taken.bundles, v.severity = .high := by
      have severities : (violationsIn rules taken.bundles).map (·.severity) = [.high] := Option.some.inj found
      exact List.mem_map.1 (severities ▸ List.mem_singleton_self _)
    have blocking : v.isBlocking = true := by rw [Violation.isBlocking, severe, Severity.isBlocking]
    exact Bool.noConfusion ((success.unblocked v found).symm.trans blocking)
  · refine if_pos ?_
    rw [isSuccess_of_ends ends', rules_eq']
    have none : violationsIn rules' taken.bundles = [] := by simpa [Except.toOption] using found'
    exact ⟨rfl, by simp [none], by simp [none]⟩

end Registry

end BundleAudit

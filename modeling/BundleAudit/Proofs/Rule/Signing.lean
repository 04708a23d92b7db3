import BundleAudit.Proofs.Registry.Agreement
import BundleAudit.Proofs.Rule.Defaults

/-!
# Names in findings

The five rules have fixed names, and each of them names itself and the file in its findings.
-/

namespace BundleAudit

/-- The names of the five rules. -/
def ruleNames : List String :=
  [GlobalExport.ruleName, DynamicEval.ruleName, DependencyExclusion.ruleName, BuildTarget.ruleName,
    SchemeGuard.ruleName]

theorem signed_of_mem_detect {cleaned raw : List Char} {rule file : String} {detectors : List Detector}
    {safe : List Regex.Expr} {v : Violation} (h : v ∈ detect cleaned raw rule file detectors safe) :
    v.rule = rule ∧ v.file = file := by
  obtain ⟨d, -, found⟩ := List.mem_flatMap.1 h
  obtain ⟨m, -, judged⟩ := List.mem_filterMap.1 found
  simp only [Detector.judge] at judged
  split at judged
  · cases judged
  · obtain rfl := Option.some.inj judged
    exact ⟨rfl, rfl⟩

theorem GlobalExport.signsFindings (p : Profile) : (GlobalExport.rule p).SignsFindings := by
  intro cleaned raw path vs result v mem
  simp only [GlobalExport.rule] at result
  split at result
  · obtain rfl := Except.ok.inj result
    cases mem
  · obtain rfl := Except.ok.inj result
    obtain rfl := List.mem_singleton.1 mem
    exact ⟨rfl, rfl⟩

theorem DynamicEval.signsFindings (p : Profile) : (DynamicEval.rule p).SignsFindings := by
  intro cleaned raw path vs result v mem
  obtain rfl := Except.ok.inj result
  exact signed_of_mem_detect mem

theorem DependencyExclusion.signsFindings (p : Profile) : (DependencyExclusion.rule p).SignsFindings := by
  intro cleaned raw path vs result v mem
  obtain rfl := Except.ok.inj result
  obtain ⟨dependency, -, found⟩ := List.mem_flatMap.1 mem
  exact signed_of_mem_detect found

theorem BuildTarget.signsFindings (p : Profile) : (BuildTarget.rule p).SignsFindings := by
  intro cleaned raw path vs result v mem
  obtain rfl := Except.ok.inj result
  unfold BuildTarget.check at mem
  split at mem
  · obtain rfl := List.mem_singleton.1 mem
    exact ⟨rfl, rfl⟩
  · split at mem
    · cases mem
    · obtain rfl := List.mem_singleton.1 mem
      exact ⟨rfl, rfl⟩

theorem SchemeGuard.signsFindings (p : Profile) (primary fallback : List Regex.Pattern) :
    (SchemeGuard.ruleWith p primary fallback).SignsFindings := by
  intro cleaned raw path vs result v mem
  obtain rfl := Except.ok.inj result
  unfold SchemeGuard.check at mem
  split at mem
  · dsimp only at mem
    split at mem
    · obtain rfl := List.mem_singleton.1 mem
      exact ⟨rfl, rfl⟩
    · obtain rfl := List.mem_singleton.1 mem
      exact ⟨rfl, rfl⟩
  · cases mem

section
variable {p : Profile} {rules : List Rule} (read : defaultRules p = .ok rules)
include read

theorem names_of_defaultRules : rules.map (·.name) = ruleNames := by
  obtain ⟨primary, fallback, -, -, rfl⟩ := eq_of_defaultRules read
  rfl

theorem nodup_names_of_defaultRules : (rules.map (·.name)).Nodup := by
  rw [names_of_defaultRules read]
  decide

theorem signsFindings_of_defaultRules {rule : Rule} (mem : rule ∈ rules) : rule.SignsFindings := by
  obtain ⟨primary, fallback, -, -, rfl⟩ := eq_of_defaultRules read
  simp only [List.mem_cons, List.not_mem_nil, or_false] at mem
  rcases mem with rfl | rfl | rfl | rfl | rfl
  · exact GlobalExport.signsFindings p
  · exact DynamicEval.signsFindings p
  · exact DependencyExclusion.signsFindings p
  · exact BuildTarget.signsFindings p
  · exact SchemeGuard.signsFindings p primary fallback

end

end BundleAudit

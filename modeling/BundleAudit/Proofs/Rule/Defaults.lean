import BundleAudit.Profile.Loading
import BundleAudit.Attempts
import BundleAudit.Registry

/-!
# The five rules

The rules under a profile are known once its guard expressions can be read.
-/

namespace BundleAudit

open BundleAudit.Regex

namespace SchemeGuard

/-- The rule about the guard with the expressions that were read. -/
def ruleWith (p : Profile) (primary fallback : List Pattern) : Rule where
  name := ruleName
  description := "WebSocket scheme guard presence for restricted runtimes"
  severity := .high
  appliesTo := p.list .guardAppliesTo
  evaluate cleaned _ file := .ok (check primary fallback cleaned file)

end SchemeGuard

theorem eq_of_defaultRules {p : Profile} {rules : List Rule} (h : defaultRules p = .ok rules) :
    ∃ primary fallback, SchemeGuard.readAll (p.list .guardPatterns) = .ok primary ∧
      SchemeGuard.readAll (p.list .fallbackGuardPatterns) = .ok fallback ∧
        rules = [GlobalExport.rule p, DynamicEval.rule p, DependencyExclusion.rule p, BuildTarget.rule p,
          SchemeGuard.ruleWith p primary fallback] := by
  obtain ⟨guard, made, rest⟩ := eq_ok_of_bind h
  obtain ⟨primary, first, made⟩ := eq_ok_of_bind made
  obtain ⟨fallback, second, made⟩ := eq_ok_of_bind made
  obtain rfl := Except.ok.inj made
  exact ⟨primary, fallback, first, second, (Except.ok.inj rest).symm⟩

/-- Whether the rules are known depends on the guard expressions alone. -/
theorem exists_rules_of_same_guards {p q : Profile} {rules : List Rule} (read : defaultRules q = .ok rules)
    (primary : p.list .guardPatterns = q.list .guardPatterns)
    (fallback : p.list .fallbackGuardPatterns = q.list .fallbackGuardPatterns) :
    ∃ rules, defaultRules p = .ok rules := by
  obtain ⟨first, second, readPrimary, readFallback, -⟩ := eq_of_defaultRules read
  refine bind_isOk (bind_isOk ⟨first, ?_⟩ fun _ => bind_isOk ⟨second, ?_⟩ fun _ => ⟨_, rfl⟩) fun _ => ⟨_, rfl⟩
  · rw [primary, readPrimary]
  · rw [fallback, readFallback]

/-- The guard expressions of the preset can be read. -/
theorem exists_rules_umdSdk : ∃ rules, defaultRules Profile.umdSdk = .ok rules := by
  have isOk : (defaultRules Profile.umdSdk).isOk = true := by decide +kernel
  cases read : defaultRules Profile.umdSdk with
  | ok rules => exact ⟨rules, rfl⟩
  | error e => simp [read, Except.isOk, Except.toBool] at isOk

end BundleAudit

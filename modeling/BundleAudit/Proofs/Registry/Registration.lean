import BundleAudit.Registry

/-!
# Registration

Rules of different names are registered one after the other without an error. The registry then holds
those of an included severity, in the order in which they were given.
-/

namespace BundleAudit.Registry

/-- Registers rules in order, up to the first that is refused. -/
def registerEach (r : Registry) : List Rule → Except DuplicateRule Registry
  | [] => .ok r
  | rule :: rest =>
    match r.register rule with
    | .ok (_, r) => r.registerEach rest
    | .error e => .error e

/-- The registry of rules, or of those among them whose severity is included. -/
def ofRules (rules : List Rule) (included : Option (List Severity)) : Except DuplicateRule Registry :=
  registerEach { rules := [], included := included, names_nodup := List.nodup_nil } rules

theorem includes_congr {r s : Registry} (same : s.included = r.included) : s.includes = r.includes := by
  funext severity
  rw [includes, same, includes]

theorem fresh_of_nodup {r : Registry} {rule : Rule} {rest : List Rule}
    (names : ((r.rules ++ rule :: rest).map (·.name)).Nodup) :
    ¬ r.rules.any (·.name == rule.name) = true := by
  rw [List.map_append, List.nodup_append] at names
  simpa using fun other mem => names.2.2 _ (List.mem_map_of_mem mem) _ List.mem_cons_self

/-- A rule of a new name is taken if its severity is included, and otherwise nothing changes. -/
theorem register_fresh {r : Registry} {rule : Rule} (fresh : ¬ r.rules.any (·.name == rule.name) = true) :
    ∃ r' : Registry, r.register rule = .ok (r.includes rule.severity, r') ∧ r'.included = r.included ∧
      r'.rules = r.rules ++ [rule].filter (r.includes ·.severity) := by
  unfold register
  rw [dif_neg fresh]
  cases taken : r.includes rule.severity with
  | true => exact ⟨_, rfl, rfl, by simp [taken]⟩
  | false => exact ⟨r, rfl, rfl, by simp [taken]⟩

theorem registerEach_of_nodup : ∀ (rules : List Rule) (r : Registry),
    ((r.rules ++ rules).map (·.name)).Nodup →
      ∃ r' : Registry, r.registerEach rules = .ok r' ∧
        r'.rules = r.rules ++ rules.filter (r.includes ·.severity)
  | [], r, _ => ⟨r, rfl, (List.append_nil _).symm⟩
  | rule :: rest, r, names => by
    obtain ⟨s, taken, included, rules_eq⟩ := register_fresh (fresh_of_nodup names)
    have names' : ((s.rules ++ rest).map (·.name)).Nodup := by
      refine names.sublist (.map _ ?_)
      rw [rules_eq, List.append_assoc]
      exact .append_left (.append_right List.filter_sublist rest) _
    obtain ⟨r', registered, all⟩ := registerEach_of_nodup rest s names'
    refine ⟨r', by rw [registerEach, taken]; exact registered, ?_⟩
    rw [all, rules_eq, includes_congr included, List.append_assoc, ← List.filter_append]
    rfl

/-- Rules of different names make a registry of those whose severity is included. -/
theorem ofRules_of_nodup {rules : List Rule} (names : (rules.map (·.name)).Nodup)
    (included : Option (List Severity)) :
    ∃ r, ofRules rules included = .ok r ∧
      r.rules = rules.filter fun rule => included.all (·.contains rule.severity) := by
  obtain ⟨r, registered, all⟩ := registerEach_of_nodup rules { included := included } names
  exact ⟨r, registered, all⟩

theorem rules_of_ofRules {rules : List Rule} (names : (rules.map (·.name)).Nodup)
    {included : Option (List Severity)} {r : Registry} (registered : ofRules rules included = .ok r) :
    r.rules = rules.filter fun rule => included.all (·.contains rule.severity) := by
  obtain ⟨r', registered', all⟩ := ofRules_of_nodup names included
  obtain rfl := Except.ok.inj (registered.symm.trans registered')
  exact all

end BundleAudit.Registry

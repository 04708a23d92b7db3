import BundleAudit.Proofs.Firsts
import BundleAudit.Proofs.Registry.Registration

/-!
# Calls of a registry

A registry is asked to take one rule after the other. A rule whose name is held is refused, whatever its
severity; one of another severity than the included ones is skipped; and every other rule is taken. Only the
last of these changes the registry, so that a skipped rule leaves its name free. What is registered after any
calls is, of the rules of an included severity, the first of each name (`registers_first_of_each_name`).
-/

namespace BundleAudit.Registry

/-- The answer to a call, and the registry behind it. -/
def call (r : Registry) (rule : Rule) : Except DuplicateRule Bool × Registry :=
  match r.register rule with
  | .ok (taken, s) => (.ok taken, s)
  | .error e => (.error e, r)

/-- The registry behind calls for one rule after the other, whatever they were answered. -/
def afterCalls (r : Registry) (rules : List Rule) : Registry := rules.foldl (fun r rule => (r.call rule).2) r

/-- A rule of this name is registered. -/
def Holds (r : Registry) (name : String) : Prop := ∃ rule ∈ r.rules, rule.name = name

/-- The ways in which a call can end, by its answer and the registry behind it. -/
inductive Called (r : Registry) (rule : Rule) : Except DuplicateRule Bool → Registry → Prop
  | refused (held : r.Holds rule.name) : Called r rule (.error ⟨rule.name⟩) r
  | skipped (free : ¬ r.Holds rule.name) (excluded : r.includes rule.severity = false) :
    Called r rule (.ok false) r
  | taken {s : Registry} (free : ¬ r.Holds rule.name) (included : r.includes rule.severity = true)
    (rules : s.rules = r.rules ++ [rule]) (same : s.included = r.included) : Called r rule (.ok true) s

theorem holds_iff (r : Registry) (name : String) : r.Holds name ↔ r.rules.any (·.name == name) = true := by
  simp [Holds]

theorem called (r : Registry) (rule : Rule) :
    ∃ answer s, r.call rule = (answer, s) ∧ r.Called rule answer s := by
  unfold call register
  by_cases held : r.rules.any (·.name == rule.name) = true
  · rw [dif_pos held]
    exact ⟨_, _, rfl, .refused ((r.holds_iff rule.name).2 held)⟩
  · have free : ¬ r.Holds rule.name := by rwa [holds_iff]
    rw [dif_neg held]
    cases included : r.includes rule.severity with
    | true => exact ⟨_, _, rfl, .taken free included rfl rfl⟩
    | false => exact ⟨_, _, rfl, .skipped free included⟩

/-! ## Runs of calls -/

theorem included_call (r : Registry) (rule : Rule) : (r.call rule).2.included = r.included := by
  obtain ⟨answer, s, made, ended⟩ := r.called rule
  rw [made]
  cases ended with
  | refused => rfl
  | skipped => rfl
  | taken _ _ _ same => exact same

/-- A call adds its rule if the severity is included and the name is not held. -/
theorem rules_call (r : Registry) (rule : Rule) :
    (r.call rule).2.rules =
      if r.includes rule.severity then
        if r.rules.any (·.name == rule.name) then r.rules else r.rules ++ [rule]
      else r.rules := by
  obtain ⟨answer, s, made, ended⟩ := r.called rule
  rw [made]
  cases ended with
  | refused held => simp [(r.holds_iff rule.name).1 held]
  | skipped free excluded => simp [excluded]
  | taken free included rules _ =>
    rw [holds_iff] at free
    simp [included, free, rules]

theorem included_afterCalls : ∀ (rules : List Rule) (r : Registry), (r.afterCalls rules).included = r.included
  | [], _ => rfl
  | rule :: rest, r => (included_afterCalls rest (r.call rule).2).trans (r.included_call rule)

/-- Calls add the rules of an included severity, each unless a rule of its name was added before. -/
theorem rules_afterCalls : ∀ (rules : List Rule) (r : Registry),
    (r.afterCalls rules).rules = (rules.filter (r.includes ·.severity)).foldl
      (fun kept rule => if kept.any (·.name == rule.name) then kept else kept ++ [rule]) r.rules
  | [], _ => rfl
  | rule :: rest, r => by
    have step : r.afterCalls (rule :: rest) = (r.call rule).2.afterCalls rest := rfl
    rw [step, rules_afterCalls rest, includes_congr (r.included_call rule), rules_call, List.filter_cons]
    by_cases included : r.includes rule.severity = true
    · simp only [included, if_true, List.foldl_cons]
    · simp only [included, Bool.false_eq_true, if_false]

/-- The first of each name among the rules of an included severity. -/
theorem rules_afterCalls_empty (included : Option (List Severity)) (rules : List Rule) :
    (afterCalls { included := included } rules).rules =
      firsts Rule.name (rules.filter fun rule => included.all (·.contains rule.severity)) := by
  rw [rules_afterCalls, foldl_keep_firsts Rule.name]
  simp only [List.nil_append, List.any_nil, Bool.not_false, List.filter_true]
  rfl

/-! ## What calls amount to -/

/-- After any calls, the registry holds the first of each name among the rules of an included severity, in the
order of the calls, so that its names are different and its severities included. The next call is refused if
and only if its name is held. It skips its rule if and only if the name is free and the severity is not
included, and it takes it if the severity is. Unless the rule is taken, the registry stays as it was, and a name
that was skipped can still be registered. -/
theorem registers_first_of_each_name (included : Option (List Severity)) (rules : List Rule) :
    let r := afterCalls { included := included } rules
    let includes (rule : Rule) : Bool := included.all (·.contains rule.severity)
    r.rules = firsts Rule.name (rules.filter includes) ∧
    (r.rules.map (·.name)).Nodup ∧
    (∀ rule ∈ r.rules, includes rule = true) ∧
    ∀ rule : Rule,
      ((r.call rule).1 = .error ⟨rule.name⟩ ↔ r.Holds rule.name) ∧
      ((r.call rule).1 = .ok false ↔ ¬ r.Holds rule.name ∧ includes rule = false) ∧
      ((r.call rule).1 = .ok true ↔ ¬ r.Holds rule.name ∧ includes rule = true) ∧
      ((r.call rule).1 = .ok true → (r.call rule).2.rules = r.rules ++ [rule]) ∧
      ((r.call rule).1 ≠ .ok true → (r.call rule).2 = r) ∧
      ((r.call rule).1 = .ok false → ∀ other : Rule, other.name = rule.name → includes other = true →
        ((r.call rule).2.call other).1 = .ok true) := by
  intro r includes
  have listed : r.rules = firsts Rule.name (rules.filter includes) := rules_afterCalls_empty included rules
  have same : ∀ rule : Rule, r.includes rule.severity = includes rule := by
    intro rule
    rw [Registry.includes, included_afterCalls]
  refine ⟨listed, ?_, ?_, fun rule => ?_⟩
  · rw [listed]
    exact nodup_firsts _
  · intro rule mem
    rw [listed] at mem
    exact (List.mem_filter.1 ((firsts_sublist _).subset mem)).2
  · obtain ⟨answer, s, made, ended⟩ := r.called rule
    rw [made]
    cases ended with
    | refused held => simp [held]
    | skipped free excluded =>
      rw [same] at excluded
      refine ⟨by simp [free], by simp [free, excluded], by simp [excluded], by simp, fun _ => rfl, ?_⟩
      -- The name is as free for the other rule as it was for the one that was skipped.
      intro _ other named included'
      obtain ⟨answer', t, made', ended'⟩ := r.called other
      rw [made']
      cases ended' with
      | refused held => exact absurd (named ▸ held) free
      | skipped _ excluded' => simp [same, included'] at excluded'
      | taken => rfl
    | taken free included' added _ =>
      rw [same] at included'
      simp [free, included', added]

/-- A rule is skipped and its name then taken by another one, which keeps it. -/
theorem registers_first_of_each_name_of_skipped :
    let rule (name : String) (severity : Severity) : Rule :=
      { name := name, description := "", severity := severity, appliesTo := ["*"], evaluate := fun _ _ _ => .ok [] }
    let start : Registry := { included := some [.high] }
    (start.call (rule "a" .low)).1 = .ok false ∧
      ((start.call (rule "a" .low)).2.call (rule "a" .high)).1 = .ok true ∧
      (afterCalls start [rule "a" .low, rule "a" .high, rule "b" .high]).rules.map (·.name) = ["a", "b"] ∧
      ((afterCalls start [rule "a" .low, rule "a" .high, rule "b" .high]).call (rule "a" .low)).1 =
        .error ⟨"a"⟩ := by
  intro rule start
  obtain ⟨-, -, -, first⟩ := registers_first_of_each_name (some [.high]) []
  obtain ⟨-, skips, -, -, -, leaves⟩ := first (rule "a" .low)
  obtain ⟨listed, -, -, next⟩ :=
    registers_first_of_each_name (some [.high]) [rule "a" .low, rule "a" .high, rule "b" .high]
  have skipped : (start.call (rule "a" .low)).1 = .ok false := by
    refine skips.2 ⟨?_, rfl⟩
    rintro ⟨held, mem, -⟩
    cases mem
  refine ⟨skipped, leaves skipped (rule "a" .high) rfl rfl, ?_, ?_⟩
  · rw [listed]
    decide
  · refine (next (rule "a" .low)).1.2 ⟨rule "a" .high, ?_, rfl⟩
    rw [listed]
    exact List.mem_cons_self

end BundleAudit.Registry

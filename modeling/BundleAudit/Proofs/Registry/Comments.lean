import BundleAudit.Proofs.Regex.Occurrence
import BundleAudit.Proofs.Registry.Outcomes
import BundleAudit.Proofs.Rule.Defaults
import BundleAudit.Proofs.Source.CommentContents

/-!
# Comments and findings

The rules that ask for the presence of something look at the cleaned script alone, so what comments hold
cannot change their outcomes. The rules that look for suspicious text report pieces of the cleaned script,
so nothing that stands in a comment is reported.
-/

namespace BundleAudit

open BundleAudit.Source (strip Piece Decomposes DiffersInComments)

/-! ## Rules that look at the cleaned script alone -/

/-- The names of the rules that ask for the presence of something. -/
def presenceRules : List String := [GlobalExport.ruleName, BuildTarget.ruleName, SchemeGuard.ruleName]

/-- The names of the rules that look for suspicious text. -/
def detectionRules : List String := [DynamicEval.ruleName, DependencyExclusion.ruleName]

/-- What the rule gives does not depend on the raw script. -/
def Rule.IgnoresRaw (rule : Rule) : Prop :=
  ∀ (cleaned raw raw' : List Char) (path : String),
    rule.evaluate cleaned raw path = rule.evaluate cleaned raw' path

/-- Each violation of the rule shows a piece of the cleaned script. -/
def Rule.ShowsCleaned (rule : Rule) : Prop :=
  ∀ (cleaned raw : List Char) (path : String), ∃ vs, rule.evaluate cleaned raw path = .ok vs ∧
    ∀ v ∈ vs, v.matched.toList <:+: cleaned

theorem piece_of_mem_detect {cleaned raw : List Char} {rule file : String} {detectors : List Detector}
    {safe : List Regex.Expr} {v : Violation} (h : v ∈ detect cleaned raw rule file detectors safe) :
    v.matched.toList <:+: cleaned := by
  obtain ⟨d, -, found⟩ := List.mem_flatMap.1 h
  obtain ⟨m, mem, judged⟩ := List.mem_filterMap.1 found
  simp only [Detector.judge] at judged
  split at judged
  · cases judged
  · obtain rfl := Option.some.inj judged
    simpa [Detector.report] using Regex.Expr.isInfix_of_mem_findAll mem

section
variable {p : Profile} {rules : List Rule} (read : defaultRules p = .ok rules)
include read

theorem ignoresRaw_of_presence {rule : Rule} (mem : rule ∈ rules) (presence : rule.name ∈ presenceRules) :
    rule.IgnoresRaw := by
  obtain ⟨primary, fallback, -, -, rfl⟩ := eq_of_defaultRules read
  simp only [List.mem_cons, List.not_mem_nil, or_false] at mem
  rcases mem with rfl | rfl | rfl | rfl | rfl
  · exact fun _ _ _ _ => rfl
  · exact absurd presence (show DynamicEval.ruleName ∉ presenceRules by decide)
  · exact absurd presence (show DependencyExclusion.ruleName ∉ presenceRules by decide)
  · exact fun _ _ _ _ => rfl
  · exact fun _ _ _ _ => rfl

theorem showsCleaned_of_detection {rule : Rule} (mem : rule ∈ rules) (detection : rule.name ∈ detectionRules) :
    rule.ShowsCleaned := by
  obtain ⟨primary, fallback, -, -, rfl⟩ := eq_of_defaultRules read
  simp only [List.mem_cons, List.not_mem_nil, or_false] at mem
  rcases mem with rfl | rfl | rfl | rfl | rfl
  · exact absurd detection (show GlobalExport.ruleName ∉ detectionRules by decide)
  · exact fun _ _ _ => ⟨_, rfl, fun v hv => piece_of_mem_detect hv⟩
  · refine fun _ _ _ => ⟨_, rfl, fun v hv => ?_⟩
    obtain ⟨dependency, -, found⟩ := List.mem_flatMap.1 hv
    exact piece_of_mem_detect found
  · exact absurd detection (show BuildTarget.ruleName ∉ detectionRules by decide)
  · exact absurd detection (show SchemeGuard.ruleName ∉ detectionRules by decide)

end

theorem Rule.IgnoresRaw.outcomeOn_eq {rule : Rule} (ignores : rule.IgnoresRaw) {path : String}
    {text text' : List Char} (same : strip text = strip text') :
    rule.outcomeOn ⟨path, text⟩ = rule.outcomeOn ⟨path, text'⟩ := by
  unfold outcomeOn
  simp only [same, ignores _ text text' path]

theorem Rule.ShowsCleaned.piece_of_mem_violations {rule : Rule} (shows_ : rule.ShowsCleaned) {b : Bundle} {v : Violation}
    (h : v ∈ (rule.outcomeOn b).violations) : v.matched.toList <:+: strip b.content := by
  obtain ⟨vs, result, shown⟩ := shows_ (strip b.content) b.content b.path
  rw [outcomeOn_ok result] at h
  obtain ⟨w, hw, rfl⟩ := List.mem_map.1 h
  rw [w.clamp_eq rule.severity]
  exact shown w hw

/-! ## Runs on one file -/

namespace FileRun

/-- The outcomes of the rules with these names. -/
def outcomesOf (f : FileRun) (names : List String) : List Outcome := f.outcomes.filter (·.rule ∈ names)

theorem outcomesOf_runFile (r : Registry) (b : Bundle) (names : List String) :
    (r.runFile b).outcomesOf names =
      ((r.applicable b.path).filter (·.name ∈ names)).map (·.outcomeOn b) := by
  rw [outcomesOf, r.outcomes_runFile, List.filter_map]
  rfl

end FileRun

namespace Registry

/-- Two scripts that differ in their comments only, or by them, are cleaned alike, and the rules that ask
for the presence of something have the same outcomes on them. What the other rules report is a piece of the
cleaned script. -/
theorem comments_without_effect {p : Profile} {rules : List Rule} (read : defaultRules p = .ok rules)
    {r : Registry} (within : ∀ rule ∈ r.rules, rule ∈ rules) (path : String) :
    (∀ text text', DiffersInComments text text' →
      strip text = strip text' ∧
        (r.runFile ⟨path, text⟩).outcomesOf presenceRules =
          (r.runFile ⟨path, text'⟩).outcomesOf presenceRules) ∧
    ∀ text, ∀ o ∈ (r.runFile ⟨path, text⟩).outcomesOf detectionRules, ∀ v ∈ o.violations,
      v.matched.toList <:+: strip text := by
  have rules_of {names : List String} {path : String} {rule : Rule}
      (mem : rule ∈ (r.applicable path).filter (·.name ∈ names)) : rule ∈ rules ∧ rule.name ∈ names := by
    obtain ⟨applicable, named⟩ := List.mem_filter.1 mem
    exact ⟨within rule (mem_applicable applicable), of_decide_eq_true named⟩
  constructor
  · intro text text' differs
    refine ⟨differs.strip_eq, ?_⟩
    rw [FileRun.outcomesOf_runFile, FileRun.outcomesOf_runFile]
    refine List.map_congr_left fun rule mem => ?_
    obtain ⟨known, presence⟩ := rules_of mem
    exact (ignoresRaw_of_presence read known presence).outcomeOn_eq differs.strip_eq
  · intro text o mem v hv
    rw [FileRun.outcomesOf_runFile] at mem
    obtain ⟨rule, chosen, rfl⟩ := List.mem_map.1 mem
    obtain ⟨known, detection⟩ := rules_of chosen
    exact (showsCleaned_of_detection read known detection).piece_of_mem_violations hv

/-- Quotes and calls in a comment, and a call outside of it. -/
theorem comments_without_effect_of_quote :
    let p : Profile := (({} : Profile).setList .guardPatterns []).setList .fallbackGuardPatterns []
    let rules : List Rule := [GlobalExport.rule p, DynamicEval.rule p, DependencyExclusion.rule p,
      BuildTarget.rule p, SchemeGuard.ruleWith p [] []]
    let r : Registry := { rules := rules, names_nodup := by decide }
    let text := "a/*'\n*/".toList
    let text' := "a/*eval(\n*/".toList
    defaultRules p = .ok rules ∧ (∀ rule ∈ r.rules, rule ∈ rules) ∧ DiffersInComments text text' ∧
      strip text = strip text' ∧
        (r.runFile ⟨"a.js", text⟩).outcomesOf presenceRules =
          (r.runFile ⟨"a.js", text'⟩).outcomesOf presenceRules := by
  intro p rules r text text'
  have read : defaultRules p = .ok rules := rfl
  have within : ∀ rule ∈ r.rules, rule ∈ rules := fun _ mem => mem
  have pieces : ∀ body : List Char, '*' ∉ body →
      Decomposes none ('a' :: '/' :: '*' :: (body ++ ['*', '/'])) [.plain 'a', .blockComment body true] := by
    intro body noStar
    have comment : (Piece.blockComment body true).Fits (some 'a') [] := by
      refine ⟨rfl, ⟨.inr (List.prefix_append _ _), ?_⟩, by simp⟩
      rintro before c after rfl (nil | closer)
      · simp at nil
      · obtain ⟨tail, e⟩ := closer
        obtain rfl : '*' = c := (List.cons.inj e).1
        simp at noStar
    have tail := Decomposes.cons comment .nil
    rw [List.append_nil] at tail
    exact .cons (p := .plain 'a') ⟨rfl, trivial⟩ tail
  have differs : DiffersInComments text text' :=
    .inl ⟨_, _, pieces "'\n".toList (by decide), pieces "eval(\n".toList (by decide),
      .cons (.refl _) (.cons (.blockComment true true rfl) .nil)⟩
  obtain ⟨cleaned, outcomes⟩ := (comments_without_effect read within "a.js").1 text text' differs
  exact ⟨read, within, differs, cleaned, outcomes⟩

end Registry

end BundleAudit

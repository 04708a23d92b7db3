import BundleAudit.Proofs.Regex.Search
import BundleAudit.Proofs.Registry.Outcomes
import BundleAudit.Proofs.Rule.Defaults
import BundleAudit.Proofs.Rule.Tally

/-!
# Milder rules

A rule is milder than another one if it looks at no other files, blocks only where the other one blocks,
and finds nothing where the other one finds nothing. It may warn where the other one blocks.

Some lists of a profile excuse, and the others accuse. With more of the first and less of the second, each of
the five rules becomes milder (`exists_milder_of_defaultRules`).
-/

namespace BundleAudit

/-- The rule is at most as severe as the other one, on every bundle. -/
structure Rule.Milder (rule' rule : Rule) : Prop where
  severity : rule'.severity = rule.severity
  appliesTo : rule'.appliesTo ⊆ rule.appliesTo
  blocks : ∀ b, ∀ v ∈ (rule'.outcomeOn b).violations, v.isBlocking = true →
    ∃ w ∈ (rule.outcomeOn b).violations, w.isBlocking = true
  silent : ∀ b, (rule.outcomeOn b).violations = [] → (rule'.outcomeOn b).violations = []

/-- Rules that never crash are compared by what they give. -/
theorem Rule.milder_of_evaluate {rule' rule : Rule} (severity : rule'.severity = rule.severity)
    (appliesTo : rule'.appliesTo ⊆ rule.appliesTo)
    (compared : ∀ cleaned raw path, ∃ vs' vs, rule'.evaluate cleaned raw path = .ok vs' ∧
      rule.evaluate cleaned raw path = .ok vs ∧
        (∀ v ∈ vs', (v.clamp rule.severity).isBlocking = true →
          ∃ w ∈ vs, (w.clamp rule.severity).isBlocking = true) ∧
        (vs = [] → vs' = [])) : rule'.Milder rule := by
  refine ⟨severity, appliesTo, fun b v mem blocking => ?_, fun b none => ?_⟩
  all_goals
    obtain ⟨vs', vs, result', result, blocks, silent⟩ := compared (Source.strip b.content) b.content b.path
  · rw [outcomeOn_ok result'] at mem
    rw [outcomeOn_ok result]
    obtain ⟨v', mem', rfl⟩ := List.mem_map.1 mem
    obtain ⟨w, found, blocking'⟩ := blocks v' mem' (severity ▸ blocking)
    exact ⟨_, List.mem_map_of_mem found, blocking'⟩
  · rw [outcomeOn_ok result, List.map_eq_nil_iff] at none
    rw [outcomeOn_ok result', silent none]
    rfl

/-- A rule that gives some of the violations that another one gives is milder. -/
theorem Rule.milder_of_subset {rule' rule : Rule} (severity : rule'.severity = rule.severity)
    (appliesTo : rule'.appliesTo ⊆ rule.appliesTo)
    (compared : ∀ cleaned raw path, ∃ vs' vs, rule'.evaluate cleaned raw path = .ok vs' ∧
      rule.evaluate cleaned raw path = .ok vs ∧ vs' ⊆ vs) : rule'.Milder rule := by
  refine milder_of_evaluate severity appliesTo fun cleaned raw path => ?_
  obtain ⟨vs', vs, result', result, some⟩ := compared cleaned raw path
  exact ⟨vs', vs, result', result, fun v mem blocking => ⟨v, some mem, blocking⟩,
    fun none => List.subset_nil.1 (none ▸ some)⟩

/-! ## Milder profiles -/

namespace ListKey

/-- Whether what a list names excuses scripts. The other lists name what is excluded, and the files that are
looked at. -/
def excuses : ListKey → Bool
  | .exportRoots | .evalSafeIdentifiers | .buildTargets | .guardPatterns | .fallbackGuardPatterns => true
  | .excludedDependencies | .exportAppliesTo | .evalAppliesTo | .dependencyAppliesTo | .buildAppliesTo
  | .guardAppliesTo => false

end ListKey

/-- The profile has the texts of the other one, excuses at least as much and accuses at most as much. -/
structure Profile.Milder (p' p : Profile) : Prop where
  text : p'.text = p.text
  excuses : ∀ key, key.excuses = true → p.list key ⊆ p'.list key
  accuses : ∀ key, key.excuses = false → p'.list key ⊆ p.list key

section
variable {p' p : Profile}

/-! ## Global exports -/

theorem GlobalExport.isSome_match_onRoot_mono {roots roots' : List String} (nonempty : roots ≠ [])
    (more : roots ⊆ roots') {name : List Char} (p : Regex.Place)
    (h : ((onRoot roots name).match some p).isSome) : ((onRoot roots' name).match some p).isSome := by
  -- Only the choice of the root differs, and it is followed by the same expressions.
  show (if _ then (Regex.Expr.choice (roots'.map _)).match _ p else none).isSome
  change (if _ then (Regex.Expr.choice (roots.map _)).match _ p else none).isSome at h
  split
  · next edge =>
    rw [if_pos edge] at h
    exact Regex.Expr.isSome_match_choice_mono (by simpa using nonempty) (List.map_subset _ more) h
  · next edge =>
    rw [if_neg edge] at h
    cases h

theorem GlobalExport.isPublished_mono {roots roots' : List String} (more : roots ⊆ roots')
    {name cleaned : List Char} (h : isPublished name roots cleaned = true) :
    isPublished name roots' cleaned = true := by
  obtain ⟨e, mem, occurs⟩ := List.any_eq_true.1 h
  rw [forms, List.mem_append] at mem
  rcases mem with onRoot | other
  · by_cases nonempty : roots = []
    · simp [nonempty] at onRoot
    · obtain rfl : e = GlobalExport.onRoot roots name := by simpa [nonempty] using onRoot
      obtain ⟨root, mem⟩ := List.exists_mem_of_ne_nil roots nonempty
      have nonempty' : roots' ≠ [] := List.ne_nil_of_mem (more mem)
      refine List.any_eq_true.2 ⟨GlobalExport.onRoot roots' name, ?_, ?_⟩
      · simp [forms, nonempty']
      · exact Regex.Expr.occursIn_mono (isSome_match_onRoot_mono nonempty more) occurs
  · exact List.any_eq_true.2 ⟨e, List.mem_append_right _ other, occurs⟩

theorem GlobalExport.milder (lenient : p'.Milder p) : (rule p').Milder (rule p) := by
  refine Rule.milder_of_subset rfl (lenient.accuses .exportAppliesTo rfl) fun cleaned raw path => ?_
  have more := lenient.excuses .exportRoots rfl
  simp only [rule, lenient.text]
  by_cases published : isPublished (p.text .exportName).toList (p.list .exportRoots) cleaned = true
  · simp [published, isPublished_mono more published]
  · by_cases published' : isPublished (p.text .exportName).toList (p'.list .exportRoots) cleaned = true
    · simp [published, published']
    · simp [published, published']

/-! ## Detection -/

theorem isSafeContext_mono {line window : List Char} {safe safe' : List Regex.Expr} (more : safe ⊆ safe')
    (h : isSafeContext line window safe = true) : isSafeContext line window safe' = true := by
  obtain ⟨e, mem, found⟩ := List.any_eq_true.1 h
  exact List.any_eq_true.2 ⟨e, more mem, found⟩

/-- What is not excused with more excuses was not excused before. -/
theorem detect_subset {cleaned raw : List Char} {rule file : String} {detectors : List Detector}
    {safe safe' : List Regex.Expr} (more : safe ⊆ safe') :
    detect cleaned raw rule file detectors safe' ⊆ detect cleaned raw rule file detectors safe := by
  intro v mem
  obtain ⟨d, known, found⟩ := List.mem_flatMap.1 mem
  obtain ⟨m, here, judged⟩ := List.mem_filterMap.1 found
  refine List.mem_flatMap.2 ⟨d, known, List.mem_filterMap.2 ⟨m, here, ?_⟩⟩
  simp only [Detector.judge] at judged ⊢
  split at judged
  · cases judged
  · next unsafe' =>
    rw [if_neg fun safe => unsafe' (isSafeContext_mono more safe)]
    exact judged

theorem DynamicEval.safe_subset (lenient : p'.Milder p) : safe p ⊆ safe p' := by
  have more := lenient.excuses .evalSafeIdentifiers rfl
  intro e mem
  simp only [safe, lenient.text, List.append_assoc, List.mem_append, List.map_append, List.mem_map] at mem ⊢
  refine mem.imp_left ?_
  rintro ⟨identifier, listed, rfl⟩
  exact ⟨identifier, more listed, rfl⟩

theorem DynamicEval.milder (lenient : p'.Milder p) : (rule p').Milder (rule p) :=
  Rule.milder_of_subset rfl (lenient.accuses .evalAppliesTo rfl) fun _ _ _ =>
    ⟨_, _, rfl, rfl, detect_subset (safe_subset lenient)⟩

theorem DependencyExclusion.milder (lenient : p'.Milder p) : (rule p').Milder (rule p) := by
  refine Rule.milder_of_subset rfl (lenient.accuses .dependencyAppliesTo rfl) fun cleaned raw path =>
    ⟨_, _, rfl, rfl, fun v mem => ?_⟩
  obtain ⟨dependency, listed, found⟩ := List.mem_flatMap.1 mem
  exact List.mem_flatMap.2 ⟨dependency, lenient.accuses .excludedDependencies rfl listed, found⟩

/-! ## Presence -/

theorem BuildTarget.check_eq_nil_mono {token : String} {targets targets' : List String}
    (more : targets ⊆ targets') {cleaned : List Char} {file : String}
    (none : check token targets cleaned file = []) : check token targets' cleaned file = [] := by
  unfold check at none ⊢
  split at none
  · cases none
  · next found =>
    have found' : ¬ (foundTargets targets' cleaned).isEmpty = true := by
      rw [List.isEmpty_iff, foundTargets, tally_eq_nil_iff] at found ⊢
      refine fun all => found fun c mem => ?_
      obtain ⟨target, listed, rfl⟩ := List.mem_map.1 mem
      exact all _ (List.mem_map_of_mem (more listed))
    rw [if_neg found']
    exact none

/-- The check of build targets never blocks. -/
theorem BuildTarget.milder (lenient : p'.Milder p) : (rule p').Milder (rule p) := by
  refine Rule.milder_of_evaluate rfl (lenient.accuses .buildAppliesTo rfl) fun cleaned raw path =>
    ⟨_, _, rfl, rfl, fun v _ blocking => ?_, fun none => ?_⟩
  · have mild : (v.clamp Severity.low).isBlocking = false := Violation.isBlocking_clamp rfl v
    exact Bool.noConfusion (mild.symm.trans blocking)
  · rw [lenient.text]
    exact check_eq_nil_mono (lenient.excuses .buildTargets rfl) none

/-! ## Scheme guards -/

namespace SchemeGuard

section
variable {primary primary' fallback fallback' : List Regex.Pattern} {cleaned : List Char} {file : String}

theorem readAll_subset {sources sources' : List String} (more : sources ⊆ sources')
    (read : readAll sources = .ok primary) (read' : readAll sources' = .ok primary') : primary ⊆ primary' := by
  intro r mem
  obtain ⟨source, listed, made⟩ := (mem_of_mapM read r).1 mem
  exact (mem_of_mapM read' r).2 ⟨source, more listed, made⟩

theorem matchedGuards_eq_nil_iff : matchedGuards primary cleaned = [] ↔
    ∀ r ∈ primary, (r.expr.findAll cleaned).length = 0 := by
  rw [matchedGuards, tally_eq_nil_iff, List.forall_mem_map]

theorem fallbackCount_eq_zero_iff : fallbackCount fallback cleaned = 0 ↔
    ∀ r ∈ fallback, (r.expr.findAll cleaned).length = 0 := by
  have summed : ∀ (fallback : List Regex.Pattern) (n : Nat),
      fallback.foldl (fun n r => n + (r.expr.findAll cleaned).length) n = 0 ↔
        n = 0 ∧ ∀ r ∈ fallback, (r.expr.findAll cleaned).length = 0 := by
    intro fallback
    induction fallback with
    | nil => simp
    | cons r rest ih =>
      intro n
      rw [List.foldl_cons, ih, Nat.add_eq_zero_iff, List.forall_mem_cons, and_assoc]
  rw [fallbackCount, summed]
  exact and_iff_right rfl

theorem check_eq_nil_iff : check primary fallback cleaned file = [] ↔ matchedGuards primary cleaned ≠ [] := by
  unfold check
  by_cases none : matchedGuards primary cleaned = []
  · by_cases count : fallbackCount fallback cleaned = 0 <;> simp [none, count]
  · simp [none]

/-- The check blocks where neither a guard nor what is left of one is found. -/
theorem exists_blocking_check_iff :
    (∃ v ∈ check primary fallback cleaned file, (v.clamp .high).isBlocking = true) ↔
      matchedGuards primary cleaned = [] ∧ fallbackCount fallback cleaned = 0 := by
  have blocks : ((missing file).clamp .high).isBlocking = true := rfl
  have warns (count : Nat) : ((minified file count).clamp .high).isBlocking = false := rfl
  unfold check
  by_cases none : matchedGuards primary cleaned = []
  · by_cases count : fallbackCount fallback cleaned = 0 <;> simp [none, count, blocks, warns]
  · simp [none]

end

/-- With more expressions the guard is found where it was found. With more fallbacks its absence may become
a warning. -/
theorem milder (lenient : p'.Milder p) {primary fallback primary' fallback' : List Regex.Pattern}
    (read : readAll (p.list .guardPatterns) = .ok primary)
    (read' : readAll (p'.list .guardPatterns) = .ok primary')
    (looser : readAll (p.list .fallbackGuardPatterns) = .ok fallback)
    (looser' : readAll (p'.list .fallbackGuardPatterns) = .ok fallback') :
    (ruleWith p' primary' fallback').Milder (ruleWith p primary fallback) := by
  have more : primary ⊆ primary' := readAll_subset (lenient.excuses .guardPatterns rfl) read read'
  have more' : fallback ⊆ fallback' :=
    readAll_subset (lenient.excuses .fallbackGuardPatterns rfl) looser looser'
  refine Rule.milder_of_evaluate rfl (lenient.accuses .guardAppliesTo rfl) fun cleaned raw path =>
    ⟨_, _, rfl, rfl, fun v mem blocking => ?_, fun none => ?_⟩
  · obtain ⟨unguarded, nothing⟩ := exists_blocking_check_iff.1 ⟨v, mem, blocking⟩
    rw [matchedGuards_eq_nil_iff] at unguarded
    rw [fallbackCount_eq_zero_iff] at nothing
    refine exists_blocking_check_iff.2 ⟨?_, ?_⟩
    · exact matchedGuards_eq_nil_iff.2 fun r mem => unguarded r (more mem)
    · exact fallbackCount_eq_zero_iff.2 fun r mem => nothing r (more' mem)
  · rw [check_eq_nil_iff] at none ⊢
    refine fun unguarded => none ?_
    rw [matchedGuards_eq_nil_iff] at unguarded ⊢
    exact fun r mem => unguarded r (more mem)

end SchemeGuard

/-! ## The five rules -/

/-- Each rule under a milder profile is milder than one under the other profile. -/
theorem exists_milder_of_defaultRules (lenient : p'.Milder p) {rules rules' : List Rule}
    (read : defaultRules p = .ok rules) (read' : defaultRules p' = .ok rules') :
    ∀ rule' ∈ rules', ∃ rule ∈ rules, rule'.Milder rule := by
  obtain ⟨primary, fallback, guards, looser, rfl⟩ := eq_of_defaultRules read
  obtain ⟨primary', fallback', guards', looser', rfl⟩ := eq_of_defaultRules read'
  intro rule' mem
  simp only [List.mem_cons, List.not_mem_nil, or_false] at mem
  rcases mem with rfl | rfl | rfl | rfl | rfl
  · exact ⟨_, by simp, GlobalExport.milder lenient⟩
  · exact ⟨_, by simp, DynamicEval.milder lenient⟩
  · exact ⟨_, by simp, DependencyExclusion.milder lenient⟩
  · exact ⟨_, by simp, BuildTarget.milder lenient⟩
  · exact ⟨_, by simp, SchemeGuard.milder lenient guards guards' looser looser'⟩

end

end BundleAudit

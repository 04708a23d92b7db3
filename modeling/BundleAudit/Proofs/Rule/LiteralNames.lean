import BundleAudit.Proofs.Rule.Defaults
import BundleAudit.Proofs.Rule.Publication
import BundleAudit.Proofs.Rule.StandaloneName
import BundleAudit.Proofs.Rule.WrittenForms

/-!
# Names of a profile are taken literally

Names of a profile may have any characters. The expressions around them can always be read, so that the rules cannot
be built only if a guard expression of the profile is none. And they match the names as they are: a script without the
export name does not pass, and what is reported of a module has the name of the module or of its class in it
(`takes_names_literally`).
-/

namespace BundleAudit

open BundleAudit.Regex

namespace GlobalExport

/-- A script without the name publishes it nowhere. -/
theorem infix_of_isPublished {name cleaned : List Char} {roots : List String}
    (published : isPublished name roots cleaned = true) : name <:+: cleaned := by
  rcases isPublished_iff.1 published with ⟨object, -, front, opening, back, -, rfl, -⟩ | assigned
  · exact ⟨front ++ (object.toList ++ opening), back, by simp⟩
  · obtain ⟨rest, mem, named, -⟩ := hasWhole_of_assigned assigned
    exact named.isInfix.trans ((List.mem_tails _ _).1 mem).isInfix

end GlobalExport

namespace DependencyExclusion

/-- A text has the name of a module in it, or that of the class that the module is taken to define. -/
def Mentions (d s : List Char) : Prop := d <:+: s ∨ className d <:+: s

/-- All detectors but the last are sequences of plain expressions, among them one for the name of the module, for
that of the class, or for both. -/
theorem exists_sequence_of_mem {d : List Char} {o : Detector} (mem : o ∈ (detectors d).dropLast) :
    o.expr.IsPlain = true ∧ ∃ front e back, o.expr = .sequence (front ++ e :: back) ∧
      ∀ before s after, e.Accepts before s after → s = d ∨ s = className d := by
  have literal (s : List Char) := Expr.isPlain_literal s
  have dep (before s after : List Char) (accepts : (Expr.literal d).Accepts before s after) :
      s = d ∨ s = className d := .inl (Expr.accepts_literal.1 accepts)
  have cls (before s after : List Char) (accepts : (Expr.literal (className d)).Accepts before s after) :
      s = d ∨ s = className d := .inr (Expr.accepts_literal.1 accepts)
  have methods_plain : methods.IsPlain = true := by
    refine Expr.isPlain_choice fun e mem => ?_
    obtain ⟨word, -, rfl⟩ := List.mem_map.1 mem
    exact literal _
  have cons {e : Expr} {es : List Expr} := @Expr.isPlain_sequence_cons e es
  simp only [detectors, List.dropLast_cons_cons, List.dropLast_singleton, List.mem_cons, List.not_mem_nil,
    or_false] at mem
  rcases mem with rfl | rfl | rfl | rfl | rfl | rfl | rfl
  · exact ⟨cons rfl <| cons (literal _) <| cons rfl <| cons (literal _) <| cons rfl <| cons rfl <| cons (literal d) <|
      cons rfl <| cons rfl <| literal _, [_, _, _, _, _, _], _, _, rfl, dep⟩
  · exact ⟨cons rfl <| cons (literal _) <| cons rfl <| cons rfl <| cons rfl <| cons (literal _) <| cons rfl <|
      cons rfl <| cons (literal d) rfl, [_, _, _, _, _, _, _, _], _, _, rfl, dep⟩
  · exact ⟨cons rfl <| cons (literal _) <| cons rfl <| cons (literal _) <| cons rfl <| cons rfl <| cons (literal d) <|
      cons rfl <| cons rfl <| literal _, [_, _, _, _, _, _], _, _, rfl, dep⟩
  · exact ⟨cons rfl <| cons (literal _) <| cons rfl <| cons (literal _) <| cons rfl <| cons rfl <| literal _,
      [_, _, _], _, _, rfl, cls⟩
  · exact ⟨cons rfl <| cons (literal d) <| cons (literal _) <| cons methods_plain rfl, [_], _, _, rfl, dep⟩
  · exact ⟨cons rfl <| cons (literal _) <| cons (literal _) <| cons methods_plain rfl, [_], _, _, rfl, cls⟩
  · refine ⟨cons rfl <| cons (Bool.and_eq_true_iff.2 ⟨literal d, literal _⟩) <| cons (literal _) rfl, [_], _, _, rfl, ?_⟩
    exact fun before s after accepts => accepts.elim (dep before s after) (cls before s after)

/-- What a detector finds has one of the two names in it. -/
theorem mentions_of_mem_findAll {d cleaned : List Char} {o : Detector} (mem : o ∈ detectors d) {m : Match}
    (found : m ∈ o.expr.findAll cleaned) : Mentions d m.text := by
  rw [detectors_eq, List.mem_append, List.mem_singleton] at mem
  rcases mem with other | rfl
  · obtain ⟨plain, front, e, back, shape, names⟩ := exists_sequence_of_mem other
    obtain ⟨before, after, -, -, accepts⟩ := Expr.accepts_of_mem_findAll plain found
    rw [shape] at accepts
    obtain ⟨before', s, after', part, here⟩ := Expr.exists_infix_of_accepts accepts
    rcases names before' s after' here with rfl | rfl
    · exact .inl part
    · exact .inr part
  · obtain ⟨⟨q, -, q', -, quoted⟩, -⟩ := embedded_of_mem_findAll found
    rw [quoted]
    exact .inl ⟨[q], [q'], rfl⟩

theorem mentions_of_mem_check {cleaned raw : List Char} {file d : String} {v : Violation}
    (mem : v ∈ check cleaned raw file d) : Mentions d.toList v.matched.toList := by
  obtain ⟨o, ho, mem⟩ := List.mem_flatMap.1 mem
  obtain ⟨m, hm, judged⟩ := List.mem_filterMap.1 mem
  have reported : v.matched = String.ofList m.text := by
    unfold Detector.judge at judged
    dsimp only at judged
    split at judged
    · cases judged
    · obtain rfl := Option.some.inj judged
      rfl
  rw [reported, String.toList_ofList]
  exact mentions_of_mem_findAll ho hm

end DependencyExclusion

/-- The rules cannot be built only if a guard expression of the profile is none. -/
theorem exists_guard_of_defaultRules_error {p : Profile} {e : ReadError} (h : defaultRules p = .error e) :
    ∃ source ∈ p.list .guardPatterns ++ p.list .fallbackGuardPatterns, Pattern.read source false = .error e := by
  have refused : SchemeGuard.rule? p = .error e := (eq_error_of_bind h).resolve_right fun ⟨_, _, made⟩ => nomatch made
  rcases eq_error_of_bind refused with first | ⟨_, -, rest⟩
  · obtain ⟨front, source, back, all, -, fails⟩ := exists_first_of_mapM_error first
    exact ⟨source, List.mem_append_left _ (all ▸ List.mem_append_right _ List.mem_cons_self), fails⟩
  · have second : SchemeGuard.readAll (p.list .fallbackGuardPatterns) = .error e :=
      (eq_error_of_bind rest).resolve_right fun ⟨_, _, made⟩ => nomatch made
    obtain ⟨front, source, back, all, -, fails⟩ := exists_first_of_mapM_error second
    exact ⟨source, List.mem_append_right _ (all ▸ List.mem_append_right _ List.mem_cons_self), fails⟩

/-- The names of a profile are taken literally. Each expression that has a name in it is what its written form around
the escaped name is read as. Only guard expressions can be refused. Without the export name in it, a script gets one
high violation. And what is reported of an excluded module has its name in it, or the name of its class. -/
structure TakesNamesLiterally (p : Profile) : Prop where
  exports : List.Forall₂ (ReadTo false)
    (GlobalExport.writtenForms (p.text .exportName).toList (p.list .exportRoots))
    (GlobalExport.forms (p.text .exportName).toList (p.list .exportRoots))
  identifiers : ∃ names : List Expr,
    DynamicEval.safe p = names ++ DynamicEval.otherSafe.1 ++ DynamicEval.quotedMentions ++ DynamicEval.otherSafe.2 ∧
      List.Forall₂ (ReadTo false)
        ((p.list .evalSafeIdentifiers ++ [p.text .exportName]).map fun name => "(?i)" ++ escaped name.toList) names
  detectors : ∀ d ∈ p.list .excludedDependencies, List.Forall₂ (ReadTo false)
    (DependencyExclusion.writtenDetectors (escaped d.toList) (escaped (DependencyExclusion.className d.toList)))
    ((DependencyExclusion.detectors d.toList).map (·.expr))
  phrases : ∀ d ∈ p.list .excludedDependencies, List.Forall₂ (ReadTo true)
    (DependencyExclusion.writtenPhrases (escaped d.toList)) (DependencyExclusion.safe d.toList)
  targets : ∀ t ∈ p.list .buildTargets,
    ReadTo false (String.join (BuildTarget.writtenTarget (escaped t.toList))) (BuildTarget.quotedTarget t.toList)
  token : ReadTo false (escaped (p.text .buildToken).toList) (.literal (p.text .buildToken).toList)
  refused : ∀ e, defaultRules p = .error e →
    ∃ source ∈ p.list .guardPatterns ++ p.list .fallbackGuardPatterns, Pattern.read source false = .error e
  unpublished : ∀ cleaned raw file, ¬ (p.text .exportName).toList <:+: cleaned →
    ∃ v, (GlobalExport.rule p).evaluate cleaned raw file = .ok [v] ∧ v.severity = .high
  verbatim : ∀ cleaned raw file, (DependencyExclusion.rule p).evaluate cleaned raw file =
      .ok ((p.list .excludedDependencies).flatMap (DependencyExclusion.check cleaned raw file)) ∧
    ∀ d ∈ p.list .excludedDependencies, ∀ v ∈ DependencyExclusion.check cleaned raw file d,
      DependencyExclusion.Mentions d.toList v.matched.toList

theorem takes_names_literally (p : Profile) : TakesNamesLiterally p where
  exports := GlobalExport.readTo_forms _ _
  identifiers := by
    refine ⟨_, rfl, ?_⟩
    rw [List.forall₂_map_left_iff, List.forall₂_map_right_iff]
    exact List.forall₂_same.2 fun name _ => DynamicEval.readTo_identifier name.toList
  detectors d _ := DependencyExclusion.readTo_detectors d.toList
  phrases d _ := DependencyExclusion.readTo_safe d.toList
  targets t _ := BuildTarget.readTo_quotedTarget t.toList
  token := BuildTarget.readTo_token _
  refused _ := exists_guard_of_defaultRules_error
  unpublished cleaned raw file absent := by
    have missed : ¬ GlobalExport.isPublished (p.text .exportName).toList (p.list .exportRoots) cleaned = true :=
      fun published => absent (GlobalExport.infix_of_isPublished published)
    exact ⟨GlobalExport.missing (p.text .exportName) file, if_neg missed, rfl⟩
  verbatim _ _ _ := ⟨rfl, fun _ _ _ => DependencyExclusion.mentions_of_mem_check⟩

end BundleAudit

import BundleAudit.Proofs.Regex.Occurrence
import BundleAudit.Proofs.Source.Origin
import BundleAudit.Rule.BuildTarget
import BundleAudit.Rule.DependencyExclusion
import BundleAudit.Rule.DynamicEval

/-!
# The lines of findings

A rule finds its matches in the cleaned script, so the line that it gives is counted up to an offset of the
cleaned script. The detectors count that many characters of the script itself, and the check of build targets
counts the lines of the cleaned script. Neither is the line on which the match stands in the script once
comments were removed before it (`lines_of_findings`): the first count stops too early by as many characters,
and the second one lacks the line ends in block comments.
-/

namespace BundleAudit

open BundleAudit.Regex BundleAudit.Source

/-- The number of line ends from an offset to a place. -/
def lineEndsBetween (text : List Char) (offset place : Nat) : Nat := ((text.take place).drop offset).count '\n'

/-- The violation was found by one of the expressions at an offset of the cleaned script, and its line was
counted in a text up to that offset. So it lacks some lines of the one that the match stands on in the script. -/
structure Violation.CountsLines (v : Violation) (exprs : List Expr) (raw counted : List Char)
    (lacking : Nat → Nat → Nat) (offset : Nat) : Prop where
  found : ∃ e ∈ exprs, ∃ m ∈ e.findAll (strip raw), m.start = offset ∧ v.matched = String.ofList m.text
  line : v.line = some (lineAt counted offset : Int)
  placed : v.matched ≠ "" → ∃ place, ComesFrom raw offset place
  lacks : ∀ place, ComesFrom raw offset place → lineAt raw place = lineAt counted offset + lacking offset place

/-- A match that is not empty starts at some place of the script. -/
theorem exists_place_of_match {raw : List Char} {e : Expr} {m : Match} (found : m ∈ e.findAll (strip raw))
    (nonempty : String.ofList m.text ≠ "") : ∃ place, ComesFrom raw m.start place := by
  have stands := (Expr.isPrefix_drop_of_mem_findAll found).length_le
  have pos : 0 < m.text.length := by
    rw [List.length_pos_iff]
    exact fun none => nonempty (by rw [none])
  rw [List.length_drop] at stands
  exact exists_comesFrom (by omega)

theorem countsLines_of_mem_detect {raw : List Char} {rule file : String} {detectors : List Detector}
    {safe : List Expr} {v : Violation} (mem : v ∈ detect (strip raw) raw rule file detectors safe) :
    ∃ offset, v.CountsLines (detectors.map (·.expr)) raw raw (lineEndsBetween raw) offset := by
  obtain ⟨d, hd, found⟩ := List.mem_flatMap.1 mem
  obtain ⟨m, hm, judged⟩ := List.mem_filterMap.1 found
  simp only [Detector.judge] at judged
  split at judged
  · cases judged
  obtain rfl := Option.some.inj judged
  refine ⟨m.start, ⟨d.expr, List.mem_map_of_mem hd, m, hm, rfl, rfl⟩, ?_, exists_place_of_match hm,
    fun place from_ => from_.lineAt_offset⟩
  show some ((locate raw m.start).lineNumber : Int) = _
  rw [lineNumber_locate]

theorem BuildTarget.countsLines_of_mem_check {raw : List Char} {token file : String} {targets : List String}
    {v : Violation} (mem : v ∈ check token targets (strip raw) file) (lined : v.line ≠ none) :
    ∃ offset, v.CountsLines [.literal token.toList] raw (strip raw) (fun _ => blanksBefore raw) offset := by
  unfold check at mem
  split at mem
  · obtain rfl := List.mem_singleton.1 mem
    exact absurd rfl lined
  split at mem
  · cases mem
  · next first rest found =>
    obtain rfl := List.mem_singleton.1 mem
    have hm : first ∈ (Expr.literal token.toList).findAll (strip raw) := by
      show first ∈ leftovers token (strip raw)
      rw [found]
      exact List.mem_cons_self
    exact ⟨first.start, ⟨_, List.mem_cons_self, first, hm, rfl, rfl⟩, rfl, exists_place_of_match hm,
      fun place from_ => from_.lineAt_strip⟩

/-- The expressions that look for excluded modules. -/
def DependencyExclusion.searched (p : Profile) : List Expr :=
  (p.list .excludedDependencies).flatMap fun dependency => (detectors dependency.toList).map (·.expr)

/-- What the lines of findings are: those of the two rules that look for suspicious text lack the line ends
from the offset in the cleaned script to the place in the script, and that of a token that was left lacks the
line ends in block comments before the place. Only where there are none is the line the one in the file. -/
theorem lines_of_findings (p : Profile) (raw : List Char) (file : String) :
    (∃ vs, (DynamicEval.rule p).evaluate (strip raw) raw file = .ok vs ∧ ∀ v ∈ vs, ∃ offset,
      v.CountsLines (DynamicEval.detectors.map (·.expr)) raw raw (lineEndsBetween raw) offset) ∧
    (∃ vs, (DependencyExclusion.rule p).evaluate (strip raw) raw file = .ok vs ∧ ∀ v ∈ vs, ∃ offset,
      v.CountsLines (DependencyExclusion.searched p) raw raw (lineEndsBetween raw) offset) ∧
    ∃ vs, (BuildTarget.rule p).evaluate (strip raw) raw file = .ok vs ∧ ∀ v ∈ vs, v.line ≠ none → ∃ offset,
      v.CountsLines [.literal (p.text .buildToken).toList] raw (strip raw) (fun _ => blanksBefore raw) offset := by
  refine ⟨⟨_, rfl, fun v mem => countsLines_of_mem_detect mem⟩, ⟨_, rfl, fun v mem => ?_⟩,
    ⟨_, rfl, fun v mem => BuildTarget.countsLines_of_mem_check mem⟩⟩
  obtain ⟨dependency, listed, found⟩ := List.mem_flatMap.1 mem
  obtain ⟨offset, ⟨e, he, match_⟩, line, placed, lacks⟩ := countsLines_of_mem_detect found
  exact ⟨offset, ⟨e, List.mem_flatMap.2 ⟨dependency, listed, he⟩, match_⟩, line, placed, lacks⟩

def terseProfile : Profile :=
  ((({} : Profile).setList .excludedDependencies ["b"]).setList .buildTargets ["a"]).setText .buildToken "T"

/-- A script with a comment of two lines before a call, a module and a token. -/
def bannered : List Char := "/*\n*/eval(new B(\"a\",T".toList

/-- On one line of a script, the three rules count two different lines. -/
theorem lines_of_findings_of_bannered :
    (∃ v offset, (DynamicEval.rule terseProfile).evaluate (strip bannered) bannered "a.js" = .ok [v] ∧
      v.line = some 1 ∧
      v.CountsLines (DynamicEval.detectors.map (·.expr)) bannered bannered (lineEndsBetween bannered) offset) ∧
    (∃ v offset, (DependencyExclusion.rule terseProfile).evaluate (strip bannered) bannered "a.js" = .ok [v] ∧
      v.line = some 2 ∧
      v.CountsLines (DependencyExclusion.searched terseProfile) bannered bannered (lineEndsBetween bannered)
        offset) ∧
    ∃ v offset, (BuildTarget.rule terseProfile).evaluate (strip bannered) bannered "a.js" = .ok [v] ∧
      v.line = some 1 ∧
      v.CountsLines [.literal ['T']] bannered (strip bannered) (fun _ => blanksBefore bannered) offset := by
  have single {rule : Rule} {vs : List Violation} {n : Int}
      (result : rule.evaluate (strip bannered) bannered "a.js" = .ok vs)
      (lines : (rule.evaluate (strip bannered) bannered "a.js").toOption.map (·.map (·.line)) =
        some [some n]) : ∃ v, vs = [v] ∧ v.line = some n := by
    rw [result] at lines
    exact List.map_eq_singleton_iff.1 (Option.some.inj lines)
  obtain ⟨⟨calls, called, call⟩, ⟨modules, used, module_⟩, tokens, left, token⟩ :=
    lines_of_findings terseProfile bannered "a.js"
  obtain ⟨v, rfl, first⟩ := single (n := 1) called (by decide +kernel)
  obtain ⟨w, rfl, second⟩ := single (n := 2) used (by decide +kernel)
  obtain ⟨u, rfl, first'⟩ := single (n := 1) left (by decide +kernel)
  obtain ⟨offset, counts⟩ := call v List.mem_cons_self
  obtain ⟨offset', counts'⟩ := module_ w List.mem_cons_self
  obtain ⟨offset'', counts''⟩ := token u List.mem_cons_self (by simp [first'])
  exact ⟨⟨v, offset, called, first, counts⟩, ⟨w, offset', used, second, counts'⟩, u, offset'', left, first',
    counts''⟩

/-- A script with a comment on its first line and a call on its second line. -/
def commentedCall : List Char := "// a\neval(x)".toList

/-- The call stands on the second line, and the violation gives the first one. -/
theorem line_of_commentedCall :
    ∃ v, (DynamicEval.rule {}).evaluate (strip commentedCall) commentedCall "a.js" = .ok [v] ∧
      v.matched = "eval(" ∧ v.line = some 1 ∧ (strip commentedCall).drop 1 = "eval(x)".toList ∧
      ComesFrom commentedCall 1 5 ∧ lineAt commentedCall 5 = 2 := by
  refine ⟨⟨DynamicEval.ruleName, .high, "Direct eval() call: 'eval('", "a.js", some 1, "eval(", "// a eval(x)"⟩,
    ?_, rfl, rfl, by decide, ⟨⟨('e', .kept), by decide, rfl⟩, by decide⟩, by decide⟩
  decide +kernel

end BundleAudit

import BundleAudit.Attempts
import BundleAudit.Proofs.Console.Markup
import BundleAudit.Proofs.Report.Accounting
import BundleAudit.Report.Text

/-!
# Reports that can be shown

Of all that a console report shows, only the names of rules are marked up texts. A report in which no
name has a bracket can be shown.
-/

namespace BundleAudit.Report

open BundleAudit.Console

variable (renderer : Renderer)

theorem rulesTable_isOk {counts : List RuleCount} (plain : ∀ c ∈ counts, '[' ∉ c.rule.toList) :
    ∃ table, rulesTable renderer counts = .ok table := by
  unfold rulesTable
  refine bind_isOk (mapM_isOk fun c mem => ?_) fun rows => ⟨_, rfl⟩
  exact bind_isOk (renderer.render_isOk_of_notMem (plain c mem)) fun name => ⟨_, rfl⟩

theorem violationsTable_isOk {rule : String} (plain : '[' ∉ rule.toList) (vs : List Violation) :
    ∃ table, violationsTable renderer rule vs = .ok table := by
  have title : '[' ∉ s!"Violations: {rule}".toList := by
    rw [String.toList_append, List.mem_append]
    exact fun h => h.elim (by decide) plain
  unfold violationsTable
  exact bind_isOk (renderer.render_isOk_of_notMem title) fun title => ⟨_, rfl⟩

theorem blocks_isOk {r : Report} (outcomes : ∀ o ∈ r.outcomes, '[' ∉ o.rule.toList)
    (violations : ∀ v ∈ r.violations, '[' ∉ v.rule.toList) (strict : Bool) :
    ∃ blocks, r.blocks renderer strict = .ok blocks := by
  have counted : ∀ c ∈ r.ruleCounts, '[' ∉ c.rule.toList := by
    intro c mem
    obtain ⟨name, named, rfl⟩ := List.mem_map.1 (r.ruleCounts_eq ▸ mem)
    obtain ⟨o, ho, rfl⟩ := List.mem_map.1 (mem_sortedNames.1 named)
    exact outcomes o ho
  have found : ∀ rule ∈ sortedNames (r.sortedViolations.map (·.rule)), '[' ∉ rule.toList := by
    intro rule mem
    obtain ⟨v, hv, rfl⟩ := List.mem_map.1 (mem_sortedNames.1 mem)
    exact violations v (List.mem_mergeSort.1 hv)
  have tables : ∃ blocks, (sortedNames (r.sortedViolations.map (·.rule))).mapM (fun rule =>
      Block.table <$> violationsTable renderer rule (r.sortedViolations.filter (·.rule == rule))) = .ok blocks := by
    refine mapM_isOk fun rule mem => ?_
    obtain ⟨table, eq⟩ := violationsTable_isOk renderer (found rule mem) (r.sortedViolations.filter (·.rule == rule))
    exact ⟨.table table, by rw [eq]; rfl⟩
  unfold Report.blocks
  dsimp only
  by_cases none : r.ruleCounts.isEmpty
  · rw [if_pos none]
    exact bind_isOk ⟨_, rfl⟩ fun rules => bind_isOk tables fun found => ⟨_, rfl⟩
  · rw [if_neg none]
    exact bind_isOk (rulesTable_isOk renderer counted) fun table =>
      bind_isOk ⟨_, rfl⟩ fun rules => bind_isOk tables fun found => ⟨_, rfl⟩

end BundleAudit.Report

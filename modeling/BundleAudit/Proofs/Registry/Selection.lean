import BundleAudit.Proofs.Registry.Outcomes
import BundleAudit.Proofs.Registry.Registration

/-!
# Selected rules

A run with some of the rules is a part of the run with all of them. What it gives for a file, and each
report that it can end with, is what is left if the outcomes of the other rules are taken away
(`FileRun.keeping`, `Report.keeping`). The schedules of the two runs match step by step
(`Run.ends_keeping_iff`).

Rules of severities that do not block can only block a run by a crash.
-/

namespace BundleAudit

/-! ## Taking outcomes away -/

/-- What is left of the outcomes of a file if only the rules of some names count. -/
def FileRun.keeping (keep : String → Bool) (f : FileRun) : FileRun :=
  { f with evaluations := f.evaluations.filter (keep ·.rule.name) }

/-- The report on those outcomes that are of rules of some names. It counts them alone. -/
def Report.keeping (keep : String → Bool) (r : Report) : Report :=
  { ofOutcomes (r.outcomes.filter (keep ·.rule)) r.faults r.filesScanned with
    elapsed := r.elapsed
    parallel := r.parallel
    workers := r.workers
    timestamp := r.timestamp }

def Pool.keeping (keep : String → Bool) (p : Pool) : Pool where
  waiting := p.waiting.map (·.keeping keep)
  working := p.working.map (·.keeping keep)
  evaluated := p.evaluated.map (·.filter (keep ·.rule))
  report := p.report.keeping keep

def Run.keeping (keep : String → Bool) (r : Run) : Run :=
  { r with files := r.files.map (·.keeping keep) }

section
variable (keep : String → Bool)

theorem FileRun.outcomes_keeping (f : FileRun) :
    (f.keeping keep).outcomes = f.outcomes.filter (keep ·.rule) := by
  rw [outcomes, outcomes, List.filter_map]
  rfl

theorem Report.keeping_commit (r : Report) (outcomes : List Outcome) :
    (r.commit outcomes).keeping keep = (r.keeping keep).commit (outcomes.filter (keep ·.rule)) := by
  simp only [commit, foldl_record, keeping, ofOutcomes, List.filter_append, List.flatMap_append,
    List.countP_append]

theorem map_untimed_filter (outcomes : List Outcome) :
    (outcomes.filter (keep ·.rule)).map Outcome.untimed =
      (outcomes.map Outcome.untimed).filter (keep ·.rule) := by
  rw [List.filter_map]
  rfl

variable {keep}

/-- Times for the outcomes that are kept can be completed by times for the others. -/
theorem exists_timed_of_filter : ∀ {outcomes kept : List Outcome},
    kept.map Outcome.untimed = (outcomes.filter (keep ·.rule)).map Outcome.untimed →
      ∃ timed : List Outcome, timed.map Outcome.untimed = outcomes.map Outcome.untimed ∧
        timed.filter (keep ·.rule) = kept
  | [], kept, h => by
    obtain rfl : kept = [] := by simpa using h
    exact ⟨[], rfl, rfl⟩
  | o :: outcomes, kept, h => by
    cases taken : keep o.rule with
    | false =>
      rw [List.filter_cons, if_neg (by simp [taken])] at h
      obtain ⟨timed, same, left⟩ := exists_timed_of_filter h
      exact ⟨o :: timed, by simp [same], by simp [taken, left]⟩
    | true =>
      rw [List.filter_cons, if_pos taken, List.map_cons] at h
      obtain ⟨p, rest, rfl, untimed, tail⟩ := List.map_eq_cons_iff.1 h
      obtain ⟨timed, same, left⟩ := exists_timed_of_filter tail
      have named : p.rule = o.rule := show p.untimed.rule = o.untimed.rule by rw [untimed]
      exact ⟨p :: timed, by simp [same, untimed], by simp [named, taken, left]⟩

/-! ## Matching schedules -/

namespace Pool

variable {workers : Nat}

theorem Step.keeping {p q : Pool} (step : Step workers p q) :
    Step workers (p.keeping keep) (q.keeping keep) := by
  cases step with
  | take free => exact .take (by simpa using free)
  | @evaluate f waiting after evaluated report before outcomes same =>
    have same' : (outcomes.filter (keep ·.rule)).map Outcome.untimed =
        (f.keeping keep).outcomes.map Outcome.untimed := by
      rw [f.outcomes_keeping, map_untimed_filter, map_untimed_filter, same]
    simpa [Pool.keeping] using Step.evaluate (before.map (·.keeping keep)) _ same'
  | @commit waiting working outcomes after report before =>
    simpa [Pool.keeping, Report.keeping_commit] using
      @Step.commit workers _ _ _ _ _ (before.map (·.filter (keep ·.rule)))

theorem exists_step_of_keeping {p q : Pool} (step : Step workers (p.keeping keep) q) :
    ∃ p', Step workers p p' ∧ q = p'.keeping keep := by
  obtain ⟨waiting, working, evaluated, report⟩ := p
  generalize taken : Pool.keeping keep ⟨waiting, working, evaluated, report⟩ = s at step
  cases step with
  | @take f waiting' working' evaluated' report' free =>
    obtain ⟨waits, rfl, rfl, rfl⟩ : waiting.map (·.keeping keep) = f :: waiting' ∧
        working.map (·.keeping keep) = working' ∧
          evaluated.map (·.filter (keep ·.rule)) = evaluated' ∧ report.keeping keep = report' := by
      simpa [Pool.keeping] using taken
    obtain ⟨g, rest, rfl, rfl, rfl⟩ := List.map_eq_cons_iff.1 waits
    exact ⟨⟨rest, g :: working, evaluated, report⟩, .take (by simpa using free), rfl⟩
  | @evaluate f waiting' after evaluated' report' before outcomes same =>
    obtain ⟨rfl, works, rfl, rfl⟩ : waiting.map (·.keeping keep) = waiting' ∧
        working.map (·.keeping keep) = before ++ f :: after ∧
          evaluated.map (·.filter (keep ·.rule)) = evaluated' ∧ report.keeping keep = report' := by
      simpa [Pool.keeping] using taken
    obtain ⟨front, back, rfl, rfl, here⟩ := List.map_eq_append_iff.1 works
    obtain ⟨g, rest, rfl, rfl, rfl⟩ := List.map_eq_cons_iff.1 here
    rw [g.outcomes_keeping] at same
    obtain ⟨timed, same', rfl⟩ := exists_timed_of_filter same
    exact ⟨⟨waiting, front ++ rest, timed :: evaluated, report⟩, .evaluate front timed same',
      by simp [Pool.keeping]⟩
  | @commit waiting' working' outcomes after report' before =>
    obtain ⟨rfl, rfl, done, rfl⟩ : waiting.map (·.keeping keep) = waiting' ∧
        working.map (·.keeping keep) = working' ∧
          evaluated.map (·.filter (keep ·.rule)) = before ++ outcomes :: after ∧
            report.keeping keep = report' := by
      simpa [Pool.keeping] using taken
    obtain ⟨front, back, rfl, rfl, here⟩ := List.map_eq_append_iff.1 done
    obtain ⟨os, rest, rfl, rfl, rfl⟩ := List.map_eq_cons_iff.1 here
    exact ⟨⟨waiting, working, front ++ rest, report.commit os⟩, .commit front,
      by simp [Pool.keeping, Report.keeping_commit]⟩

theorem exists_steps_of_keeping {p q : Pool}
    (steps : Relation.ReflTransGen (Step workers) (p.keeping keep) q) :
    ∃ p', Relation.ReflTransGen (Step workers) p p' ∧ q = p'.keeping keep := by
  induction steps with
  | refl => exact ⟨p, .refl, rfl⟩
  | tail _ step ih =>
    obtain ⟨p', steps, rfl⟩ := ih
    obtain ⟨q', step', rfl⟩ := exists_step_of_keeping step
    exact ⟨q', steps.tail step', rfl⟩

/-- A schedule has come to an end exactly if it has without the outcomes that are taken away. -/
theorem stuck_keeping_iff {p : Pool} :
    (∀ q, ¬ Step workers (p.keeping keep) q) ↔ ∀ q, ¬ Step workers p q := by
  constructor
  · exact fun stuck q step => stuck _ step.keeping
  · intro stuck q step
    obtain ⟨p', step', -⟩ := exists_step_of_keeping step
    exact stuck p' step'

end Pool

namespace Run

/-- The reports with which a run of some rules can end are those of all rules without the outcomes of the
others. -/
theorem ends_keeping_iff {r : Run} {report : Report} :
    (r.keeping keep).Ends report ↔ ∃ whole, r.Ends whole ∧ report = whole.keeping keep := by
  constructor
  · rintro ⟨q, elapsed, timestamp, steps, stuck, rfl⟩
    have start : Pool.mk (r.keeping keep).files [] [] (r.keeping keep).opening =
        Pool.keeping keep ⟨r.files, [], [], r.opening⟩ := rfl
    rw [start] at steps
    obtain ⟨p, steps', rfl⟩ := Pool.exists_steps_of_keeping steps
    exact ⟨_, ⟨p, elapsed, timestamp, steps', Pool.stuck_keeping_iff.1 stuck, rfl⟩, rfl⟩
  · rintro ⟨whole, ⟨p, elapsed, timestamp, steps, stuck, rfl⟩, rfl⟩
    exact ⟨p.keeping keep, elapsed, timestamp, steps.lift _ fun _ _ step => step.keeping,
      Pool.stuck_keeping_iff.2 stuck, rfl⟩

end Run

end

end BundleAudit

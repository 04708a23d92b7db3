import BundleAudit.Proofs.Report.Recording
import BundleAudit.Registry
import Mathlib.Logic.Relation

/-!
# Schedules

The files of a run wait in a queue for a number of workers (`Pool`). A worker takes the first file that
waits, evaluates the rules on it, and then commits the outcomes to the report in one step, for which it
holds the lock. In which order files are evaluated and committed is open, and so is the time that an
evaluation takes. With one worker the files are committed in the order of the queue.

`Run.Ends` says with which reports a run can end. Each holds the outcomes of all files, each once, in some
order (`Run.Ends.report_eq`).
-/

namespace BundleAudit

/-- A run under way: the files that wait, those that a worker evaluates, the outcomes of those that wait
for the lock, and the report. -/
structure Pool where
  waiting : List FileRun
  working : List FileRun
  evaluated : List (List Outcome)
  report : Report

namespace Pool

inductive Step (workers : Nat) : Pool → Pool → Prop
  | take {f : FileRun} {waiting working : List FileRun} {evaluated : List (List Outcome)} {report : Report}
      (free : working.length + evaluated.length < workers) :
    Step workers ⟨f :: waiting, working, evaluated, report⟩ ⟨waiting, f :: working, evaluated, report⟩
  | evaluate {f : FileRun} {waiting after : List FileRun} {evaluated : List (List Outcome)}
      {report : Report} (before : List FileRun) (outcomes : List Outcome)
      (same : outcomes.map Outcome.untimed = f.outcomes.map Outcome.untimed) :
    Step workers ⟨waiting, before ++ f :: after, evaluated, report⟩
      ⟨waiting, before ++ after, outcomes :: evaluated, report⟩
  | commit {waiting working : List FileRun} {outcomes : List Outcome} {after : List (List Outcome)}
      {report : Report} (before : List (List Outcome)) :
    Step workers ⟨waiting, working, before ++ outcomes :: after, report⟩
      ⟨waiting, working, before ++ after, report.commit outcomes⟩

/-! ## Nothing is lost and nothing is doubled -/

/-- The outcomes of the files that are not committed yet, file by file. -/
def pending (p : Pool) : List (List Outcome) :=
  p.evaluated.map (·.map Outcome.untimed) ++
    (p.working ++ p.waiting).map fun f => f.outcomes.map Outcome.untimed

/-- What was committed to the opening report and what is pending are the outcomes of the files. -/
def Accounts (files : List FileRun) (opening : Report) (p : Pool) : Prop :=
  ∃ committed : List (List Outcome),
    p.report = committed.foldl Report.commit opening ∧
      (committed.map (·.map Outcome.untimed) ++ p.pending).Perm
        (files.map fun f => f.outcomes.map Outcome.untimed)

theorem Step.accounts {workers : Nat} {files : List FileRun} {opening : Report} {p q : Pool}
    (step : Step workers p q) (h : Accounts files opening p) : Accounts files opening q := by
  obtain ⟨committed, report_eq, perm⟩ := h
  cases step with
  | take =>
    refine ⟨committed, report_eq, .trans (.append_left _ ?_) perm⟩
    refine .append_left _ (.map _ ?_)
    exact List.perm_middle.symm
  | @evaluate f waiting after evaluated report before outcomes same =>
    refine ⟨committed, report_eq, .trans (.append_left _ ?_) perm⟩
    have moved : (evaluated.map (·.map Outcome.untimed) ++
        before.map (fun f => f.outcomes.map Outcome.untimed) ++ f.outcomes.map Outcome.untimed ::
          (after ++ waiting).map (fun f => f.outcomes.map Outcome.untimed)).Perm _ := List.perm_middle
    simpa [pending, same] using moved.symm
  | @commit waiting working outcomes after report before =>
    refine ⟨committed ++ [outcomes], ?_, .trans ?_ perm⟩
    · rw [List.foldl_append, ← report_eq]; rfl
    · simp only [pending, List.map_append, List.map_cons, List.map_nil, List.append_assoc,
        List.cons_append, List.nil_append]
      refine .append_left _ ?_
      exact List.perm_middle.symm

theorem accounts_of_steps {workers : Nat} {files : List FileRun} {opening : Report} {p : Pool}
    (steps : Relation.ReflTransGen (Step workers) ⟨files, [], [], opening⟩ p) :
    Accounts files opening p := by
  induction steps with
  | refl => exact ⟨[], rfl, by simp [pending]⟩
  | tail _ step ih => exact step.accounts ih

/-! ## Every schedule ends, and only when all files are committed -/

/-- The number of steps that are left. -/
def work (p : Pool) : Nat := 3 * p.waiting.length + 2 * p.working.length + p.evaluated.length

theorem Step.work_lt {workers : Nat} {p q : Pool} (step : Step workers p q) : q.work < p.work := by
  cases step <;> simp [work] <;> omega

theorem wellFounded_step (workers : Nat) : WellFounded fun q p => Step workers p q :=
  Subrelation.wf (fun step => step.work_lt) (measure work).wf

theorem eq_of_stuck {workers : Nat} (pos : 0 < workers) {p : Pool} (stuck : ∀ q, ¬ Step workers p q) :
    p = ⟨[], [], [], p.report⟩ := by
  obtain ⟨waiting, working, evaluated, report⟩ := p
  cases evaluated with
  | cons outcomes evaluated => exact absurd (.commit []) (stuck _)
  | nil =>
    cases working with
    | cons f working => exact absurd (.evaluate [] f.outcomes rfl) (stuck _)
    | nil =>
      cases waiting with
      | cons f waiting => exact absurd (.take (by simpa using pos)) (stuck _)
      | nil => rfl

theorem stuck_of_done {workers : Nat} (report : Report) (q : Pool) :
    ¬ Step workers ⟨[], [], [], report⟩ q :=
  fun step => absurd step.work_lt (Nat.not_lt_zero _)

/-- The files can be committed in the order of the queue. -/
theorem steps_in_order {workers : Nat} (pos : 0 < workers) : ∀ (files : List FileRun) (report : Report),
    Relation.ReflTransGen (Step workers) ⟨files, [], [], report⟩
      ⟨[], [], [], files.foldl (fun report f => report.commit f.outcomes) report⟩
  | [], _ => .refl
  | f :: files, report =>
    .head (.take (by simpa using pos)) <| .head (.evaluate [] f.outcomes rfl) <|
      .head (.commit []) (steps_in_order pos files (report.commit f.outcomes))

end Pool

/-! ## Runs -/

namespace Run

/-- How many files are worked on at the same time. -/
def capacity (r : Run) : Nat := if r.concurrent then r.workers else 1

/-- The report at the start of a run. -/
def opening (r : Run) : Report := { parallel := r.concurrent, workers := r.capacity }

/-- The reports with which a run can end: some schedule has come to an end, and the faults of reading and
the times are added. -/
def Ends (r : Run) (report : Report) : Prop :=
  ∃ (p : Pool) (elapsed timestamp : Float),
    Relation.ReflTransGen (Pool.Step r.capacity) ⟨r.files, [], [], r.opening⟩ p ∧
      (∀ q, ¬ Pool.Step r.capacity p q) ∧
      report = { p.report with
        faults := p.report.faults ++ r.faults, elapsed := elapsed, timestamp := timestamp }

theorem foldl_commit_opening (r : Run) (committed : List (List Outcome)) :
    committed.foldl Report.commit r.opening =
      { Report.ofOutcomes committed.flatten [] committed.length with
        parallel := r.concurrent
        workers := r.capacity } := by
  rw [Report.foldl_commit, Report.foldl_record]
  simp only [opening, Report.ofOutcomes, Nat.zero_add, List.nil_append]

/-- Whatever the schedule, the report holds the outcomes of all files, each once, in some order. -/
theorem Ends.report_eq {r : Run} {report : Report} (ends : r.Ends report) (pos : 0 < r.capacity) :
    ∃ outcomes : List Outcome,
      (outcomes.map Outcome.untimed).Perm ((r.files.flatMap (·.outcomes)).map Outcome.untimed) ∧
        report =
          { Report.ofOutcomes outcomes r.faults r.files.length with
            elapsed := report.elapsed
            parallel := r.concurrent
            workers := r.capacity
            timestamp := report.timestamp } := by
  obtain ⟨p, elapsed, timestamp, steps, stuck, rfl⟩ := ends
  obtain ⟨committed, report_eq, perm⟩ := Pool.accounts_of_steps steps
  have nothing : p.pending = [] := by rw [Pool.eq_of_stuck pos stuck]; rfl
  rw [nothing, List.append_nil] at perm
  refine ⟨committed.flatten, ?_, ?_⟩
  · rw [List.map_flatten, List.flatMap_def, List.map_flatten, List.map_map]
    exact perm.flatten
  · have scanned : committed.length = r.files.length := by simpa using perm.length_eq
    rw [report_eq, foldl_commit_opening, scanned]
    rfl

theorem foldl_commit_files (r : Run) (files : List FileRun) :
    files.foldl (fun report f => report.commit f.outcomes) r.opening =
      { Report.ofOutcomes (files.flatMap (·.outcomes)) [] files.length with
        parallel := r.concurrent
        workers := r.capacity } := by
  have committed := r.foldl_commit_opening (files.map (·.outcomes))
  rwa [List.foldl_map, List.length_map, ← List.flatMap_def] at committed

theorem reportOf_eq (r : Run) (order : List FileRun) :
    r.reportOf order =
      { Report.ofOutcomes (order.flatMap (·.outcomes)) r.faults order.length with
        parallel := r.concurrent
        workers := r.capacity } := by
  show { order.foldl (fun report f => report.commit f.outcomes) r.opening with faults := r.faults } = _
  rw [foldl_commit_files]
  rfl

/-- The report of the files in order is one of those. -/
theorem ends_report {r : Run} (pos : 0 < r.capacity) : r.Ends r.report := by
  refine ⟨_, 0.0, 0.0, Pool.steps_in_order pos r.files r.opening, Pool.stuck_of_done _, ?_⟩
  rw [report, reportOf_eq, foldl_commit_files]
  rfl

end Run

end BundleAudit

import BundleAudit.CommandLine.Program
import BundleAudit.Proofs.Console.Markup

/-!
# Runs of parts of the program

What a part of the program does is told by the result that it ends with and by the text that it adds to
the standard output (`Program.Runs`). What it writes to the console is left open.
-/

namespace BundleAudit.CommandLine

open BundleAudit.Console

/-- The exit code of a run that is stopped. -/
def Stop.exitCode : Stop → Nat
  | .exit code => code
  | .failure _ => 1

namespace Program

variable {α β : Type}

/-- Whatever has been written before, the part ends with the result and adds the text to the standard
output. -/
def Runs (x : Program α) (result : Except Stop α) (text : String) : Prop :=
  ∀ o : Output, ∃ errors, StateT.run (ExceptT.run x) o = (result, ⟨o.stdout ++ text, errors⟩)

/-! ## Composition -/

theorem runs_pure (a : α) : Runs (pure a) (.ok a) "" :=
  fun o => ⟨o.stderr, by rw [String.append_empty]; rfl⟩

theorem Runs.bind {x : Program α} {f : α → Program β} {a : α} {result : Except Stop β} {s t : String}
    (first : Runs x (.ok a) s) (next : Runs (f a) result t) : Runs (x >>= f) result (s ++ t) := by
  intro o
  obtain ⟨errors, eq⟩ := first o
  obtain ⟨errors', eq'⟩ := next ⟨o.stdout ++ s, errors⟩
  refine ⟨errors', ?_⟩
  rw [ExceptT.run_bind, StateT.run_bind, eq, ← String.append_assoc]
  exact eq'

/-- A part that writes nothing to the standard output, and what follows it. -/
theorem Runs.then {x : Program α} {f : α → Program β} {a : α} {result : Except Stop β} {t : String}
    (first : Runs x (.ok a) "") (next : Runs (f a) result t) : Runs (x >>= f) result t := by
  simpa using first.bind next

/-- A part, and what follows it if that writes nothing to the standard output. -/
theorem Runs.quiet {x : Program α} {f : α → Program β} {a : α} {result : Except Stop β} {s : String}
    (first : Runs x (.ok a) s) (next : Runs (f a) result "") : Runs (x >>= f) result s := by
  simpa using first.bind next

theorem Runs.stop {x : Program α} {f : α → Program β} {e : Stop} {s : String}
    (first : Runs x (.error e) s) : Runs (x >>= f) (.error e) s := by
  intro o
  obtain ⟨errors, eq⟩ := first o
  refine ⟨errors, ?_⟩
  rw [ExceptT.run_bind, StateT.run_bind, eq]
  rfl

theorem runs_forM {f : α → Program Unit} : ∀ {xs : List α}, (∀ x ∈ xs, Runs (f x) (.ok ()) "") →
    Runs (xs.forM f) (.ok ()) ""
  | [], _ => runs_pure ()
  | x :: xs, each => by
    show Runs (f x >>= fun _ => xs.forM f) _ _
    exact (each x (by simp)).then (runs_forM fun y mem => each y (List.mem_cons_of_mem _ mem))

theorem forM_eq_pure {f : α → Program Unit} : ∀ {xs : List α}, (∀ x ∈ xs, f x = pure ()) →
    xs.forM f = pure ()
  | [], _ => rfl
  | x :: xs, each => by
    show (f x >>= fun _ => xs.forM f) = _
    rw [each x List.mem_cons_self, pure_bind]
    exact forM_eq_pure fun y mem => each y (List.mem_cons_of_mem _ mem)

theorem mapM_eq_pure {f : α → Program β} : ∀ {xs : List α}, (∀ x ∈ xs, ∃ y, f x = pure y) →
    ∃ ys, xs.mapM f = pure ys
  | [], _ => ⟨[], rfl⟩
  | x :: xs, each => by
    obtain ⟨y, first⟩ := each x List.mem_cons_self
    obtain ⟨ys, rest⟩ := mapM_eq_pure fun z mem => each z (List.mem_cons_of_mem _ mem)
    exact ⟨y :: ys, by rw [List.mapM_cons, first, pure_bind, rest, pure_bind]⟩

/-! ## Writing and stopping -/

theorem runs_stop (e : Stop) : Runs (Program.stop e : Program α) (.error e) "" :=
  fun o => ⟨o.stderr, by rw [String.append_empty]; rfl⟩

theorem runs_writeOut (s : String) : Runs (writeOut s) (.ok ()) s := fun o => ⟨o.stderr, rfl⟩

theorem runs_writeError (s : String) : Runs (writeError s) (.ok ()) "" :=
  fun o => ⟨o.stderr ++ s, by rw [String.append_empty]; rfl⟩

theorem runs_print (blocks : List Report.Block) : Runs (print blocks) (.ok ()) "" := runs_writeError _

theorem runs_orFail {ε : Type} {failure : ε → Failure} {x : Except ε α} {a : α} (ok : x = .ok a) :
    Runs (orFail failure x) (.ok a) "" := by
  subst ok
  exact runs_pure a

theorem runs_orFail_error {ε : Type} {failure : ε → Failure} {x : Except ε α} {e : ε} (failed : x = .error e) :
    Runs (orFail failure x) (.error (.failure (failure e))) "" := by
  subst failed
  exact runs_stop _

theorem runs_log (view : LogView) (entries : List LogEntry) : Runs (log view entries) (.ok ()) "" := by
  refine runs_forM fun e _ => ?_
  split
  · exact runs_writeError _
  · exact runs_pure ()

/-! ## The whole run -/

section
variable {around : Surroundings} {words : List String}

/-- A run ends as the call of its command does. -/
theorem run_of_runs {result : Except Stop Unit} {text : String}
    (h : Runs (runGroup around words) result text) :
    (run around words).exitCode = (match result with | .ok _ => 0 | .error stop => stop.exitCode) ∧
      (run around words).output.stdout = text := by
  obtain ⟨errors, eq⟩ := h {}
  unfold run
  rw [eq]
  cases result with
  | ok u => exact ⟨rfl, String.empty_append⟩
  | error stop => cases stop <;> exact ⟨rfl, String.empty_append⟩

/-- A run that ends by drawing blocks draws them behind what has been logged. -/
theorem run_of_print {x : Program α} {f : α → Program Unit} {a : α} {blocks : List Report.Block}
    (ends : runGroup around words = x >>= f) (first : Runs x (.ok a) "") (draws : f a = print blocks) :
    ∃ logged, run around words =
      ⟨0, ⟨"", logged ++ String.ofList (Report.drawBlocks consoleWidth blocks)⟩, none⟩ := by
  obtain ⟨logged, eq⟩ := first {}
  have behind : StateT.run (ExceptT.run (x >>= f)) {} = StateT.run (ExceptT.run (f a)) ⟨"", logged⟩ := by
    rw [ExceptT.run_bind, StateT.run_bind, eq]
    rfl
  refine ⟨logged, ?_⟩
  unfold run
  rw [ends, behind, draws]
  rfl

theorem run_of_failure {f : Failure} (ends : Runs (runGroup around words) (.error (.failure f)) "") :
    ∃ logged, run around words = ⟨1, ⟨"", logged⟩, some f⟩ := by
  obtain ⟨logged, eq⟩ := ends {}
  refine ⟨logged, ?_⟩
  unfold run
  rw [eq]
  rfl

end

end Program

end BundleAudit.CommandLine

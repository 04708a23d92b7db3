import BundleAudit.Glob
import BundleAudit.Report.Basic
import BundleAudit.Rule.BuildTarget
import BundleAudit.Rule.DependencyExclusion
import BundleAudit.Rule.DynamicEval
import BundleAudit.Rule.GlobalExport
import BundleAudit.Rule.SchemeGuard
import BundleAudit.Source.Bundle
import BundleAudit.Source.Comments

/-!
# The registry

A registry holds rules by name, each name once, in the order in which they were registered, and leaves
out rules of severities that are not included. A run evaluates, for each file, the rules whose globs
match its base name. What a run has found is kept as data: the report and the log are two readings of it.

A check registers five rules under a profile. The names and texts of a profile are taken literally, so only its guard
expressions can be refused.
-/

namespace BundleAudit

open BundleAudit.FileSystem

structure Registry where
  rules : List Rule := []
  /-- The severities whose rules are taken; all if absent. -/
  included : Option (List Severity) := none
  names_nodup : (rules.map (·.name)).Nodup := by simp

/-- A rule of this name is registered already. -/
structure DuplicateRule where
  name : String
deriving DecidableEq, Repr

def DuplicateRule.message (d : DuplicateRule) : String :=
  s!"Rule with name '{d.name}' already registered"

namespace Registry

def includes (r : Registry) (s : Severity) : Bool := r.included.all (·.contains s)

theorem names_nodup_append {rules : List Rule} {rule : Rule} (h : (rules.map (·.name)).Nodup)
    (fresh : ¬ rules.any (·.name == rule.name) = true) :
    ((rules ++ [rule]).map (·.name)).Nodup := by
  have fresh' : ∀ other ∈ rules, other.name ≠ rule.name := by simpa using fresh
  rw [List.map_append, List.nodup_append]
  refine ⟨h, by simp, fun name mem other eq => ?_⟩
  obtain ⟨o, ho, rfl⟩ := List.mem_map.1 mem
  obtain rfl : other = rule.name := by simpa using eq
  exact fresh' o ho

/-- Registers a rule; says whether it was taken. The name is looked at before the severity, and a rule
that is left out does not reserve its name. -/
def register (r : Registry) (rule : Rule) : Except DuplicateRule (Bool × Registry) :=
  if held : r.rules.any (·.name == rule.name) then .error ⟨rule.name⟩
  else if r.includes rule.severity then
    .ok (true, { r with
      rules := r.rules ++ [rule], names_nodup := names_nodup_append r.names_nodup held })
  else .ok (false, r)

/-- What is logged about a rule that was taken or left out. -/
def registerEntry (rule : Rule) (taken : Bool) : LogEntry :=
  .engine .debug <|
    if taken then s!"Registered rule: {rule.name} ({rule.severity.name})"
    else s!"Skipping rule {rule.name} (severity: {rule.severity.name})"

/-- The rules that look at files of a base name. -/
def applicable (r : Registry) (path : String) : List Rule :=
  r.rules.filter fun rule => rule.appliesTo.any (Glob.covers · (baseName path))

end Registry

/-- What the rules gave for one file. -/
structure FileRun where
  bundle : Bundle
  evaluations : List Evaluation

namespace FileRun

def outcomes (f : FileRun) : List Outcome := f.evaluations.map (·.outcome)

def log (f : FileRun) : List LogEntry :=
  let name := baseName f.bundle.path
  if f.evaluations.isEmpty then [.engine .info s!"No applicable rules for {name}"]
  else
    .engine .info s!"Running {f.evaluations.length} rules for {name}" ::
      f.evaluations.flatMap (·.log)

end FileRun

/-- The bundles that were read for a run, the files that could not be read, and what was logged. -/
structure Intake where
  bundles : List Bundle := []
  faults : List FileFault := []
  log : List LogEntry := []

namespace Intake

/-- Reads the bundle at a path; a file that cannot be read becomes a fault. -/
def add (t : Tree) (taken : Intake) (path : String) : Intake :=
  match Bundle.read t path with
  | .ok b => { taken with bundles := taken.bundles ++ [b], log := taken.log ++ [b.readEntry] }
  | .error e =>
    { taken with
      faults := taken.faults ++ [⟨path, s!"Failed to read bundle file: {e.message}"⟩]
      log := taken.log ++ [.engine .error s!"Failed to read bundle {path}: {e.message}"] }

/-- Whether a path is one that no file can have. -/
def isRefused (path : String) : Bool := path.contains '\x00'

/-- Reads the bundles at the given paths. A path that no file can have ends the reading. -/
def ofPaths (t : Tree) (paths : List String) : Intake :=
  (paths.takeWhile (!isRefused ·)).foldl (add t) {}

end Intake

/-- What a run has found, file by file. -/
structure Run where
  files : List FileRun
  concurrent : Bool
  workers : Nat
  /-- What was logged while the bundles were read. -/
  reading : List LogEntry := []
  faults : List FileFault := []

namespace Run

def log (r : Run) : List LogEntry :=
  let count := r.files.length
  r.reading ++
    [.engine .info <|
      if r.concurrent then s!"Processing {count} files in parallel ({r.workers} workers)"
      else s!"Processing {count} files sequentially"] ++
    r.files.flatMap (·.log)

/-- The report of a run in which the files were committed in the given order. -/
def reportOf (r : Run) (order : List FileRun) : Report :=
  let start : Report := { parallel := r.concurrent, workers := if r.concurrent then r.workers else 1 }
  let done := order.foldl (fun report f => report.commit f.outcomes) start
  { done with faults := r.faults }

def report (r : Run) : Report := r.reportOf r.files

end Run

namespace Registry

/-- Evaluates the applicable rules on one bundle, from whose text the comments are removed once. -/
def runFile (r : Registry) (b : Bundle) : FileRun :=
  match r.applicable b.path with
  | [] => ⟨b, []⟩
  | rules =>
    let cleaned := Source.strip b.content
    ⟨b, rules.map fun rule => ⟨rule, b.path, rule.evaluate cleaned b.content b.path⟩⟩

/-- Runs bundles. With more than one, they may be worked on at the same time. -/
def runAll (r : Registry) (bundles : List Bundle) (parallel : Bool) (maxWorkers : Int) : Run where
  files := bundles.map r.runFile
  concurrent := parallel && bundles.length > 1
  workers := (max 1 maxWorkers).toNat

/-- Runs what was taken in. -/
def runIntake (r : Registry) (taken : Intake) (parallel : Bool) (maxWorkers : Int) : Run :=
  { r.runAll taken.bundles parallel maxWorkers with reading := taken.log, faults := taken.faults }

end Registry

/-! ## The rules of a check -/

/-- The five rules under a profile, in the order in which they are registered. -/
def defaultRules (p : Profile) : Except Regex.ReadError (List Rule) := do
  let guard ← SchemeGuard.rule? p
  return [GlobalExport.rule p, DynamicEval.rule p, DependencyExclusion.rule p, BuildTarget.rule p, guard]

end BundleAudit

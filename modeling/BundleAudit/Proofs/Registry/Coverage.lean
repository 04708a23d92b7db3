import BundleAudit.Proofs.Discovery
import BundleAudit.Proofs.Registry.Outcomes
import BundleAudit.Proofs.Registry.Reading
import BundleAudit.Proofs.Report.Presentation

/-!
# What is accounted for

The bundles that were found in a directory are read, and the rules that look at files of their names are run on
them. The document of the run accounts for each of the bundles (`Registry.accounts_of_ends`): there is one task
for each rule that looks at it, or it is among the faults.
-/

namespace BundleAudit

open BundleAudit.FileSystem

theorem flatMap_filterMap {α β γ : Type} {g : α → Option β} {f : β → List γ} {h : α → List γ} :
    ∀ {xs : List α}, (∀ x ∈ xs, ∀ y, g x = some y → f y = h x) →
      (xs.filterMap g).flatMap f = (xs.filter fun x => (g x).isSome).flatMap h
  | [], _ => rfl
  | x :: xs, same => by
    have rest := flatMap_filterMap fun y mem => same y (List.mem_cons_of_mem x mem)
    cases got : g x with
    | none => simp [got, rest]
    | some y => simp [got, rest, same x List.mem_cons_self y got]

namespace Discovery

variable {name : String}

theorem baseName_pathOf (directory : String) (named : IsName name) : baseName (pathOf directory name) = name :=
  Path.baseName_child directory named

/-- A bundle goes by the path at which it was found. -/
theorem bundle_pathOf (directory : String) (named : IsName name) :
    Bundle.pathOf (pathOf directory name) = pathOf directory name := by
  rw [Bundle.pathOf, pathOf, Path.ofString_toString_child directory named]

/-- Different bundles have different paths. -/
theorem pathOf_inj {directory m n : String} (hm : IsName m) (hn : IsName n)
    (same : pathOf directory m = pathOf directory n) : m = n := by
  rw [← baseName_pathOf directory hm, same, baseName_pathOf directory hn]

/-- A bundle of a directory can be read by then. -/
def isReadable (later : Tree) (directory name : String) : Bool :=
  (Intake.bundle? later (pathOf directory name)).isSome

end Discovery

open Discovery (pathOf isReadable)

/-- The rules that look at files of a name. -/
def rulesFor (rules : List Rule) (name : String) : List Rule :=
  rules.filter fun rule => rule.appliesTo.any (Glob.covers · name)

/-- The file and the rule of each task that is due: there is one for each bundle that can be read by then and
each rule that looks at it. -/
def rowsDue (later : Tree) (directory : String) (names : List String) (rules : List Rule) :
    List (Option String × Option String) :=
  (names.filter (isReadable later directory)).flatMap fun name =>
    (rulesFor rules name).map fun rule => (some (pathOf directory name), some rule.name)

/-- The files of the faults that are due: the bundles that cannot be read by then. -/
def faultsDue (later : Tree) (directory : String) (names : List String) : List (Option String) :=
  (names.filter (!isReadable later directory ·)).map fun name => some (pathOf directory name)

theorem rowsDue_of_readable {later : Tree} {directory : String} {names : List String} {rules : List Rule}
    (readable : ∀ name ∈ names, isReadable later directory name = true) :
    rowsDue later directory names rules = names.flatMap fun name =>
      (rulesFor rules name).map fun rule => (some (pathOf directory name), some rule.name) := by
  rw [rowsDue, List.filter_eq_self.2 readable]

theorem rowsDue_of_unreadable {later : Tree} {directory : String} {names : List String} {rules : List Rule}
    (unreadable : ∀ name ∈ names, isReadable later directory name = false) :
    rowsDue later directory names rules = [] := by
  rw [rowsDue, List.filter_eq_nil_iff.2 fun name mem => by simp [unreadable name mem]]
  rfl

namespace Json

/-- The file and the rule of a task. -/
def row (task : Json) : Option String × Option String := (task.string? "file", task.string? "task")

/-- A value of the metadata of a report document. -/
def metadata? (name : String) (document : Json) : Option Json :=
  (document.field? "metadata").bind (·.field? name)

/-- The document accounts for the bundles of a directory, which some rules were run on. -/
structure Accounts (later : Tree) (directory : String) (names : List String) (rules : List Rule)
    (document : Json) : Prop where
  tasks : (document.tasks.map row).Perm (rowsDue later directory names rules)
  once : (document.tasks.map row).Nodup
  faults : document.faults.map (·.string? "file") = faultsDue later directory names
  faulted_once : (document.faults.map (·.string? "file")).Nodup
  scanned : ∃ scanned : Nat, document.metadata? "filesScanned" = some (.int scanned) ∧
    scanned + document.faults.length = names.length

end Json

/-! ## Runs on what was found -/

section
variable {directory : String} {names : List String} (named : ∀ name ∈ names, IsName name)
include named

theorem nodup_rowsDue (distinct : names.Nodup) {rules : List Rule} (apart : (rules.map (·.name)).Nodup)
    (later : Tree) : (rowsDue later directory names rules).Nodup := by
  have readable : (names.filter (isReadable later directory)).Nodup := distinct.filter _
  refine List.nodup_flatMap.2 ⟨fun name _ => ?_, readable.pairwise_of_forall_ne fun m hm n hn ne => ?_⟩
  · have rows : (rulesFor rules name).map (fun rule => (some (pathOf directory name), some rule.name)) =
        ((rulesFor rules name).map (·.name)).map fun n => (some (pathOf directory name), some n) := by
      rw [List.map_map]
      rfl
    rw [rows]
    refine List.Nodup.map (fun rule other same => ?_) (apart.sublist (List.filter_sublist.map _))
    simpa using same
  · -- The rows of two bundles differ in their files.
    intro row hrow hrow'
    obtain ⟨rule, -, rfl⟩ := List.mem_map.1 hrow
    obtain ⟨rule', -, same⟩ := List.mem_map.1 hrow'
    have paths : pathOf directory n = pathOf directory m := Option.some.inj (congrArg Prod.fst same)
    have hm' := named m (List.mem_filter.1 hm).1
    have hn' := named n (List.mem_filter.1 hn).1
    exact ne (Discovery.pathOf_inj hm' hn' paths.symm)

theorem nodup_faultsDue (distinct : names.Nodup) (later : Tree) : (faultsDue later directory names).Nodup := by
  refine List.Nodup.map_on (fun m hm n hn same => ?_) (distinct.filter _)
  exact Discovery.pathOf_inj (named m (List.mem_filter.1 hm).1) (named n (List.mem_filter.1 hn).1)
    (Option.some.inj same)

variable {t : Tree} {place : Place} (there : t.directory? (Path.ofString directory) = .ok (some place))
include there

theorem isRefused_pathOf : ∀ path ∈ names.map (pathOf directory), Intake.isRefused path = false := by
  intro path mem
  obtain ⟨name, mem', rfl⟩ := List.mem_map.1 mem
  have clean := Tree.null_notMem_child there (named name mem')
  simpa [Intake.isRefused, Discovery.pathOf] using clean

/-- The outcomes of a run on the bundles are those of the rules that look at them. -/
theorem rows_outcomesOf (r : Registry) (later : Tree) :
    (r.outcomesOf (Intake.ofPaths later (names.map (pathOf directory))).bundles).map
      (fun o => (some o.file, some o.rule)) = rowsDue later directory names r.rules := by
  rw [Intake.bundles_ofPaths later (isRefused_pathOf named there), List.filterMap_map, Registry.outcomesOf,
    List.map_flatMap]
  refine flatMap_filterMap fun name mem b read => ?_
  have path : b.path = pathOf directory name :=
    (Intake.bundle?_path read).trans (Discovery.bundle_pathOf directory (named name mem))
  rw [Registry.applicable, path, Discovery.baseName_pathOf directory (named name mem), List.map_map]
  exact List.map_congr_left fun rule _ => by rw [Function.comp_apply, Rule.outcomeOn_file, path]; rfl

theorem files_faults (later : Tree) :
    (Intake.ofPaths later (names.map (pathOf directory))).faults.map (fun f => some f.file) =
      faultsDue later directory names := by
  have absent : ∀ name, (!isReadable later directory name) =
      (Intake.fault? later (pathOf directory name)).isSome := fun name =>
    (Intake.isSome_fault? later _).symm
  rw [Intake.faults_ofPaths later (isRefused_pathOf named there), List.filterMap_map, faultsDue,
    List.map_eq_flatMap, List.map_eq_flatMap]
  simp only [absent]
  refine flatMap_filterMap fun name _ f failed => ?_
  rw [Intake.file_fault? failed]

/-! ## The report of a run -/

variable {registry : Registry} {later : Tree} {parallel : Bool} {maxWorkers : Int} {report : Report}
  (ends : (registry.runIntake (Intake.ofPaths later (names.map (pathOf directory))) parallel
    maxWorkers).Ends report)
include ends

theorem rows_of_ends : (report.sortedOutcomes.map fun o => (some o.file, some o.rule)).Perm
    (rowsDue later directory names registry.rules) := by
  obtain ⟨outcomes, perm, report_eq⟩ := Registry.ends_runIntake ends
  have outcomes_eq : report.outcomes = outcomes := by
    rw [report_eq]
    rfl
  have rows := perm.map fun o => (some o.file, some o.rule)
  rw [List.map_map, rows_outcomesOf named there, ← outcomes_eq] at rows
  exact ((List.mergeSort_perm _ _).map _).trans rows

theorem faults_of_ends : report.faults.map (fun f => some f.file) = faultsDue later directory names := by
  obtain ⟨outcomes, -, report_eq⟩ := Registry.ends_runIntake ends
  rw [report_eq]
  exact files_faults named there later

/-- Each bundle is scanned or faulted. -/
theorem scanned_of_ends : report.filesScanned + report.faults.length = names.length := by
  obtain ⟨outcomes, -, report_eq⟩ := Registry.ends_runIntake ends
  have counted := Intake.length_bundles_add_faults later (names.map (pathOf directory))
  rw [List.length_map, ← Intake.bundles_ofPaths later (isRefused_pathOf named there),
    ← Intake.faults_ofPaths later (isRefused_pathOf named there)] at counted
  rw [report_eq]
  exact counted

end

/-- However the files have changed since the bundles were found, and whatever the schedule, the document of a
run accounts for each of them. -/
theorem Registry.accounts_of_ends {t : Tree} {directory : String} {place : Place} {names : List String}
    (named : ∀ name ∈ names, IsName name) (distinct : names.Nodup)
    (there : t.directory? (Path.ofString directory) = .ok (some place))
    {registry : Registry} {later : Tree} {parallel : Bool} {maxWorkers : Int} {report : Report}
    (ends : (registry.runIntake (Intake.ofPaths later (names.map (pathOf directory))) parallel
      maxWorkers).Ends report) (strict : Bool) :
    ∃ document : String → Json, report.document strict = (Time.stampText report.timestamp).map document ∧
      ∀ stamp, (document stamp).Accounts later directory names registry.rules := by
  have rows := rows_of_ends named there ends
  have faults := faults_of_ends named there ends
  have tasks_rows : (report.sortedOutcomes.map Outcome.toJson).map Json.row =
      report.sortedOutcomes.map fun o => (some o.file, some o.rule) := by
    rw [List.map_map]
    rfl
  have faults_files : (report.faults.map FileFault.toJson).map (·.string? "file") =
      report.faults.map fun f => some f.file := by
    rw [List.map_map]
    rfl
  have scanned : report.filesScanned + (report.faults.map FileFault.toJson).length = names.length := by
    rw [List.length_map]
    exact scanned_of_ends named there ends
  rw [← tasks_rows] at rows
  rw [← faults_files] at faults
  refine ⟨_, bind_pure_comp _ _, fun stamp => ?_⟩
  exact
    { tasks := rows
      once := rows.nodup_iff.2 (nodup_rowsDue named distinct registry.names_nodup later)
      faults := faults
      faulted_once := faults ▸ nodup_faultsDue named distinct later
      scanned := ⟨report.filesScanned, rfl, scanned⟩ }

end BundleAudit

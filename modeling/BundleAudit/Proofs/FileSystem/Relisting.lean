import BundleAudit.Discovery
import BundleAudit.Proofs.FileSystem.Entries
import BundleAudit.Proofs.Report.StableSort
import BundleAudit.Registry

/-!
# The order of a listing

A system lists the entries of a directory in any order (`Tree.Relists`). What a path leads to does not depend
on it, and neither does what discovery finds, since it sorts the names.
-/

namespace BundleAudit

theorem lookup_eq_of_perm {α β : Type} [BEq α] [LawfulBEq α] {l l' : List (α × β)} (perm : l.Perm l')
    (distinct : (l.map (·.1)).Nodup) (key : α) : l.lookup key = l'.lookup key := by
  induction perm with
  | nil => rfl
  | cons entry _ ih =>
    rw [List.map_cons, List.nodup_cons] at distinct
    rw [List.lookup_cons, List.lookup_cons, ih distinct.2]
  | swap first second l =>
    have apart : first.1 ≠ second.1 := by
      intro same
      simp [same] at distinct
    rw [List.lookup_cons, List.lookup_cons, List.lookup_cons, List.lookup_cons]
    by_cases at_first : key == first.1
    · have not_second : (key == second.1) = false := by
        rw [← eq_of_beq at_first] at apart
        simpa using apart
      simp [at_first, not_second]
    · simp [at_first]
  | trans p _ ih ih' => rw [ih distinct, ih' ((p.map _).nodup_iff.1 distinct)]

namespace FileSystem.Tree

/-- The same tree with its entries in another order. -/
structure Relists (t t' : Tree) : Prop where
  workingDirectory : t'.workingDirectory = t.workingDirectory
  entries : t.entries.Perm t'.entries
  /-- Nothing stands twice at a place. -/
  distinct : (t.entries.map (·.1)).Nodup

namespace Relists

variable {t t' : Tree} (relists : Relists t t')
include relists

theorem entry?_eq (place : Place) : t'.entry? place = t.entry? place := by
  unfold entry?
  rw [lookup_eq_of_perm relists.entries relists.distinct, relists.workingDirectory, relists.entries.any_eq]

theorem children_perm (place : Place) : (t.children place).Perm (t'.children place) := by
  refine (List.perm_ext_iff_of_nodup (nodup_children place) (nodup_children place)).2 fun name => ?_
  rw [mem_children, mem_children]
  exact exists_congr fun e => and_congr_left fun _ => relists.entries.mem_iff

theorem walkFrom_eq (text : String) : ∀ (names : List String) (place : Place),
    t'.walkFrom text place names = t.walkFrom text place names
  | [], place => by rw [walkFrom, walkFrom, relists.entry?_eq]
  | name :: rest, place => by
    rw [walkFrom, walkFrom, relists.entry?_eq]
    simp only [walkFrom_eq text rest]

theorem locate_eq (path : Path) : t'.locate path = t.locate path := by
  unfold locate
  simp only [relists.workingDirectory, relists.walkFrom_eq]

theorem lookUp_eq (path : String) : t'.lookUp path = t.lookUp path := by
  unfold lookUp
  simp only [relists.workingDirectory, relists.walkFrom_eq, relists.entry?_eq]

theorem readFile_eq (path : Path) : t'.readFile path = t.readFile path := by
  unfold readFile
  simp only [relists.locate_eq, relists.entry?_eq]

theorem directory?_eq (path : Path) : t'.directory? path = t.directory? path := by
  unfold directory?
  simp only [relists.locate_eq, relists.entry?_eq]

theorem isFile_eq (path : Path) : t'.isFile path = t.isFile path := by
  unfold isFile
  simp only [relists.locate_eq, relists.entry?_eq]

/-! ## Discovery and reading -/

theorem fileNames_eq (directory : Path) : ∀ names : List String,
    Discovery.fileNames t' directory names = Discovery.fileNames t directory names
  | [] => rfl
  | name :: rest => by
    rw [Discovery.fileNames, Discovery.fileNames, relists.isFile_eq, fileNames_eq directory rest]

theorem candidates_eq (directory : Path) (place : Place) (marker ext : String) :
    Discovery.candidates t' directory place marker ext = Discovery.candidates t directory place marker ext := by
  unfold Discovery.candidates
  rw [← mergeSort_eq_of_perm (relists.children_perm place)]
  simp only [relists.fileNames_eq]

theorem find_eq (directory marker ext : String) :
    Discovery.find t' directory marker ext = Discovery.find t directory marker ext := by
  unfold Discovery.find
  simp only [relists.directory?_eq, relists.candidates_eq]

theorem read_eq (path : String) : Bundle.read t' path = Bundle.read t path := by
  unfold Bundle.read
  simp only [relists.readFile_eq]

theorem ofPaths_eq (paths : List String) : Intake.ofPaths t' paths = Intake.ofPaths t paths := by
  have added : Intake.add t' = Intake.add t := by
    funext taken path
    rw [Intake.add, Intake.add, relists.read_eq]
  rw [Intake.ofPaths, Intake.ofPaths, added]

end Relists

end FileSystem.Tree

end BundleAudit

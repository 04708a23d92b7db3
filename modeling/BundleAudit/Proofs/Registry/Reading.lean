import BundleAudit.Attempts
import BundleAudit.Registry
import Mathlib.Data.List.TakeWhile

/-!
# What is read

Each path that a run is given yields a bundle or a fault, and not both. Bundles and faults stand in the
order of the paths (`Intake.bundles_ofPaths`, `Intake.faults_ofPaths`).
-/

namespace BundleAudit

open BundleAudit.FileSystem

/-- The path by which the bundle at a path goes. -/
def Bundle.pathOf (path : String) : String := (Path.ofString path).toString

theorem Bundle.path_of_read {t : Tree} {path : String} {b : Bundle} (h : Bundle.read t path = .ok b) :
    b.path = Bundle.pathOf path := by
  obtain ⟨file, -, made⟩ := eq_ok_of_bind h
  obtain rfl := Except.ok.inj made
  rfl

theorem Bundle.read_of_locked {t : Tree} {path : String} {place : Place}
    (there : t.locate (Path.ofString path) = .ok place) (locked : t.entry? place = some .locked) :
    Bundle.read t path = .error (.denied (Bundle.pathOf path)) := by
  have denied : t.readFile (Path.ofString path) = .error (.denied (Bundle.pathOf path)) := by
    simp only [Tree.readFile, there, bind, Except.bind, locked]
    rfl
  rw [Bundle.read, denied]
  rfl

example : Bundle.read { entries := [(["dist", "a.umd.js"], .locked)], workingDirectory := [] } "dist/a.umd.js" =
    .error (.denied "dist/a.umd.js") := by
  cbv

namespace Intake

/-- The bundle at a path, if it can be read. -/
def bundle? (t : Tree) (path : String) : Option Bundle := (Bundle.read t path).toOption

/-- The fault of a path, if it cannot be read. -/
def fault? (t : Tree) (path : String) : Option FileFault :=
  match Bundle.read t path with
  | .ok _ => none
  | .error e => some ⟨path, s!"Failed to read bundle file: {e.message}"⟩

theorem bundle?_path {t : Tree} {path : String} {b : Bundle} (h : bundle? t path = some b) :
    b.path = Bundle.pathOf path := by
  unfold bundle? at h
  cases read : Bundle.read t path with
  | error e => simp [read, Except.toOption] at h
  | ok c =>
    rw [read] at h
    obtain rfl := Option.some.inj h
    exact Bundle.path_of_read read

theorem file_fault? {t : Tree} {path : String} {f : FileFault} (h : fault? t path = some f) : f.file = path := by
  unfold fault? at h
  split at h
  · cases h
  · obtain rfl := Option.some.inj h
    rfl

/-- A path yields a bundle or a fault, and not both. -/
theorem isSome_fault? (t : Tree) (path : String) : (fault? t path).isSome = !(bundle? t path).isSome := by
  unfold fault? bundle?
  cases Bundle.read t path <;> rfl

theorem bundles_foldl_add (t : Tree) : ∀ (paths : List String) (taken : Intake),
    (paths.foldl (add t) taken).bundles = taken.bundles ++ paths.filterMap (bundle? t)
  | [], _ => (List.append_nil _).symm
  | path :: paths, taken => by
    rw [List.foldl_cons, bundles_foldl_add t paths]
    cases read : Bundle.read t path <;> simp [add, bundle?, read, Except.toOption]

theorem faults_foldl_add (t : Tree) : ∀ (paths : List String) (taken : Intake),
    (paths.foldl (add t) taken).faults = taken.faults ++ paths.filterMap (fault? t)
  | [], _ => (List.append_nil _).symm
  | path :: paths, taken => by
    rw [List.foldl_cons, faults_foldl_add t paths]
    cases read : Bundle.read t path <;> simp [add, fault?, read]

section
variable (t : Tree) {paths : List String} (served : ∀ path ∈ paths, isRefused path = false)
include served

theorem ofPaths_eq_foldl : ofPaths t paths = paths.foldl (add t) {} := by
  have all : paths.takeWhile (!isRefused ·) = paths := by
    rw [List.takeWhile_eq_self_iff]
    exact fun path mem => by simp [served path mem]
  rw [ofPaths, all]

theorem bundles_ofPaths : (ofPaths t paths).bundles = paths.filterMap (bundle? t) := by
  rw [ofPaths_eq_foldl t served, bundles_foldl_add]
  rfl

theorem faults_ofPaths : (ofPaths t paths).faults = paths.filterMap (fault? t) := by
  rw [ofPaths_eq_foldl t served, faults_foldl_add]
  rfl

end

/-- No path is lost and none is doubled. -/
theorem length_bundles_add_faults (t : Tree) : ∀ paths : List String,
    (paths.filterMap (bundle? t)).length + (paths.filterMap (fault? t)).length = paths.length
  | [] => rfl
  | path :: paths => by
    have rest := length_bundles_add_faults t paths
    have one := isSome_fault? t path
    cases bundle : bundle? t path <;> cases fault : fault? t path <;> simp [bundle, fault] at one ⊢ <;> omega

end Intake

end BundleAudit

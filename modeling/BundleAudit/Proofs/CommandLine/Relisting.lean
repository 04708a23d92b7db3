import BundleAudit.CommandLine.Program
import BundleAudit.Proofs.FileSystem.Relisting
import BundleAudit.Proofs.Profile.Run

/-!
# Runs on a listing in another order

The order in which the system lists the entries of directories is not seen in a run (`run_relisted`). The files
are read for the values of the options, for the profile and for the bundles, and each reader is told the same.
-/

namespace BundleAudit

open BundleAudit.CommandLine BundleAudit.FileSystem

namespace FileSystem.Tree.Relists

variable {t t' : Tree} (relists : Relists t t')
include relists

theorem check_eq (g : Given) : g.check t' = g.check t := by
  unfold Given.check
  simp only [relists.lookUp_eq]

/-! ## Profiles -/

theorem readReference_eq (presets : Tree) (ref : Profile.Reference) :
    Profile.readReference presets t' ref = Profile.readReference presets t ref := by
  have found : Profile.find presets t' ref = Profile.find presets t ref := by
    cases ref with
    | preset name =>
      have chosen : (if (Profile.presetPath name).root.isEmpty then presets else t').readFile
          (Profile.presetPath name) =
        (if (Profile.presetPath name).root.isEmpty then presets else t).readFile (Profile.presetPath name) := by
        split
        · rfl
        · exact relists.readFile_eq _
      simp only [Profile.find, chosen]
    | file path => simp only [Profile.find, relists.readFile_eq]
  unfold Profile.readReference
  rw [found]

theorem loadReference_eq (presets : Tree) (chain : List Profile.Origin) (ref : Profile.Reference) :
    Profile.loadReference presets t' chain ref = Profile.loadReference presets t chain ref := by
  -- The recursion of loading follows what is read, and the same is read.
  induction chain, ref using Profile.loadReference.induct presets t with
  | case1 chain ref e read =>
    rw [Profile.loadReference_unread read,
      Profile.loadReference_unread ((relists.readReference_eq _ _).trans read)]
  | case2 chain ref origin d read mem =>
    rw [Profile.loadReference_circular read mem,
      Profile.loadReference_circular ((relists.readReference_eq _ _).trans read) mem]
  | case3 chain ref origin d read new ih =>
    rw [Profile.loadReference_resolve read new,
      Profile.loadReference_resolve ((relists.readReference_eq _ _).trans read) new]
    exact congrArg d.resolve (funext fun parent => funext fun listed => ih parent listed)

theorem loadProfile_eq (path : Option String) : Program.loadProfile t' path = Program.loadProfile t path := by
  unfold Program.loadProfile Profile.load
  simp only [relists.loadReference_eq]

/-! ## Commands -/

theorem readArguments_eq (c : Command) (interspersed : Bool) (words : List String) :
    Program.readArguments t' c interspersed words = Program.readArguments t c interspersed words := by
  unfold Program.readArguments
  simp only [relists.check_eq]

theorem readOptions_eq (c : Command) (words : List String) :
    Program.readOptions t' c words = Program.readOptions t c words := by
  unfold Program.readOptions
  simp only [relists.readArguments_eq]

end FileSystem.Tree.Relists

namespace CommandLine

variable {around : Surroundings} {files : Tree} (relists : around.files.Relists files)
include relists

namespace Program

theorem listRules_relisted (view : LogView) (path : Option String) (words : List String) :
    listRules { around with files := files } view path words = listRules around view path words := by
  unfold listRules
  simp only [relists.readOptions_eq, relists.loadProfile_eq]

theorem discover_relisted (view : LogView) (s : Settings) (p : Profile) :
    discover { around with files := files } view s p = discover around view s p := by
  unfold discover
  simp only [relists.find_eq]

theorem checkBundles_relisted (view : LogView) (s : Settings) (registry : Registry) (bundles : List String) :
    checkBundles { around with files := files } view s registry bundles =
      checkBundles around view s registry bundles := by
  unfold checkBundles
  simp only [relists.ofPaths_eq]

theorem check_relisted (view : LogView) (path : Option String) (words : List String) :
    check { around with files := files } view path words = check around view path words := by
  unfold check
  simp only [relists.readOptions_eq, relists.loadProfile_eq, discover_relisted relists, checkBundles_relisted relists]

theorem runGroup_relisted (words : List String) :
    runGroup { around with files := files } words = runGroup around words := by
  unfold runGroup
  simp only [relists.readArguments_eq, listRules_relisted relists, check_relisted relists]

end Program

/-- A run is the same on a listing in another order. -/
theorem run_relisted (words : List String) : run { around with files := files } words = run around words := by
  unfold run
  rw [Program.runGroup_relisted relists]

end CommandLine

end BundleAudit

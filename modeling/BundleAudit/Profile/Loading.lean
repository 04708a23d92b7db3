import BundleAudit.Profile.Draft

/-!
# Loading profiles

A document is loaded with the documents and presets that it inherits from. It must not inherit from
itself, on any way; two documents may inherit from the same one.

The chain holds what is being resolved at a time. A document that is already on it is circular, and what
is newly put on it is one of the files, or a preset that some document names. So loading comes to an end.
-/

namespace BundleAudit

open BundleAudit.FileSystem

namespace Profile

/-! ## Presets -/

/-- The preset for bundles that run in browsers and in locked-down containers. -/
def umdSdk : Profile :=
  setText { name := some "umd-sdk" } .description
    "UMD/ESM SDK bundles served to browsers and Lightning containers"

/-- The document of that preset. -/
def umdSdkText : String :=
  "name: umd-sdk
description: UMD/ESM SDK bundles served to browsers and Lightning containers

bundle_marker: \".umd.\"
bundle_extension: \".js\"

export_name: OptaveJavaScriptSDK
export_roots:
  - globalThis
  - window
  - root
export_applies_to:
  - \"*.umd.js\"

excluded_dependencies:
  - ajv
dependency_applies_to:
  - \"*browser*\"

build_token: __WEBPACK_BUILD_TARGET__
build_targets:
  - browser-umd
  - server-umd
  - browser-esm
  - server-esm

guard_applies_to:
  - \"*.umd.js\"
"

/-- Where the documents of presets stand. -/
def presetTree : Tree where
  entries := [(["bundleguard", "profile", "presets", "umd-sdk.yaml"], .file umdSdkText.toUTF8.toList)]
  workingDirectory := ["bundleguard", "profile", "presets"]

/-! ## Documents -/

/-- The path of the document of a preset, from the directory of the presets. An absolute one leaves it. -/
def presetPath (name : String) : Path := Path.ofString s!"{name}.yaml"

/-- The bytes that a reference leads to, and what they are known by. -/
def find (presets t : Tree) : Reference → Except ProfileError (Origin × List UInt8)
  | .preset name =>
    let path := presetPath name
    match (if path.root.isEmpty then presets else t).readFile path with
    | .ok (_, bytes) => .ok (.preset name, bytes)
    | .error (.nameTooLong path) => .error (.file (.nameTooLong path))
    | .error (.denied path) => .error (.file (.denied path))
    | .error _ => .error (.unknownPreset name)
  | .file path => do
    let (place, bytes) ← (t.readFile (Path.ofString path)).mapError .file
    return (.file place, bytes)

def readReference (presets t : Tree) (ref : Reference) : Except ProfileError (Origin × Draft) := do
  let (origin, bytes) ← find presets t ref
  return (origin, ← Draft.ofBytes bytes)

/-- The paths of the files that the document at a path inherits from; none if it cannot be read. -/
def parentPaths (t : Tree) (path : String) : List String :=
  match readReference presetTree t (.file path) with
  | .error _ => []
  | .ok (_, d) => d.references.filterMap fun ref =>
    match ref with
    | .file path => some path
    | .preset name =>
      let path := presetPath name
      if path.root.isEmpty then none else some path.toString

/-! ## The end of loading -/

/-- The origins that documents have or refer to: the files, and the presets that documents name. -/
def knownOrigins (presets t : Tree) : List Origin :=
  let named := (presets.entries ++ t.entries).flatMap fun e =>
    match e.2 with
    | .directory | .locked => []
    | .file bytes =>
      match Draft.ofBytes bytes with
      | .error _ => []
      | .ok d => d.references.filterMap fun ref =>
        match ref with
        | .preset name => some (.preset name)
        | .file _ => none
  t.entries.map (.file ·.1) ++ named

/-- A preset that no document names can only be asked for at the start. -/
def unnamed (presets t : Tree) : Reference → Nat
  | .preset name => if .preset name ∈ knownOrigins presets t then 0 else 1
  | .file _ => 0

/-- How many more documents can come onto a chain. -/
def remaining (presets t : Tree) (chain : List Origin) (ref : Reference) : Nat :=
  (knownOrigins presets t).countP (· ∉ chain) + unnamed presets t ref

theorem find_file {presets t : Tree} {path : String} {origin : Origin} {bytes : List UInt8}
    (h : find presets t (.file path) = .ok (origin, bytes)) :
    ∃ place, origin = .file place ∧ t.entry? place = some (.file bytes) := by
  simp only [find] at h
  cases read : t.readFile (Path.ofString path) with
  | error e =>
    rw [read] at h
    exact nomatch h
  | ok found =>
    rw [read] at h
    obtain ⟨rfl, rfl⟩ := Prod.mk.inj (Except.ok.inj h)
    exact ⟨found.1, rfl, Tree.entry_of_readFile read⟩

theorem find_preset {presets t : Tree} {name : String} {origin : Origin} {bytes : List UInt8}
    (h : find presets t (.preset name) = .ok (origin, bytes)) :
    origin = .preset name ∧ ∃ place, (place, .file bytes) ∈ presets.entries ++ t.entries := by
  simp only [find] at h
  split at h
  · next place found read =>
    obtain ⟨rfl, rfl⟩ : .preset name = origin ∧ found = bytes := by simpa using h
    refine ⟨rfl, place, List.mem_append.mpr ?_⟩
    split at read
    · exact .inl (Tree.mem_entries_of_isFile (Tree.entry_of_readFile read) rfl)
    · exact .inr (Tree.mem_entries_of_isFile (Tree.entry_of_readFile read) rfl)
  · cases h
  · cases h
  · cases h

/-- What is read stands in one of the trees. -/
theorem readReference_eq_ok {presets t : Tree} {ref : Reference} {origin : Origin} {d : Draft}
    (h : readReference presets t ref = .ok (origin, d)) :
    ∃ bytes, find presets t ref = .ok (origin, bytes) ∧ Draft.ofBytes bytes = .ok d := by
  unfold readReference at h
  cases found : find presets t ref with
  | error e => simp [found, bind, Except.bind] at h
  | ok r =>
    cases read : Draft.ofBytes r.2 with
    | error e => simp [found, read, bind, Except.bind] at h
    | ok d' =>
      obtain ⟨rfl, rfl⟩ : r.1 = origin ∧ d' = d := by
        simpa [found, read, bind, Except.bind, pure, Except.pure] using h
      exact ⟨r.2, rfl, read⟩

theorem unnamed_of_listed {presets t : Tree} {ref parent : Reference} {origin : Origin} {d : Draft}
    (h : readReference presets t ref = .ok (origin, d)) (listed : parent ∈ d.references) :
    unnamed presets t parent = 0 := by
  obtain ⟨bytes, found, read⟩ := readReference_eq_ok h
  have stands : ∃ place, (place, .file bytes) ∈ presets.entries ++ t.entries := by
    cases ref with
    | preset name => exact (find_preset found).2
    | file path =>
      obtain ⟨place, -, entry⟩ := find_file found
      exact ⟨place, List.mem_append.mpr (.inr (Tree.mem_entries_of_isFile entry rfl))⟩
  obtain ⟨place, mem⟩ := stands
  cases parent with
  | file path => rfl
  | preset name =>
    have known : Origin.preset name ∈ knownOrigins presets t := by
      refine List.mem_append.mpr (.inr (List.mem_flatMap.mpr ⟨_, mem, ?_⟩))
      simp only [read, List.mem_filterMap]
      exact ⟨.preset name, listed, rfl⟩
    simp [unnamed, known]

theorem known_or_unnamed {presets t : Tree} {ref : Reference} {origin : Origin} {bytes : List UInt8}
    (h : find presets t ref = .ok (origin, bytes)) :
    origin ∈ knownOrigins presets t ∨ unnamed presets t ref = 1 := by
  cases ref with
  | preset name =>
    obtain ⟨rfl, -⟩ := find_preset h
    by_cases known : Origin.preset name ∈ knownOrigins presets t
    · exact .inl known
    · exact .inr (by simp [unnamed, known])
  | file path =>
    obtain ⟨place, rfl, entry⟩ := find_file h
    exact .inl (List.mem_append.mpr (.inl (List.mem_map.mpr ⟨_, Tree.mem_entries_of_isFile entry rfl, rfl⟩)))

theorem countP_notMem_cons_le (origins chain : List Origin) (origin : Origin) :
    origins.countP (· ∉ origin :: chain) ≤ origins.countP (· ∉ chain) :=
  List.countP_mono_left fun o _ new => by simp_all

theorem countP_notMem_cons_lt {chain : List Origin} {origin : Origin} (new : origin ∉ chain) :
    ∀ {origins : List Origin}, origin ∈ origins →
      origins.countP (· ∉ origin :: chain) < origins.countP (· ∉ chain)
  | o :: origins, mem => by
    have le := countP_notMem_cons_le origins chain origin
    by_cases same : o = origin
    · subst same
      rw [List.countP_cons_of_neg (by simp), List.countP_cons_of_pos (by simpa using new)]
      omega
    · have lt := countP_notMem_cons_lt new ((List.mem_cons.mp mem).resolve_left (Ne.symm same))
      simp only [List.countP_cons, List.mem_cons, same, false_or] at lt ⊢
      omega

/-- Each parent has fewer documents ahead of it than the document that lists it. -/
theorem remaining_lt {presets t : Tree} {chain : List Origin} {ref parent : Reference} {origin : Origin}
    {d : Draft} (h : readReference presets t ref = .ok (origin, d)) (new : origin ∉ chain)
    (listed : parent ∈ d.references) :
    remaining presets t (origin :: chain) parent < remaining presets t chain ref := by
  have zero := unnamed_of_listed h listed
  obtain ⟨bytes, found, -⟩ := readReference_eq_ok h
  unfold remaining
  rcases known_or_unnamed found with known | one
  · have lt := countP_notMem_cons_lt new known
    omega
  · have le := countP_notMem_cons_le (knownOrigins presets t) chain origin
    omega

/-! ## Loading -/

/-- Loads a profile. `chain` holds the documents that are being resolved. -/
def loadReference (presets t : Tree) (chain : List Origin) (ref : Reference) :
    Except ProfileError Profile :=
  match _read : readReference presets t ref with
  | .error e => .error e
  | .ok (origin, d) =>
    if _new : origin ∈ chain then .error (.circular origin)
    else d.resolve fun parent _ => loadReference presets t (origin :: chain) parent
termination_by remaining presets t chain ref
decreasing_by exact remaining_lt _read _new ‹_›

/-- Loads the profile at a path. -/
def load (t : Tree) (path : String) (presets : Tree := presetTree) : Except ProfileError Profile :=
  loadReference presets t [] (.file path)

/-- The profile of a document that stands in no file. -/
def ofText (t : Tree) (text : List Char) (presets : Tree := presetTree) :
    Except ProfileError Profile := do
  (← Draft.ofText text).resolve fun parent _ => loadReference presets t [] parent

end Profile

end BundleAudit

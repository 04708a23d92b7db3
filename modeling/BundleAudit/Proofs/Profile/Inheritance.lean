import BundleAudit.Proofs.Profile.Run
import Mathlib

/-!
# Circular inheritance

Documents are the nodes of a graph, with an edge from each to those that it inherits from. They are told
apart by where they have been found, so a file is one node however its path is written. If the documents
that a reference leads to are valid, loading it finds a circular document exactly if there is a cycle
among them. Two documents that inherit from the same one make no cycle.
-/

namespace BundleAudit.Profile

open BundleAudit.FileSystem Relation

variable {presets t : Tree}

/-! ## The graph -/

/-- A document inherits directly from another one. -/
def Inherits (presets t : Tree) (origin parent : Origin) : Prop :=
  ∃ ref d r d', readReference presets t ref = .ok (origin, d) ∧ r ∈ d.references ∧
    readReference presets t r = .ok (parent, d')

/-- The references that are followed from one. -/
inductive LeadsTo (presets t : Tree) : Reference → Reference → Prop
  | refl {ref} : LeadsTo presets t ref ref
  | parent {ref origin d r r'} :
    readReference presets t ref = .ok (origin, d) → r ∈ d.references → LeadsTo presets t r r' →
      LeadsTo presets t ref r'

/-- Every document that a reference leads to exists and is valid. -/
def AllValid (presets t : Tree) (ref : Reference) : Prop :=
  ∀ r, LeadsTo presets t ref r → ∃ origin d, readReference presets t r = .ok (origin, d) ∧ d.isValid

/-- A document that a reference leads to inherits from itself, directly or through others. -/
def HasCycle (presets t : Tree) (ref : Reference) : Prop :=
  ∃ start d, readReference presets t ref = .ok (start, d) ∧
    ∃ origin, ReflTransGen (Inherits presets t) start origin ∧ TransGen (Inherits presets t) origin origin

theorem AllValid.parent {ref r : Reference} {origin : Origin} {d : Draft} (valid : AllValid presets t ref)
    (read : readReference presets t ref = .ok (origin, d)) (listed : r ∈ d.references) :
    AllValid presets t r :=
  fun r' leads => valid r' (.parent read listed leads)

theorem draft_unique {ref ref' : Reference} {origin : Origin} {d d' : Draft}
    (h : readReference presets t ref = .ok (origin, d))
    (h' : readReference presets t ref' = .ok (origin, d')) : d = d' := by
  obtain ⟨bytes, found, read⟩ := readReference_eq_ok h
  obtain ⟨bytes', found', read'⟩ := readReference_eq_ok h'
  have same : bytes = bytes' := by
    cases ref with
    | preset name =>
      obtain ⟨rfl, -⟩ := find_preset found
      cases ref' with
      | preset name' =>
        obtain ⟨eq, -⟩ := find_preset found'
        obtain rfl : name = name' := by simpa using eq
        simpa [found] using found'
      | file path' => simpa using (find_file found').choose_spec.1
    | file path =>
      obtain ⟨place, rfl, entry⟩ := find_file found
      cases ref' with
      | preset name' => simpa using (find_preset found').1
      | file path' =>
        obtain ⟨place', eq, entry'⟩ := find_file found'
        obtain rfl : place = place' := by simpa using eq
        simpa [entry] using entry'
  subst same
  simpa [read] using read'

/-- The edges from a document that has been read are its references. -/
theorem Inherits.exists_reference {ref : Reference} {origin parent : Origin} {d : Draft}
    (read : readReference presets t ref = .ok (origin, d)) (edge : Inherits presets t origin parent) :
    ∃ r ∈ d.references, ∃ d', readReference presets t r = .ok (parent, d') := by
  obtain ⟨ref', d₀, r, d', read', listed, readParent⟩ := edge
  obtain rfl := draft_unique read read'
  exact ⟨r, listed, d', readParent⟩

/-! ## The search -/

/-- No document from here on is on the chain or inherits from itself. -/
def Clear (presets t : Tree) (chain : List Origin) (origin : Origin) : Prop :=
  ∀ o, ReflTransGen (Inherits presets t) origin o → o ∉ chain ∧ ¬ TransGen (Inherits presets t) o o

/-- A document from here on is on the chain or inherits from itself. -/
def Caught (presets t : Tree) (chain : List Origin) (origin o : Origin) : Prop :=
  ReflTransGen (Inherits presets t) origin o ∧ (o ∈ chain ∨ TransGen (Inherits presets t) o o)

/-- A document is clear if all its parents are clear with the document itself on the chain. -/
theorem clear_of_parents {chain : List Origin} {origin : Origin} (new : origin ∉ chain)
    (parents : ∀ parent, Inherits presets t origin parent →
      Clear presets t (origin :: chain) parent) : Clear presets t chain origin := by
  intro o reach
  rcases ReflTransGen.cases_head reach with rfl | ⟨parent, edge, rest⟩
  · refine ⟨new, fun cycle => ?_⟩
    obtain ⟨parent, edge, back⟩ := TransGen.head'_iff.mp cycle
    exact (parents parent edge origin back).1 (by simp)
  · obtain ⟨off, acyclic⟩ := parents parent edge o rest
    exact ⟨fun mem => off (List.mem_cons_of_mem _ mem), acyclic⟩

/-- What is caught behind a parent is caught behind the document. -/
theorem Caught.of_parent {chain : List Origin} {origin parent o : Origin}
    (edge : Inherits presets t origin parent) (caught : Caught presets t (origin :: chain) parent o) :
    Caught presets t chain origin o := by
  obtain ⟨reach, onChain | cycle⟩ := caught
  · rcases List.mem_cons.mp onChain with rfl | mem
    · exact ⟨.refl, .inr (.head' edge reach)⟩
    · exact ⟨.head edge reach, .inl mem⟩
  · exact ⟨.head edge reach, .inr cycle⟩

/-- Loading ends with a profile if the documents are clear, and else with one that is caught. -/
theorem loadReference_clear_or_caught (chain : List Origin) (ref : Reference)
    (valid : AllValid presets t ref) :
    ∃ origin d, readReference presets t ref = .ok (origin, d) ∧
      ((∃ p, loadReference presets t chain ref = .ok p ∧ Clear presets t chain origin) ∨
        ∃ o, loadReference presets t chain ref = .error (.circular o) ∧
          Caught presets t chain origin o) := by
  induction chain, ref using loadReference.induct presets t with
  | case1 chain ref e read =>
    obtain ⟨origin, d, ok, -⟩ := valid ref .refl
    simp [read] at ok
  | case2 chain ref origin d read mem =>
    exact ⟨origin, d, read, .inr ⟨origin, loadReference_circular read mem, .refl, .inl mem⟩⟩
  | case3 chain ref origin d read new ih =>
    refine ⟨origin, d, read, ?_⟩
    rw [loadReference_resolve read new]
    obtain ⟨origin', d', read', validHere⟩ := valid ref .refl
    obtain ⟨rfl, rfl⟩ : origin = origin' ∧ d = d' := by simpa [read] using read'
    rcases Draft.resolve_of_isValid validHere (loadReference presets t (origin :: chain)) with
      ⟨p, eq, all⟩ | ⟨r, listed, e, failed, eq⟩
    · refine .inl ⟨p, eq, clear_of_parents new fun parent edge => ?_⟩
      obtain ⟨r, listed, d', readParent⟩ := edge.exists_reference read
      obtain ⟨p', loaded⟩ := all r listed
      obtain ⟨parent', d'', readParent', ⟨_, -, clear⟩ | ⟨o, circular, -⟩⟩ :=
        ih r listed (valid.parent read listed)
      · obtain rfl : parent = parent' := by simp_all
        exact clear
      · simp [loaded] at circular
    · obtain ⟨parent, d', readParent, ⟨p, loaded, -⟩ | ⟨o, circular, caught⟩⟩ :=
        ih r listed (valid.parent read listed)
      · simp [failed] at loaded
      · obtain rfl : e = .circular o := by simpa [failed] using circular
        exact .inr ⟨o, eq, caught.of_parent ⟨ref, d, r, d', read, listed, readParent⟩⟩

/-- Loading a profile comes to an end: the path has one run, whatever stands in the files and presets. If
all documents that it leads to exist and are valid, the end is the error of circular inheritance exactly
if one of them inherits from itself, and otherwise a profile. -/
theorem load_ends_and_finds_cycles (presets t : Tree) (path : String) :
    Loads presets t [] (.file path) (load t path presets) [] ∧
    (∀ result chain', Loads presets t [] (.file path) result chain' → result = load t path presets) ∧
    (AllValid presets t (.file path) →
      ((∃ origin, load t path presets = .error (.circular origin)) ↔ HasCycle presets t (.file path)) ∧
      (¬ HasCycle presets t (.file path) → ∃ p, load t path presets = .ok p)) := by
  refine ⟨loads_loadReference [] (.file path), fun result chain' run => run.eq.1, fun valid => ?_⟩
  obtain ⟨origin, d, read, ⟨p, eq, clear⟩ | ⟨o, eq, reach, onChain | cycle⟩⟩ :=
    loadReference_clear_or_caught [] (.file path) valid
  · have acyclic : ¬ HasCycle presets t (.file path) := by
      rintro ⟨start, d', read', o, reach, cycle⟩
      obtain rfl : origin = start := by simp_all
      exact (clear o reach).2 cycle
    refine ⟨iff_of_false ?_ acyclic, fun _ => ⟨p, eq⟩⟩
    rintro ⟨o, circular⟩
    exact absurd (eq.symm.trans circular) (by simp)
  · simp at onChain
  · have circular : HasCycle presets t (.file path) := ⟨origin, d, read, o, reach, cycle⟩
    exact ⟨iff_of_true ⟨o, eq⟩ circular, fun acyclic => absurd circular acyclic⟩

/-- A document that names itself by another path. -/
def loopBytes : List UInt8 := "\"inherit\": \"d/../a\"".toList.map (·.toNat.toUInt8)

/-- A tree with one document, beside a directory. -/
def loopTree (bytes : List UInt8) : Tree where
  entries := [(["w", "a"], .file bytes), (["w", "d"], .directory)]
  workingDirectory := ["w"]

theorem loopTree_find {ref : Reference} (h : ref = .file "a" ∨ ref = .file "d/../a")
    (bytes : List UInt8) : find presets (loopTree bytes) ref = .ok (.file ["w", "a"], bytes) := by
  rcases h with rfl | rfl <;> cbv

theorem loopTree_read (presets : Tree) {ref : Reference} (h : ref = .file "a" ∨ ref = .file "d/../a") :
    ∃ d, readReference presets (loopTree loopBytes) ref = .ok (.file ["w", "a"], d) ∧ d.isValid ∧
      d.references = [.file "d/../a"] := by
  have drafted : (Draft.ofBytes loopBytes).toOption.map (fun d => (d.isValid, d.references)) =
      some (true, [.file "d/../a"]) := by decide +kernel
  cases read : Draft.ofBytes loopBytes with
  | error e => simp [read, Except.toOption] at drafted
  | ok d =>
    obtain ⟨valid, listed⟩ : d.isValid ∧ d.references = [.file "d/../a"] := by
      simpa [read, Except.toOption] using drafted
    refine ⟨d, ?_, valid, listed⟩
    simp [readReference, loopTree_find h, read, bind, Except.bind, pure, Except.pure]

theorem loopTree_leadsTo {ref r : Reference} (leads : LeadsTo presets (loopTree loopBytes) ref r)
    (h : ref = .file "a" ∨ ref = .file "d/../a") : r = .file "a" ∨ r = .file "d/../a" := by
  induction leads with
  | refl => exact h
  | parent read listed _ ih =>
    obtain ⟨d, read', -, only⟩ := loopTree_read presets h
    obtain ⟨rfl, rfl⟩ : _ = Origin.file ["w", "a"] ∧ _ = d := by simpa [read] using read'
    exact ih (.inr (by simpa [only] using listed))

theorem load_ends_and_finds_cycles_of_loop :
    AllValid presetTree (loopTree loopBytes) (.file "a") ∧
      ∃ origin, load (loopTree loopBytes) "a" = .error (.circular origin) := by
  have valid : AllValid presetTree (loopTree loopBytes) (.file "a") := fun r leads =>
    let ⟨d, read, ok, _⟩ := loopTree_read _ (loopTree_leadsTo leads (.inl rfl))
    ⟨_, d, read, ok⟩
  obtain ⟨d, read, -, listed⟩ := loopTree_read presetTree (.inl rfl)
  obtain ⟨d', read', -, -⟩ := loopTree_read presetTree (.inr rfl)
  have edge : Inherits presetTree (loopTree loopBytes) (.file ["w", "a"]) (.file ["w", "a"]) :=
    ⟨_, d, _, d', read, by simp [listed], read'⟩
  obtain ⟨-, -, verdict⟩ := load_ends_and_finds_cycles presetTree (loopTree loopBytes) "a"
  exact ⟨valid, (verdict valid).1.mpr ⟨_, d, read, _, .refl, .single edge⟩⟩

end BundleAudit.Profile

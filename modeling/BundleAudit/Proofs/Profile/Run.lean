import BundleAudit.Profile.Loading
import BundleAudit.Proofs.Profile.Validity

/-!
# Runs of loading

The runs that load a profile share one chain of documents. A run puts a document on the chain, loads the
parents in order and takes the document off again, also after an error. Every reference has exactly one
run, which ends with what loading gives and leaves the chain as it was.
-/

namespace BundleAudit.Profile

open BundleAudit.FileSystem

mutual

/-- A run that loads a reference: the chain before, the result, and the chain behind. -/
inductive Loads (presets t : Tree) :
    List Origin → Reference → Except ProfileError Profile → List Origin → Prop
  | unread {chain ref e} :
    readReference presets t ref = .error e → Loads presets t chain ref (.error e) chain
  | circular {chain ref origin d} :
    readReference presets t ref = .ok (origin, d) → origin ∈ chain →
      Loads presets t chain ref (.error (.circular origin)) chain
  | resolved {chain ref origin d result chain'} :
    readReference presets t ref = .ok (origin, d) → origin ∉ chain →
      Resolves presets t (origin :: chain) d result chain' →
      Loads presets t chain ref result (chain'.erase origin)

/-- A run that resolves a document, which is on the chain. -/
inductive Resolves (presets t : Tree) :
    List Origin → Draft → Except ProfileError Profile → List Origin → Prop
  | unknownKeys {chain d e} : d.checkKeys = .error e → Resolves presets t chain d (.error e) chain
  | noParents {chain d e} :
    d.checkKeys = .ok () → d.parents = .error e → Resolves presets t chain d (.error e) chain
  | failed {chain d items e chain'} :
    d.checkKeys = .ok () → d.parents = .ok items →
      LoadsParents presets t chain items (.error e) chain' →
      Resolves presets t chain d (.error e) chain'
  | built {chain d items parents chain'} :
    d.checkKeys = .ok () → d.parents = .ok items →
      LoadsParents presets t chain items (.ok parents) chain' →
      Resolves presets t chain d (d.build parents) chain'

/-- A run that loads parents one after the other, up to the first error. -/
inductive LoadsParents (presets t : Tree) :
    List Origin → List (Except ProfileError String) → Except ProfileError (List (String × Profile)) →
      List Origin → Prop
  | nil {chain} : LoadsParents presets t chain [] (.ok []) chain
  | foreign {chain e items} : LoadsParents presets t chain (.error e :: items) (.error e) chain
  | failed {chain name items e chain'} :
    Loads presets t chain (.ofString name) (.error e) chain' →
      LoadsParents presets t chain (.ok name :: items) (.error e) chain'
  | cons {chain name items p chain' result chain''} :
    Loads presets t chain (.ofString name) (.ok p) chain' →
      LoadsParents presets t chain' items result chain'' →
      LoadsParents presets t chain (.ok name :: items) (result.map ((name, p) :: ·)) chain''

end

variable {presets t : Tree}

/-! ## Equations of loading -/

theorem loadReference_unread {chain : List Origin} {ref : Reference} {e : ProfileError}
    (read : readReference presets t ref = .error e) : loadReference presets t chain ref = .error e := by
  rw [loadReference]
  split <;> simp_all

theorem loadReference_circular {chain : List Origin} {ref : Reference} {origin : Origin} {d : Draft}
    (read : readReference presets t ref = .ok (origin, d)) (mem : origin ∈ chain) :
    loadReference presets t chain ref = .error (.circular origin) := by
  rw [loadReference]
  split <;> simp_all

theorem loadReference_resolve {chain : List Origin} {ref : Reference} {origin : Origin} {d : Draft}
    (read : readReference presets t ref = .ok (origin, d)) (new : origin ∉ chain) :
    loadReference presets t chain ref =
      d.resolve fun parent _ => loadReference presets t (origin :: chain) parent := by
  rw [loadReference]
  split
  · simp_all
  · next origin' d' read' =>
    obtain ⟨rfl, rfl⟩ : origin = origin' ∧ d = d' := by simpa [read] using read'
    simp [new]

/-! ## Each reference has a run -/

theorem loadsParents_mapM (load : Reference → Except ProfileError Profile) {chain : List Origin} :
    ∀ {items : List (Except ProfileError String)},
      (∀ name, .ok name ∈ items →
        Loads presets t chain (.ofString name) (load (.ofString name)) chain) →
      LoadsParents presets t chain items (items.mapM (Draft.loadParent load)) chain
  | [], _ => .nil
  | .error e :: items, _ => .foreign
  | .ok name :: items, runs => by
    have head := runs name (by simp)
    have tail := loadsParents_mapM load fun n mem => runs n (List.mem_cons_of_mem _ mem)
    rw [List.mapM_cons, Draft.loadParent_ok]
    cases result : load (.ofString name) with
    | error e =>
      rw [result] at head
      exact .failed head
    | ok p =>
      rw [result] at head
      have run := LoadsParents.cons head tail
      cases rest : items.mapM (Draft.loadParent load) <;> rw [rest] at run <;> exact run

theorem resolves_resolve {chain : List Origin} {d : Draft}
    {load : Reference → Except ProfileError Profile}
    (runs : ∀ r ∈ d.references, Loads presets t chain r (load r) chain) :
    Resolves presets t chain d (d.resolve fun r _ => load r) chain := by
  unfold Draft.resolve
  cases keys : d.checkKeys with
  | error e => exact .unknownKeys keys
  | ok _ =>
    cases parents : d.parents with
    | error e =>
      rw [Draft.loadParents_error parents]
      exact .noParents keys parents
    | ok items =>
      have run := loadsParents_mapM _ fun name mem => runs _ (Draft.mem_references parents mem)
      rw [Draft.loadParents_eq parents]
      cases result : items.mapM (Draft.loadParent load) with
      | error e => exact .failed keys parents (result ▸ run)
      | ok loaded => exact .built keys parents (result ▸ run)

/-- Loading comes to an end, and leaves the chain as it was. -/
theorem loads_loadReference (chain : List Origin) (ref : Reference) :
    Loads presets t chain ref (loadReference presets t chain ref) chain := by
  induction chain, ref using loadReference.induct presets t with
  | case1 chain ref e read =>
    rw [loadReference_unread read]
    exact .unread read
  | case2 chain ref origin d read mem =>
    rw [loadReference_circular read mem]
    exact .circular read mem
  | case3 chain ref origin d read new ih =>
    have run := Loads.resolved read new (resolves_resolve ih)
    rwa [List.erase_cons_head, ← loadReference_resolve read new] at run

/-! ## A reference has no other run -/

mutual

theorem Loads.eq {chain chain' : List Origin} {ref : Reference} {result : Except ProfileError Profile} :
    Loads presets t chain ref result chain' →
      result = loadReference presets t chain ref ∧ chain' = chain
  | .unread read => ⟨(loadReference_unread read).symm, rfl⟩
  | .circular read mem => ⟨(loadReference_circular read mem).symm, rfl⟩
  | .resolved read new run => by
    obtain ⟨rfl, rfl⟩ := run.eq
    exact ⟨(loadReference_resolve read new).symm, List.erase_cons_head ..⟩

theorem Resolves.eq {chain chain' : List Origin} {d : Draft} {result : Except ProfileError Profile} :
    Resolves presets t chain d result chain' →
      result = d.resolve (fun r _ => loadReference presets t chain r) ∧ chain' = chain
  | .unknownKeys keys => ⟨by rw [Draft.resolve, keys]; rfl, rfl⟩
  | .noParents keys parents => ⟨by rw [Draft.resolve, keys, Draft.loadParents_error parents]; rfl, rfl⟩
  | .failed keys parents run => by
    obtain ⟨eq, rfl⟩ := run.eq
    exact ⟨by rw [Draft.resolve, keys, Draft.loadParents_eq parents, ← eq]; rfl, rfl⟩
  | .built keys parents run => by
    obtain ⟨eq, rfl⟩ := run.eq
    exact ⟨by rw [Draft.resolve, keys, Draft.loadParents_eq parents, ← eq]; rfl, rfl⟩

theorem LoadsParents.eq {chain chain' : List Origin} {items : List (Except ProfileError String)}
    {result : Except ProfileError (List (String × Profile))} :
    LoadsParents presets t chain items result chain' →
      result = items.mapM (Draft.loadParent (loadReference presets t chain)) ∧ chain' = chain
  | .nil => ⟨rfl, rfl⟩
  | .foreign => ⟨rfl, rfl⟩
  | .failed run => by
    obtain ⟨eq, rfl⟩ := run.eq
    exact ⟨by rw [List.mapM_cons, Draft.loadParent_ok, ← eq]; rfl, rfl⟩
  | .cons head tail => by
    obtain ⟨eq, rfl⟩ := head.eq
    obtain ⟨rfl, rfl⟩ := tail.eq
    refine ⟨?_, rfl⟩
    rw [List.mapM_cons, Draft.loadParent_ok, ← eq]
    rfl

end

end BundleAudit.Profile

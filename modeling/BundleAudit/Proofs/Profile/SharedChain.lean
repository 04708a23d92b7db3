import BundleAudit.Proofs.Profile.Run
import Mathlib.Data.Finset.Basic
import Mathlib.Data.Finset.Dedup
import Mathlib.Data.Finset.Lattice.Lemmas
import Mathlib.Logic.Relation

/-!
# The chain that loading shares

All calls of a loading share one set of keys, and change it as they go: a document that is met again is refused
before its key is added, and every other document adds its key when it is entered and takes it off on its way out,
with a profile or with an error. `loadReference` hands every call a chain of its own instead; `step?` shares the set and
goes step by step, with the documents that are being resolved on a stack.

What one step may do to the stack and the set is said once (`Change.of_step?`). So at every moment of a call
the set holds what it held at the start, and beside it the keys of the documents on the stack, no key twice
(`Balanced`). Each call ends, with what loading gives, and leaves the set as it found it (`chain_restored`).
-/

namespace BundleAudit.Profile.SharedChain

open BundleAudit.FileSystem Relation

/-! ## Steps -/

/-- A document that is being resolved: the key that it has added, if it has one, the parents that have been
loaded, the latest first, and those that are still to be loaded. -/
structure Frame where
  key : Option Origin
  draft : Draft
  loaded : List (String × Profile)
  waiting : List (Except ProfileError String)

/-- The next parent has been loaded. -/
def Frame.take (f : Frame) (p : Profile) : Frame :=
  match f.waiting with
  | .ok name :: rest => { f with loaded := (name, p) :: f.loaded, waiting := rest }
  | _ => f

/-- What can be loaded: a reference, or a document under the key that it is known by, if there is one. -/
inductive Call
  | reference (ref : Reference)
  | document (key : Option Origin) (d : Draft)

/-- What is done next. -/
inductive Task
  | call (c : Call)
  /-- The document on top of the stack goes on to its next parent. -/
  | parents
  /-- The document on top of the stack has been resolved or has failed. -/
  | leave (result : Except ProfileError Profile)
  /-- A call has ended. -/
  | ended (result : Except ProfileError Profile)

structure State where
  task : Task
  stack : List Frame
  chain : Finset Origin

/-- The keys of the documents that are being resolved, the innermost first. -/
def State.keys (s : State) : List Origin := s.stack.filterMap (·.key)

def put (key : Option Origin) (chain : Finset Origin) : Finset Origin := key.elim chain (insert · chain)

def takeOff (key : Option Origin) (chain : Finset Origin) : Finset Origin := key.elim chain chain.erase

/-- The parents of a document whose keys are known. -/
def listed (d : Draft) : Except ProfileError (List (Except ProfileError String)) := do
  d.checkKeys
  d.parents

/-- Adds the key of a document and starts to resolve it. -/
def enter (key : Option Origin) (d : Draft) (stack : List Frame) (chain : Finset Origin) : State :=
  match listed d with
  | .error e => ⟨.leave (.error e), ⟨key, d, [], []⟩ :: stack, put key chain⟩
  | .ok items => ⟨.parents, ⟨key, d, [], items⟩ :: stack, put key chain⟩

/-- What a document is refused for before it is entered. -/
def refusal? (key : Option Origin) (chain : Finset Origin) : Option ProfileError :=
  (key.filter (· ∈ chain)).map .circular

/-- One step of loading; none if the first call has ended. -/
def step? (presets t : Tree) : State → Option State
  | ⟨.call (.reference ref), stack, chain⟩ =>
    match readReference presets t ref with
    | .error e => some ⟨.ended (.error e), stack, chain⟩
    | .ok (origin, d) => some ⟨.call (.document origin d), stack, chain⟩
  | ⟨.call (.document key d), stack, chain⟩ =>
    match refusal? key chain with
    | some e => some ⟨.ended (.error e), stack, chain⟩
    | none => some (enter key d stack chain)
  | ⟨.parents, f :: below, chain⟩ =>
    match f.waiting with
    | [] => some ⟨.leave (f.draft.build f.loaded.reverse), f :: below, chain⟩
    | .error e :: _ => some ⟨.leave (.error e), f :: below, chain⟩
    | .ok name :: _ => some ⟨.call (.reference (.ofString name)), f :: below, chain⟩
  | ⟨.leave result, f :: below, chain⟩ => some ⟨.ended result, below, takeOff f.key chain⟩
  | ⟨.ended (.ok p), f :: below, chain⟩ => some ⟨.parents, f.take p :: below, chain⟩
  | ⟨.ended (.error e), f :: below, chain⟩ => some ⟨.leave (.error e), f :: below, chain⟩
  | ⟨_, [], _⟩ => none

/-- Steps lead from one state to another. -/
def Leads (presets t : Tree) : State → State → Prop := ReflTransGen fun s s' => step? presets t s = some s'

variable {presets t : Tree}

/-! ## What a step changes -/

/-- What a step may do to the keys on the stack and to the chain: nothing, or it adds a new key to both, or it
takes the key of the innermost document off both. -/
inductive Change (s s' : State) : Prop
  | kept : s'.keys = s.keys → s'.chain = s.chain → Change s s'
  | added (key : Origin) : key ∉ s.chain → s'.keys = key :: s.keys → s'.chain = insert key s.chain → Change s s'
  | removed (key : Origin) : s.keys = key :: s'.keys → s'.chain = s.chain.erase key → Change s s'

theorem key_take (f : Frame) (p : Profile) : (f.take p).key = f.key := by
  unfold Frame.take
  split <;> rfl

theorem refusal?_eq_none {key : Option Origin} {chain : Finset Origin} :
    refusal? key chain = none ↔ ∀ origin ∈ key, origin ∉ chain := by
  cases key with
  | none => simp [refusal?]
  | some origin => by_cases mem : origin ∈ chain <;> simp [refusal?, Option.filter, mem]

theorem enter_facts (key : Option Origin) (d : Draft) (stack : List Frame) (chain : Finset Origin) :
    (enter key d stack chain).keys = key.toList ++ stack.filterMap (·.key) ∧
      (enter key d stack chain).chain = put key chain := by
  unfold enter
  split <;> cases key <;> simp [State.keys]

theorem Change.of_enter {key : Option Origin} {chain : Finset Origin} (accepted : refusal? key chain = none)
    (c : Task) (d : Draft) (stack : List Frame) : Change ⟨c, stack, chain⟩ (enter key d stack chain) := by
  obtain ⟨keys, chain_eq⟩ := enter_facts key d stack chain
  cases key with
  | none => exact .kept keys chain_eq
  | some origin => exact .added origin (refusal?_eq_none.1 accepted origin rfl) keys chain_eq

theorem Change.of_leave (result : Except ProfileError Profile) (f : Frame) (below : List Frame)
    (chain : Finset Origin) :
    Change ⟨.leave result, f :: below, chain⟩ ⟨.ended result, below, takeOff f.key chain⟩ := by
  obtain ⟨key, d, loaded, waiting⟩ := f
  cases key with
  | none => exact .kept rfl rfl
  | some origin => exact .removed origin rfl rfl

theorem Change.of_step? {s s' : State} (h : step? presets t s = some s') : Change s s' := by
  obtain ⟨task, stack, chain⟩ := s
  cases task with
  | call c =>
    cases c with
    | reference ref =>
      simp only [step?] at h
      split at h
      · cases h; exact .kept rfl rfl
      · cases h; exact .kept rfl rfl
    | document key d =>
      simp only [step?] at h
      split at h
      · cases h; exact .kept rfl rfl
      · next accepted => cases h; exact .of_enter accepted _ d stack
  | parents =>
    cases stack with
    | nil => cases h
    | cons f below =>
      simp only [step?] at h
      split at h
      · cases h; exact .kept rfl rfl
      · cases h; exact .kept rfl rfl
      · cases h; exact .kept rfl rfl
  | leave result =>
    cases stack with
    | nil => cases h
    | cons f below => cases h; exact .of_leave result f below chain
  | ended result =>
    cases stack with
    | nil => cases result <;> cases h
    | cons f below =>
      cases result with
      | ok p => cases h; exact .kept (by simp [State.keys, List.filterMap_cons, key_take]) rfl
      | error e => cases h; exact .kept rfl rfl

/-! ## The chain at every moment -/

/-- The chain holds what it held at the start, and beside it the keys of the documents that are being
resolved, each once. -/
structure Balanced (start : Finset Origin) (s : State) : Prop where
  chain_eq : s.chain = start ∪ s.keys.toFinset
  nodup : s.keys.Nodup
  fresh : ∀ key ∈ s.keys, key ∉ start

theorem Balanced.step {start : Finset Origin} {s s' : State} (b : Balanced start s)
    (h : step? presets t s = some s') : Balanced start s' := by
  have mem_chain (key : Origin) : key ∈ s.chain ↔ key ∈ start ∨ key ∈ s.keys := by
    rw [b.chain_eq, Finset.mem_union, List.mem_toFinset]
  cases Change.of_step? h with
  | kept keys chain =>
    refine ⟨?_, ?_, ?_⟩
    · rw [chain, keys]; exact b.chain_eq
    · rw [keys]; exact b.nodup
    · rw [keys]; exact b.fresh
  | added key new keys chain =>
    have off : key ∉ start ∧ key ∉ s.keys := by
      rw [mem_chain] at new
      exact not_or.1 new
    refine ⟨?_, ?_, ?_⟩
    · rw [chain, keys, b.chain_eq, List.toFinset_cons, Finset.union_insert]
    · rw [keys]; exact List.nodup_cons.2 ⟨off.2, b.nodup⟩
    · rw [keys]; exact List.forall_mem_cons.2 ⟨off.1, b.fresh⟩
  | removed key keys chain =>
    have nodup := b.nodup
    have fresh := b.fresh
    rw [keys] at nodup fresh
    obtain ⟨gone, nodup⟩ := List.nodup_cons.1 nodup
    obtain ⟨off, fresh⟩ := List.forall_mem_cons.1 fresh
    refine ⟨?_, nodup, fresh⟩
    have off : key ∉ start ∪ s'.keys.toFinset := by
      simp [off, gone]
    rw [chain, b.chain_eq, keys, List.toFinset_cons, Finset.union_insert, Finset.erase_insert off]

theorem Balanced.leads {start : Finset Origin} {s s' : State} (b : Balanced start s)
    (h : Leads presets t s s') : Balanced start s' := by
  induction h with
  | refl => exact b
  | tail _ step ih => exact ih.step step

theorem balanced_call (start : Finset Origin) (c : Call) : Balanced start ⟨.call c, [], start⟩ :=
  ⟨by simp [State.keys], List.nodup_nil, by simp [State.keys]⟩

/-! ## The end of a call -/

/-- What a call gives if the documents on `chain` are being resolved. -/
def Call.result (presets t : Tree) (chain : List Origin) : Call → Except ProfileError Profile
  | .reference ref => loadReference presets t chain ref
  | .document none d => d.resolve fun r _ => loadReference presets t chain r
  | .document (some key) d =>
    if key ∈ chain then .error (.circular key)
    else d.resolve fun r _ => loadReference presets t (key :: chain) r

/-- A call ends, with the stack and the chain as they were. -/
def Ends (presets t : Tree) (c : Call) (result : Except ProfileError Profile) (chain : Finset Origin) : Prop :=
  ∀ stack, Leads presets t ⟨.call c, stack, chain⟩ ⟨.ended result, stack, chain⟩

theorem Leads.of_step? {s s' s'' : State} (step : step? presets t s = some s') (h : Leads presets t s' s'') :
    Leads presets t s s'' :=
  ReflTransGen.head step h

theorem Leads.trans {s s' s'' : State} (h : Leads presets t s s') (h' : Leads presets t s' s'') :
    Leads presets t s s'' :=
  ReflTransGen.trans h h'

theorem takeOff_put {key : Option Origin} {chain : Finset Origin} (accepted : refusal? key chain = none) :
    takeOff key (put key chain) = chain := by
  cases key with
  | none => rfl
  | some origin => exact Finset.erase_insert (refusal?_eq_none.1 accepted origin rfl)

/-- A document whose parents end is left with what is built of them, or with the error of the first that fails. -/
theorem leads_of_parents (load : Reference → Except ProfileError Profile) (key : Option Origin) (d : Draft)
    (below : List Frame) (chain : Finset Origin) : ∀ (items : List (Except ProfileError String))
    (loaded : List (String × Profile)),
    (∀ name, .ok name ∈ items → Ends presets t (.reference (.ofString name)) (load (.ofString name)) chain) →
    Leads presets t ⟨.parents, ⟨key, d, loaded, items⟩ :: below, chain⟩
      ⟨.ended ((items.mapM (Draft.loadParent load)).bind fun more => d.build (loaded.reverse ++ more)), below,
        takeOff key chain⟩
  | [], loaded, _ => by
    have last : Leads presets t ⟨.parents, ⟨key, d, loaded, []⟩ :: below, chain⟩
        ⟨.ended (d.build loaded.reverse), below, takeOff key chain⟩ :=
      .of_step? rfl (.of_step? rfl .refl)
    simpa [Except.bind, pure, Except.pure] using last
  | .error e :: items, loaded, _ => .of_step? rfl (.of_step? rfl .refl)
  | .ok name :: items, loaded, ends => by
    have called : Leads presets t ⟨.parents, ⟨key, d, loaded, .ok name :: items⟩ :: below, chain⟩
        ⟨.ended (load (.ofString name)), ⟨key, d, loaded, .ok name :: items⟩ :: below, chain⟩ :=
      .of_step? rfl (ends name List.mem_cons_self _)
    rw [List.mapM_cons, Draft.loadParent_ok]
    cases result : load (.ofString name) with
    | error e =>
      rw [result] at called
      exact called.trans (.of_step? rfl (.of_step? rfl .refl))
    | ok p =>
      rw [result] at called
      have rest := leads_of_parents load key d below chain items ((name, p) :: loaded) fun n mem =>
        ends n (List.mem_cons_of_mem _ mem)
      have all := called.trans (.of_step? rfl rest)
      cases tail : items.mapM (Draft.loadParent load) <;>
        simpa [tail, Except.map, bind, Except.bind, pure, Except.pure] using all

theorem ends_document {key : Option Origin} {d : Draft} {chain : Finset Origin}
    {load : Reference → Except ProfileError Profile} (accepted : refusal? key chain = none)
    (ends : ∀ r ∈ d.references, Ends presets t (.reference r) (load r) (put key chain)) :
    Ends presets t (.document key d) (d.resolve fun r _ => load r) chain := by
  intro stack
  have entered : step? presets t ⟨.call (.document key d), stack, chain⟩ = some (enter key d stack chain) := by
    simp only [step?, accepted]
  refine .of_step? entered ?_
  unfold enter listed Draft.resolve
  cases keys : d.checkKeys with
  | error e =>
    have left : Leads presets t ⟨.leave (.error e), ⟨key, d, [], []⟩ :: stack, put key chain⟩
        ⟨.ended (.error e), stack, takeOff key (put key chain)⟩ := .of_step? rfl .refl
    rw [takeOff_put accepted] at left
    exact left
  | ok _ =>
    cases parents : d.parents with
    | error e =>
      have left : Leads presets t ⟨.leave (.error e), ⟨key, d, [], []⟩ :: stack, put key chain⟩
          ⟨.ended (.error e), stack, takeOff key (put key chain)⟩ := .of_step? rfl .refl
      rw [takeOff_put accepted] at left
      rw [Draft.loadParents_error parents]
      exact left
    | ok items =>
      have resolved := leads_of_parents load key d stack (put key chain) items [] fun name mem =>
        ends _ (Draft.mem_references parents mem)
      rw [takeOff_put accepted] at resolved
      rw [Draft.loadParents_eq parents]
      exact resolved

theorem ends_reference (chain : List Origin) (ref : Reference) : ∀ set : Finset Origin,
    (∀ o, o ∈ set ↔ o ∈ chain) → Ends presets t (.reference ref) (loadReference presets t chain ref) set := by
  induction chain, ref using loadReference.induct presets t with
  | case1 chain ref e read =>
    intro set _ stack
    rw [loadReference_unread read]
    refine .of_step? ?_ .refl
    simp only [step?, read]
  | case2 chain ref origin d read mem =>
    intro set same stack
    rw [loadReference_circular read mem]
    have called : step? presets t ⟨.call (.reference ref), stack, set⟩ =
        some ⟨.call (.document (some origin) d), stack, set⟩ := by
      simp only [step?, read]
    refine .of_step? called (.of_step? ?_ .refl)
    simp [step?, refusal?, Option.filter, (same origin).2 mem]
  | case3 chain ref origin d read new ih =>
    intro set same stack
    rw [loadReference_resolve read new]
    have called : step? presets t ⟨.call (.reference ref), stack, set⟩ =
        some ⟨.call (.document (some origin) d), stack, set⟩ := by
      simp only [step?, read]
    have accepted : refusal? (some origin) set = none := by
      rw [refusal?_eq_none]
      rintro o ⟨⟩ mem
      exact new ((same origin).1 mem)
    refine .of_step? called (ends_document accepted (fun r listed => ?_) stack)
    refine ih r listed _ fun o => ?_
    simp [put, same o]

/-- Every call ends with what loading gives, on whatever stack and chain it is made. -/
theorem ends_call (chain : Finset Origin) (c : Call) :
    Ends presets t c (c.result presets t chain.toList) chain := by
  cases c with
  | reference ref => exact ends_reference _ ref chain fun o => Finset.mem_toList.symm
  | document key d =>
    cases key with
    | none => exact ends_document rfl fun r _ => ends_reference _ r chain fun o => Finset.mem_toList.symm
    | some origin =>
      by_cases mem : origin ∈ chain
      · intro stack
        rw [Call.result, if_pos (Finset.mem_toList.2 mem)]
        refine .of_step? ?_ .refl
        simp [step?, refusal?, Option.filter, mem]
      · have accepted : refusal? (some origin) chain = none := by
          rw [refusal?_eq_none]
          rintro o ⟨⟩ mem'
          exact mem mem'
        rw [Call.result, if_neg (mt Finset.mem_toList.1 mem)]
        refine ends_document accepted fun r _ => ends_reference _ r _ fun o => ?_
        simp [put]

/-- The end of a call comes behind each of its moments. -/
theorem Leads.to_end {s s' last : State} (h : Leads presets t s last) (final : step? presets t last = none)
    (h' : Leads presets t s s') : Leads presets t s' last := by
  have unique : Relator.RightUnique fun s s' => step? presets t s = some s' := by
    intro a b c here there
    rw [here] at there
    exact Option.some.inj there
  rcases ReflTransGen.total_of_right_unique unique h' h with behind | beyond
  · exact behind
  · rcases ReflTransGen.cases_head beyond with rfl | ⟨next, step, -⟩
    · exact .refl
    · rw [final] at step
      cases step

/-- Whatever documents are being resolved above it, a call of a reference or a document comes to its end with the
profile or the error that loading gives, and the chain is then as it was before. At every moment of the call,
and so behind each of its errors, the chain holds what it held before and exactly the keys of the documents that are
being resolved, each once; and from there the call still comes to that end. -/
theorem chain_restored (presets t : Tree) (chain : Finset Origin) (c : Call) :
    (∀ stack, Leads presets t ⟨.call c, stack, chain⟩
      ⟨.ended (c.result presets t chain.toList), stack, chain⟩) ∧
    ∀ s, Leads presets t ⟨.call c, [], chain⟩ s →
      Balanced chain s ∧ Leads presets t s ⟨.ended (c.result presets t chain.toList), [], chain⟩ := by
  have ends : Ends presets t c (c.result presets t chain.toList) chain := ends_call chain c
  refine ⟨ends, fun s reached => ⟨(balanced_call chain c).leads reached, ?_⟩⟩
  refine (ends []).to_end ?_ reached
  cases c.result presets t chain.toList <;> rfl

end BundleAudit.Profile.SharedChain

import BundleAudit.Proofs.Profile.Inheritance
import BundleAudit.Proofs.Profile.Unforeseen
import BundleAudit.Proofs.Profile.Values

/-!
# Parents

Write `D[P, Q]` for the profile of a document that inherits from `P` and `Q` and holds nothing else. As for
its values, which are names, descriptions and parents apart, such documents make up an idempotent monoid:
`D[P]` is `P`, how parents are grouped does not matter, a parent may be repeated, and a parent that has the
default values may be left out.
-/

namespace BundleAudit.Profile

open BundleAudit.FileSystem

variable {presets t : Tree}

/-! ## Loading on another chain -/

namespace Draft

variable {d : Draft} {load load' : Reference → Except ProfileError Profile}

/-- What the listed parents were loaded as. -/
theorem loads_of_loadParents : ∀ {items : List (Except ProfileError String)} {loaded : List (String × Profile)},
    items.mapM (loadParent load) = .ok loaded → ∀ x ∈ loaded, load (.ofString x.1) = .ok x.2
  | [], _, h, x, mem => by
    cases h
    exact absurd mem List.not_mem_nil
  | item :: items, _, h, x, mem => by
    rw [List.mapM_cons] at h
    obtain ⟨parent, first, rest⟩ := eq_ok_of_bind h
    obtain ⟨parents, tail, made⟩ := eq_ok_of_bind rest
    obtain rfl := Except.ok.inj made
    rcases List.mem_cons.1 mem with rfl | mem
    · obtain ⟨name, rfl, made⟩ := eq_ok_of_bind first
      obtain ⟨p, loaded, made⟩ := eq_ok_of_bind made
      obtain rfl := Except.ok.inj made
      exact loaded
    · exact loads_of_loadParents tail x mem

theorem loadParents_of_loads : ∀ {parents : List (String × Profile)},
    (∀ x ∈ parents, load (.ofString x.1) = .ok x.2) →
      ((parents.map (·.1)).map .ok).mapM (loadParent load) = .ok parents
  | [], _ => rfl
  | x :: parents, loads => by
    rw [List.map_cons, List.map_cons, List.mapM_cons, loadParent_ok, loads x List.mem_cons_self,
      loadParents_of_loads fun y mem => loads y (List.mem_cons_of_mem _ mem)]
    rfl

/-- A document is resolved if its keys are known, its parents are loaded, and its values can be set. -/
theorem resolve_eq_ok_iff {p : Profile} :
    d.resolve (fun r _ => load r) = .ok p ↔ ∃ parents : List (String × Profile),
      d.checkKeys = .ok () ∧ d.parents = .ok ((parents.map (·.1)).map .ok) ∧
        (∀ x ∈ parents, load (.ofString x.1) = .ok x.2) ∧ d.build parents = .ok p := by
  unfold resolve
  constructor
  · intro resolved
    obtain ⟨⟨⟩, checked, rest⟩ := eq_ok_of_bind resolved
    obtain ⟨parents, loaded, built⟩ := eq_ok_of_bind rest
    cases listed : d.parents with
    | error e =>
      rw [loadParents_error listed] at loaded
      cases loaded
    | ok items =>
      rw [loadParents_eq listed] at loaded
      exact ⟨parents, checked, congrArg _ (names_of_loadParents loaded), loads_of_loadParents loaded, built⟩
  · rintro ⟨parents, checked, listed, loads, built⟩
    rw [checked, loadParents_eq listed, loadParents_of_loads loads]
    exact built

end Draft

/-- A reference leads to the document of an origin. -/
def Reaches (presets t : Tree) (ref : Reference) (origin : Origin) : Prop :=
  ∃ r d, LeadsTo presets t ref r ∧ readReference presets t r = .ok (origin, d)

/-- A profile that loads on one chain loads on another one as well, unless it leads back to that. -/
theorem loadReference_chain {chain : List Origin} {ref : Reference} {p : Profile}
    (loaded : loadReference presets t chain ref = .ok p) {chain' : List Origin}
    (off : ∀ o ∈ chain', o ∈ chain ∨ ¬ Reaches presets t ref o) : loadReference presets t chain' ref = .ok p := by
  induction chain, ref using loadReference.induct presets t generalizing p chain' with
  | case1 chain ref e read =>
    rw [loadReference_unread read] at loaded
    cases loaded
  | case2 chain ref origin d read mem =>
    rw [loadReference_circular read mem] at loaded
    cases loaded
  | case3 chain ref origin d read new ih =>
    rw [loadReference_resolve read new] at loaded
    have new' : origin ∉ chain' := fun mem =>
      (off origin mem).elim new fun unreached => unreached ⟨ref, d, .refl, read⟩
    rw [loadReference_resolve read new']
    obtain ⟨parents, checked, listed, loads, built⟩ := Draft.resolve_eq_ok_iff.1 loaded
    refine Draft.resolve_eq_ok_iff.2 ⟨parents, checked, listed, fun x mem => ?_, built⟩
    have parent : Reference.ofString x.1 ∈ d.references := by
      rw [Draft.references_eq listed]
      exact List.mem_map_of_mem (List.mem_map_of_mem mem)
    refine ih _ parent (loads x mem) fun o ho => ?_
    rcases List.mem_cons.1 ho with rfl | ho
    · exact .inl List.mem_cons_self
    · refine (off o ho).imp (List.mem_cons_of_mem _) fun unreached => ?_
      rintro ⟨r, d', leads, readHere⟩
      exact unreached ⟨r, d', .parent read parent leads, readHere⟩

/-! ## Documents with parents -/

/-- Parents under the names that they load by. -/
def Listed (presets t : Tree) (parents : List (String × Profile)) : Prop :=
  ∀ x ∈ parents, loadReference presets t [] (.ofString x.1) = .ok x.2

/-- A document, in a file or in none, loads as a profile. -/
inductive Draft.LoadsAs (presets t : Tree) (d : Draft) (p : Profile) : Prop
  | text : d.resolve (fun r _ => loadReference presets t [] r) = .ok p → LoadsAs presets t d p
  | reference {ref origin} :
    readReference presets t ref = .ok (origin, d) → loadReference presets t [] ref = .ok p → LoadsAs presets t d p

section
variable {d : Draft} {p : Profile} {parents : List (String × Profile)}

theorem Draft.LoadsAs.resolve (loads : d.LoadsAs presets t p) :
    d.resolve (fun r _ => loadReference presets t [] r) = .ok p := by
  cases loads with
  | text resolved => exact resolved
  | @reference ref origin read loaded =>
    rw [loadReference_resolve read List.not_mem_nil] at loaded
    obtain ⟨parents, checked, listed, loads, built⟩ := Draft.resolve_eq_ok_iff.1 loaded
    refine Draft.resolve_eq_ok_iff.2 ⟨parents, checked, listed, fun x mem => ?_, built⟩
    exact loadReference_chain (loads x mem) fun o none => absurd none List.not_mem_nil

/-- A document in a file loads like one in none, unless a parent leads back to it. -/
theorem loadReference_of_resolve {ref : Reference} {origin : Origin}
    (read : readReference presets t ref = .ok (origin, d))
    (acyclic : ∀ r ∈ d.references, ¬ Reaches presets t r origin)
    (resolved : d.resolve (fun r _ => loadReference presets t [] r) = .ok p) :
    loadReference presets t [] ref = .ok p := by
  rw [loadReference_resolve read List.not_mem_nil]
  obtain ⟨parents, checked, listed, loads, built⟩ := Draft.resolve_eq_ok_iff.1 resolved
  refine Draft.resolve_eq_ok_iff.2 ⟨parents, checked, listed, fun x mem => ?_, built⟩
  refine loadReference_chain (loads x mem) fun o ho => .inr ?_
  rw [List.mem_singleton.1 ho]
  refine acyclic _ ?_
  rw [Draft.references_eq listed]
  exact List.mem_map_of_mem (List.mem_map_of_mem mem)

theorem Draft.LoadsAs.becomes (loads : d.LoadsAs presets t p) (listed : Listed presets t parents)
    (names : d.parents = .ok ((parents.map (·.1)).map .ok)) : d.Becomes (parents.map (·.2)) p := by
  obtain ⟨parents', -, names', loads', built⟩ := Draft.resolve_eq_ok_iff.1 loads.resolve
  have same : (parents'.map (·.1)).map Except.ok = (parents.map (·.1)).map Except.ok :=
    Except.ok.inj (names'.symm.trans names)
  obtain rfl : parents' = parents := by
    have once := Draft.loadParents_of_loads loads'
    rw [same, Draft.loadParents_of_loads listed] at once
    exact (Except.ok.inj once).symm
  exact Draft.becomes_of_build built

theorem Draft.loadsAs_of_isValid (valid : d.isValid) (listed : Listed presets t parents)
    (names : d.parents = .ok ((parents.map (·.1)).map .ok)) : ∃ p, d.LoadsAs presets t p := by
  obtain ⟨p, built⟩ := Draft.build_of_isValid valid parents
  exact ⟨p, .text (Draft.resolve_eq_ok_iff.2
    ⟨parents, Draft.checkKeys_of_isValid valid, names, listed, built⟩)⟩

end

/-! ## Documents that only inherit -/

namespace Draft

/-- The document inherits from the names and holds nothing else. -/
structure OnlyInherits (d : Draft) (names : List String) : Prop where
  parents : d.parents = .ok (names.map .ok)
  alone : ∀ e ∈ d.entries, e.1 = .str "inherit".toList

variable {d : Draft} {names : List String} (only : d.OnlyInherits names)
include only

theorem OnlyInherits.checkKeys : d.checkKeys = .ok () := by
  have known : (d.entries.map (·.1)).filter isUnknownKey = [] := by
    refine List.filter_eq_nil_iff.2 fun k mem => ?_
    obtain ⟨e, he, rfl⟩ := List.mem_map.1 mem
    rw [only.alone e he]
    decide
  simp only [Draft.checkKeys, known]
  rfl

theorem OnlyInherits.value?_name : d.value? "name" = none := by
  have none : d.entries.find? (fun e => e.1 == .str "name".toList) = none := by
    refine List.find?_eq_none.2 fun e mem => ?_
    rw [only.alone e mem]
    decide
  simp only [value?, none, Option.map_none]

theorem OnlyInherits.own? (key : Key) : d.own? key = none := by
  have none : d.entries.filterMap (d.given? key) = [] := by
    refine List.filterMap_eq_nil_iff.2 fun e mem => ?_
    have here : e = (.str "inherit".toList, e.2) := Prod.ext (only.alone e mem) rfl
    rw [here, given?_of_ne key.name_ne_inherit]
  simp only [Draft.own?, none, List.getLast?_nil]

theorem OnlyInherits.build (parents : List (String × Profile)) : ∃ p, d.build parents = .ok p := by
  have set : ∀ {entries : List (Yaml.Scalar × Yaml.Value)} (p : Profile),
      (∀ e ∈ entries, e.1 = .str "inherit".toList) →
        entries.foldlM (fun p e => do d.setValue p (← keyText e.1) e.2) p = .ok p := by
    intro entries p alone
    induction entries with
    | nil => rfl
    | cons e entries ih =>
      have text : keyText e.1 = .ok "inherit" := by
        rw [alone e List.mem_cons_self]
        rfl
      rw [List.foldlM_cons, text]
      exact ih fun e mem => alone e (List.mem_cons_of_mem _ mem)
  simp only [Draft.build, set _ only.alone]
  exact ⟨_, rfl⟩

end Draft

/-- The profile is that of a document that inherits from the names and holds nothing else. -/
def IsJoin (presets t : Tree) (names : List String) (p : Profile) : Prop :=
  ∃ d : Draft, d.OnlyInherits names ∧ d.LoadsAs presets t p

section
variable {d : Draft} {p : Profile} {parents : List (String × Profile)} (listed : Listed presets t parents)
include listed

theorem Draft.OnlyInherits.loadsAs (only : d.OnlyInherits (parents.map (·.1))) :
    ∃ p, d.resolve (fun r _ => loadReference presets t [] r) = .ok p := by
  obtain ⟨p, built⟩ := only.build parents
  exact ⟨p, Draft.resolve_eq_ok_iff.2 ⟨parents, only.checkKeys, only.parents, listed, built⟩⟩

theorem IsJoin.becomes (join : IsJoin presets t (parents.map (·.1)) p) :
    p.name = some "unnamed" ∧ p.text .description = "" ∧ ∀ key : Key, key.IsInherited →
      p.value key = (lastOther? key (parents.map (·.2.value key))).getD key.default := by
  obtain ⟨d, only, loads⟩ := join
  obtain ⟨name, description, values⟩ := loads.becomes listed only.parents
  refine ⟨?_, ?_, fun key inherited => ?_⟩
  · rw [name, Draft.profileName, only.value?_name]
  · rw [only.own?] at description
    exact KeyValue.text.inj description
  · rw [values key inherited, only.own?, List.map_map]
    rfl

end

/-! ## The monoid -/

/-- What the profiles come to that are loaded from documents with these parents. -/
structure ParentsCombine (presets t : Tree) (parents : List (String × Profile)) : Prop where
  /-- A document that only inherits loads if it stands in no file. -/
  loads : ∀ d : Draft, d.OnlyInherits (parents.map (·.1)) →
    ∃ p, d.resolve (fun r _ => loadReference presets t [] r) = .ok p
  /-- In a file it loads unless one of the parents leads back to it. -/
  loads_file : ∀ ref origin d, readReference presets t ref = .ok (origin, d) →
    d.OnlyInherits (parents.map (·.1)) → (∀ x ∈ parents, ¬ Reaches presets t (.ofString x.1) origin) →
    ∃ p, loadReference presets t [] ref = .ok p
  single : ∀ name q p, parents = [(name, q)] → IsJoin presets t [name] p → p.SameValues q
  /-- The last value counts that differs from the default. -/
  last : ∀ p, IsJoin presets t (parents.map (·.1)) p → p.name = some "unnamed" ∧ p.text .description = "" ∧
    ∀ key : Key, key.IsInherited →
      p.value key = (lastOther? key (parents.map (·.2.value key))).getD key.default
  grouped : ∀ before group after, parents = before ++ group ++ after → ∀ name g p q,
    loadReference presets t [] (.ofString name) = .ok g → IsJoin presets t (group.map (·.1)) g →
    IsJoin presets t (parents.map (·.1)) p →
    IsJoin presets t (before.map (·.1) ++ name :: after.map (·.1)) q → q.SameValues p
  repeated : ∀ before x after, parents = before ++ x :: after → ∀ p q,
    IsJoin presets t (parents.map (·.1)) p →
    IsJoin presets t (before.map (·.1) ++ x.1 :: x.1 :: after.map (·.1)) q → q.SameValues p
  /-- A parent with the default values may be inserted. -/
  neutral : ∀ before after, parents = before ++ after → ∀ name u p q,
    loadReference presets t [] (.ofString name) = .ok u → u.SameValues {} →
    IsJoin presets t (parents.map (·.1)) p →
    IsJoin presets t (before.map (·.1) ++ name :: after.map (·.1)) q → q.SameValues p
  /-- A valid document with values of its own loads too. -/
  loads_own : ∀ d : Draft, d.isValid → d.parents = .ok ((parents.map (·.1)).map .ok) →
    ∃ p, d.LoadsAs presets t p
  /-- Its own values override those of its parents; name and description are always its own. -/
  own : ∀ (d : Draft) p, d.parents = .ok ((parents.map (·.1)).map .ok) → d.LoadsAs presets t p →
    d.Becomes (parents.map (·.2)) p

section
variable {parents before group after : List (String × Profile)}

theorem Listed.nil : Listed presets t [] := List.forall_mem_nil _

theorem Listed.append (left : Listed presets t before) (right : Listed presets t after) :
    Listed presets t (before ++ after) :=
  fun x mem => (List.mem_append.1 mem).elim (left x) (right x)

theorem Listed.cons {x : String × Profile} (here : loadReference presets t [] (.ofString x.1) = .ok x.2)
    (rest : Listed presets t parents) : Listed presets t (x :: parents) :=
  List.forall_mem_cons.2 ⟨here, rest⟩

theorem Listed.of_append (listed : Listed presets t (before ++ after)) :
    Listed presets t before ∧ Listed presets t after :=
  List.forall_mem_append.1 listed

/-- A stretch of the parents may be replaced by one in which the same values count. -/
theorem sameValues_of_stretch {stretch stretch' : List (String × Profile)} {p q : Profile}
    (outer : Listed presets t before ∧ Listed presets t after)
    (inner : Listed presets t stretch) (inner' : Listed presets t stretch')
    (same : ∀ key : Key, key.IsInherited →
      lastOther? key (stretch'.map (·.2.value key)) = lastOther? key (stretch.map (·.2.value key)))
    (join : IsJoin presets t ((before ++ stretch ++ after).map (·.1)) p)
    (join' : IsJoin presets t ((before ++ stretch' ++ after).map (·.1)) q) : q.SameValues p := by
  intro key inherited
  obtain ⟨-, -, values⟩ := join.becomes ((outer.1.append inner).append outer.2)
  obtain ⟨-, -, values'⟩ := join'.becomes ((outer.1.append inner').append outer.2)
  rw [values key inherited, values' key inherited]
  simp only [List.map_append, lastOther?_append, same key inherited]

end

/-! ## Profiles without parents -/

/-- The document in these bytes, if it is valid and has no parents. -/
def leaf? (bytes : List UInt8) : Option Draft := do
  let d ← (Draft.ofBytes bytes).toOption
  if d.isValid && d.references.isEmpty then some d else none

theorem leaf?_eq_some {bytes : List UInt8} {d : Draft} (leaf : leaf? bytes = some d) :
    Draft.ofBytes bytes = .ok d ∧ d.isValid ∧ d.references = [] := by
  unfold leaf? at leaf
  cases drafted : Draft.ofBytes bytes with
  | error e =>
    rw [drafted] at leaf
    cases leaf
  | ok d' =>
    simp only [drafted, Except.toOption, Option.bind_eq_bind, Option.bind_some, Option.ite_none_right_eq_some,
      Bool.and_eq_true, List.isEmpty_iff, Option.some.injEq] at leaf
    obtain ⟨⟨valid, none⟩, rfl⟩ := leaf
    exact ⟨rfl, valid, none⟩

theorem readReference_of_leaf? {ref : Reference} {origin : Origin} {bytes : List UInt8} {d : Draft}
    (found : find presets t ref = .ok (origin, bytes)) (leaf : leaf? bytes = some d) :
    readReference presets t ref = .ok (origin, d) := by
  obtain ⟨drafted, -, -⟩ := leaf?_eq_some leaf
  simp [readReference, found, drafted, bind, Except.bind, pure, Except.pure]

theorem becomes_of_leaf? {ref : Reference} {origin : Origin} {bytes : List UInt8} {d : Draft}
    (found : find presets t ref = .ok (origin, bytes)) (leaf : leaf? bytes = some d) :
    ∃ p, loadReference presets t [] ref = .ok p ∧ d.Becomes [] p := by
  have read := readReference_of_leaf? found leaf
  obtain ⟨-, valid, none⟩ := leaf?_eq_some leaf
  obtain ⟨names, parents⟩ := Draft.parents_of_isValid valid
  obtain rfl : names = [] := by
    rw [Draft.references_eq parents] at none
    exact List.map_eq_nil_iff.1 none
  have noOther : Listed presets t [] := .nil
  obtain ⟨p, loads⟩ := Draft.loadsAs_of_isValid valid noOther parents
  have acyclic : ∀ r ∈ d.references, ¬ Reaches presets t r origin := by simp [none]
  exact ⟨p, loadReference_of_resolve read acyclic loads.resolve, loads.becomes noOther parents⟩

/-- A document without parents loads with the values that it gives, and the defaults elsewhere. -/
theorem loadReference_of_leaf? {ref : Reference} {origin : Origin} {bytes : List UInt8} {d : Draft}
    (found : find presets t ref = .ok (origin, bytes)) (leaf : leaf? bytes = some d) :
    ∃ p, loadReference presets t [] ref = .ok p ∧
      ∀ key : Key, key.IsInherited → p.value key = (d.own? key).getD key.default := by
  obtain ⟨p, loaded, becomes⟩ := becomes_of_leaf? found leaf
  exact ⟨p, loaded, becomes.values⟩

theorem toListLoop_eq (bs : ByteArray) (i : Nat) (r : List UInt8) :
    ByteArray.toList.loop bs i r = r.reverse ++ bs.data.toList.drop i := by
  rw [ByteArray.toList.loop]
  split
  · next lt =>
    have here : i < bs.data.toList.length := by simpa using lt
    rw [toListLoop_eq bs (i + 1), List.drop_eq_getElem_cons here]
    simp [ByteArray.get!, lt]
  · next ge => rw [List.drop_eq_nil_of_le (by simpa using ge), List.append_nil]
termination_by bs.size - i

theorem toList_toUTF8 (l : List Char) : (String.ofList l).toUTF8.toList = l.flatMap String.utf8EncodeChar := by
  rw [ByteArray.toList, toListLoop_eq]
  simp [List.utf8Encode]

set_option maxRecDepth 4000 in
theorem leaf?_umdSdkText : ∃ d, leaf? umdSdkText.toUTF8.toList = some d ∧
    ∀ key ∈ Key.inherited, ∀ v, d.own? key = some v → v = key.default := by
  -- The characters of the text are given by unification: computing them from the text takes long.
  obtain ⟨l, text, given⟩ : ∃ l, umdSdkText = String.ofList l ∧
      (leaf? (l.flatMap String.utf8EncodeChar)).any (fun d =>
        Key.inherited.all fun key => (d.own? key).all (· == key.default)) = true :=
    ⟨_, rfl, by decide +kernel⟩
  rw [text, toList_toUTF8]
  obtain ⟨d, leaf, given⟩ := Option.any_eq_true _ _ |>.1 given
  refine ⟨d, leaf, fun key mem v own => ?_⟩
  have same := List.all_eq_true.1 given key mem
  rw [own] at same
  exact beq_iff_eq.1 same

theorem find_umdSdk (bytes : List UInt8) (t : Tree) :
    find { entries := [(["bundleguard", "profile", "presets", "umd-sdk.yaml"], .file bytes)],
           workingDirectory := ["bundleguard", "profile", "presets"] } t (.preset "umd-sdk") =
      .ok (.preset "umd-sdk", bytes) := by
  cbv

/-- The preset has the default values. -/
theorem umdSdk_loads (t : Tree) :
    ∃ u, loadReference presetTree t [] (.preset "umd-sdk") = .ok u ∧ u.SameValues {} := by
  have found : find presetTree t (.preset "umd-sdk") = .ok (.preset "umd-sdk", umdSdkText.toUTF8.toList) :=
    find_umdSdk umdSdkText.toUTF8.toList t
  obtain ⟨d, leaf, given⟩ := leaf?_umdSdkText
  obtain ⟨u, loaded, values⟩ := loadReference_of_leaf? found leaf
  refine ⟨u, loaded, fun key inherited => ?_⟩
  have default : ({} : Profile).value key = key.default := by cases key <;> rfl
  rw [values key inherited, default]
  cases own : d.own? key with
  | none => rfl
  | some v => exact given key (Key.mem_inherited inherited) v own

/-! ## The laws -/

/-- Parents combine as an idempotent monoid whose unit is a profile with the default values, as the preset is;
what a document itself holds overrides them. -/
theorem parents_combine {presets t : Tree} {parents : List (String × Profile)} (listed : Listed presets t parents) :
    ParentsCombine presets t parents ∧
      ∃ u, loadReference presetTree t [] (.preset "umd-sdk") = .ok u ∧ u.SameValues {} := by
  refine ⟨?_, umdSdk_loads t⟩
  exact
  { loads := fun d only => only.loadsAs listed
    loads_file := fun ref origin d read only acyclic => by
      obtain ⟨p, resolved⟩ := only.loadsAs listed
      refine ⟨p, loadReference_of_resolve read (fun r mem => ?_) resolved⟩
      rw [Draft.references_eq only.parents, List.map_map] at mem
      obtain ⟨x, hx, rfl⟩ := List.mem_map.1 mem
      exact acyclic x hx
    single := fun name q p one join key inherited => by
      subst one
      obtain ⟨-, -, values⟩ := join.becomes listed
      rw [values key inherited]
      by_cases same : q.value key = key.default
      · simp [same, lastOther?_default]
      · simp [lastOther?_single same]
    last := fun p join => join.becomes listed
    grouped := fun before group after split name g p q loaded grouped join join' => by
      subst split
      obtain ⟨inner, right⟩ := listed.of_append
      obtain ⟨left, middle⟩ := inner.of_append
      have one : Listed presets t [(name, g)] := .cons loaded .nil
      obtain ⟨-, -, values⟩ := grouped.becomes middle
      refine sameValues_of_stretch ⟨left, right⟩ middle one (fun key inherited => ?_) join (by simpa using join')
      rw [List.map_singleton, values key inherited, lastOther?_getD]
    repeated := fun before x after split p q join join' => by
      subst split
      obtain ⟨left, inner⟩ := listed.of_append
      obtain ⟨here, right⟩ := List.forall_mem_cons.1 inner
      have one : Listed presets t [x] := .cons here .nil
      refine sameValues_of_stretch ⟨left, right⟩ one (.cons here one) (fun key inherited => ?_)
        (by simpa using join) (by simpa using join')
      exact (lastOther?_append key [x.2.value key] [x.2.value key]).trans Option.or_self
    neutral := fun before after split name u p q loaded default join join' => by
      subst split
      have none : Listed presets t [] := .nil
      have one : Listed presets t [(name, u)] := .cons loaded none
      refine sameValues_of_stretch listed.of_append none one (fun key inherited => ?_)
        (by simpa using join) (by simpa using join')
      have same : u.value key = key.default := (default key inherited).trans (by cases key <;> rfl)
      rw [List.map_singleton, same, lastOther?_default]
      rfl
    loads_own := fun d valid names => Draft.loadsAs_of_isValid valid listed names
    own := fun d p names loads => loads.becomes listed names }

/-- A directory with two documents. -/
def siblings (a b : List UInt8) : Tree where
  entries := [(["w", "a"], .file a), (["w", "b"], .file b), (["w"], .directory)]
  workingDirectory := ["w"]

theorem find_siblings (presets : Tree) (a b : List UInt8) :
    find presets (siblings a b) (.file "a") = .ok (.file ["w", "a"], a) ∧
      find presets (siblings a b) (.file "b") = .ok (.file ["w", "b"], b) := by
  constructor <;> cbv

def asciiBytes (s : String) : List UInt8 := s.toList.map (·.toNat.toUInt8)

theorem ofString_eq_file {name path : String} (h : Reference.ofString name = .file path) : name = path := by
  unfold Reference.ofString at h
  split at h
  · cases h
  · exact Reference.file.inj h

def siblingsChild : String := "\"inherit\": [\"a\", \"b\"]"

theorem onlyInherits_siblingsChild :
    ∃ d, Draft.ofText siblingsChild.toList = .ok d ∧ d.OnlyInherits ["a", "b"] := by
  have drafted : (Draft.ofText siblingsChild.toList).toOption.map
      (fun d => (d.isValid, d.references, d.entries.map (·.1))) =
        some (true, [.file "a", .file "b"], [.str "inherit".toList]) := by
    decide +kernel
  cases read : Draft.ofText siblingsChild.toList with
  | error e =>
    rw [read] at drafted
    cases drafted
  | ok d =>
    obtain ⟨valid, references, keys⟩ :
        d.isValid ∧ d.references = [.file "a", .file "b"] ∧ d.entries.map (·.1) = [.str "inherit".toList] := by
      simpa only [read, Except.toOption, Option.map_some, Option.some.injEq, Prod.mk.injEq] using drafted
    obtain ⟨names, parents⟩ := Draft.parents_of_isValid valid
    obtain rfl : names = ["a", "b"] := by
      rw [Draft.references_eq parents] at references
      obtain ⟨first, rest, rfl, isA, more⟩ := List.map_eq_cons_iff.1 references
      obtain ⟨second, rest, rfl, isB, none⟩ := List.map_eq_cons_iff.1 more
      rw [ofString_eq_file isA, ofString_eq_file isB, List.map_eq_nil_iff.1 none]
    refine ⟨d, rfl, parents, fun e mem => ?_⟩
    have key := List.mem_map_of_mem (f := (·.1)) mem
    rw [keys] at key
    exact List.mem_singleton.1 key

/-- The later one of two siblings gives the name of the export, the other one the marker. -/
theorem parents_combine_of_siblings :
    ∃ t a b, Listed presetTree t [("a", a), ("b", b)] ∧ ParentsCombine presetTree t [("a", a), ("b", b)] ∧
      ∃ p, ofText t siblingsChild.toList = .ok p ∧ p.text .exportName = "B" ∧ p.text .bundleMarker = ".a." := by
  let bytesA := asciiBytes "\"export_name\": \"A\"\n\"bundle_marker\": \".a.\""
  let bytesB := asciiBytes "\"export_name\": \"B\""
  have leafA : (leaf? bytesA).map (fun d => (d.own? (.text .exportName), d.own? (.text .bundleMarker))) =
      some (some (.text "A"), some (.text ".a.")) := by
    decide +kernel
  have leafB : (leaf? bytesB).map (fun d => (d.own? (.text .exportName), d.own? (.text .bundleMarker))) =
      some (some (.text "B"), none) := by
    decide +kernel
  obtain ⟨findsA, findsB⟩ := find_siblings presetTree bytesA bytesB
  obtain ⟨dA, leafA, ownA⟩ := Option.map_eq_some_iff.1 leafA
  obtain ⟨dB, leafB, ownB⟩ := Option.map_eq_some_iff.1 leafB
  obtain ⟨exportA, markerA⟩ := Prod.mk.inj ownA
  obtain ⟨exportB, markerB⟩ := Prod.mk.inj ownB
  obtain ⟨a, loadsA, valuesA⟩ := loadReference_of_leaf? findsA leafA
  obtain ⟨b, loadsB, valuesB⟩ := loadReference_of_leaf? findsB leafB
  have nameA : Reference.ofString "a" = .file "a" := by decide
  have nameB : Reference.ofString "b" = .file "b" := by decide
  have listed : Listed presetTree (siblings bytesA bytesB) [("a", a), ("b", b)] := by
    have none : Listed presetTree (siblings bytesA bytesB) [] := .nil
    exact .cons (nameA ▸ loadsA) (.cons (nameB ▸ loadsB) none)
  obtain ⟨combine, -⟩ := parents_combine listed
  obtain ⟨d, read, only⟩ := onlyInherits_siblingsChild
  obtain ⟨p, resolved⟩ := combine.loads d only
  obtain ⟨-, -, last⟩ := combine.last p ⟨d, only, .text resolved⟩
  have exported : (Key.text .exportName).IsInherited := by decide
  have marked : (Key.text .bundleMarker).IsInherited := by decide
  refine ⟨siblings bytesA bytesB, a, b, listed, combine, p, ?_, ?_, ?_⟩
  · simp only [ofText, read]
    exact resolved
  · have value := last _ exported
    simp only [List.map_cons, List.map_nil, valuesA _ exported, valuesB _ exported, exportA, exportB] at value
    exact KeyValue.text.inj value
  · have value := last _ marked
    simp only [List.map_cons, List.map_nil, valuesA _ marked, valuesB _ marked, markerA, markerB] at value
    exact KeyValue.text.inj value

end BundleAudit.Profile

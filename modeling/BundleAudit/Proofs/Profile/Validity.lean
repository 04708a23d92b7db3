import BundleAudit.Profile.Draft
import BundleAudit.Attempts

/-!
# Valid documents

A document is valid if its keys are known and each of them holds what it can hold. Whether a valid
document is resolved depends on its parents only: it is if all of them are loaded, and otherwise it ends
with the error of one of them.
-/

namespace BundleAudit.Profile

open BundleAudit.Yaml

/-! ## Legal values -/

def isText : Value → Bool
  | .scalar (.str _) => true
  | _ => false

namespace Draft

/-- The collection of a number. -/
def collection (d : Draft) (id : Nat) : Collection := d.document.collections.getD id (.list [])

def isList (d : Draft) : Value → Bool
  | .collection id =>
    match d.collection id with
    | .list _ | .pairs _ => true
    | _ => false
  | _ => false

def isListOfTexts (d : Draft) : Value → Bool
  | .collection id =>
    match d.collection id with
    | .list items => items.all isText
    | _ => false
  | _ => false

/-- What a key can hold. A null value stands for a value that is not set, except among the parents. -/
def isLegal (d : Draft) (key : String) (v : Value) : Bool :=
  if key = "inherit" then isText v || d.isListOfTexts v
  else v = .scalar .null || isText v || (listKeyNames.contains key && d.isList v)

def isLegalEntry (d : Draft) (e : Scalar × Value) : Bool :=
  match keyText e.1 with
  | .ok key => keyNames.contains key && d.isLegal key e.2
  | .error _ => false

/-- The keys are known and hold legal values. -/
def isValid (d : Draft) : Bool := d.entries.all d.isLegalEntry

variable {d : Draft}

/-! ## Keys -/

theorem keyText_eq_ok {k : Scalar} {key : String} (h : keyText k = .ok key) : k = .str key.toList := by
  cases k <;> simp_all [keyText]
  rw [← h, String.toList_ofList]

theorem exists_key_of_isValid (valid : d.isValid) {e : Scalar × Value} (mem : e ∈ d.entries) :
    ∃ key, keyText e.1 = .ok key ∧ key ∈ keyNames ∧ d.isLegal key e.2 := by
  have legal := List.all_eq_true.mp valid e mem
  unfold isLegalEntry at legal
  split at legal
  · next key text => exact ⟨key, text, by simpa using legal⟩
  · cases legal

theorem checkKeys_of_isValid (valid : d.isValid) : d.checkKeys = .ok () := by
  have known : (d.entries.map (·.1)).filter isUnknownKey = [] := by
    refine List.filter_eq_nil_iff.mpr fun k mem => ?_
    obtain ⟨e, he, rfl⟩ := List.mem_map.mp mem
    obtain ⟨key, text, mem, -⟩ := exists_key_of_isValid valid he
    simpa [keyText_eq_ok text, isUnknownKey] using mem
  simp only [Draft.checkKeys, known]
  rfl

/-! ## Parents -/

theorem mem_entries_of_value? {key : String} {v : Value} (h : d.value? key = some v) :
    (.str key.toList, v) ∈ d.entries := by
  obtain ⟨e, found, rfl⟩ := Option.map_eq_some_iff.mp h
  have same : e.1 = .str key.toList := by simpa using List.find?_some found
  rw [← same]
  exact List.mem_of_find?_eq_some found

theorem isText_eq_true {v : Value} (h : isText v) : ∃ s, v = .scalar (.str s) := by
  unfold isText at h
  split at h
  · exact ⟨_, rfl⟩
  · cases h

theorem items_of_isListOfTexts {v : Value} (h : d.isListOfTexts v) :
    ∃ id items, v = .collection id ∧ d.document.collections.getD id (.list []) = .list items ∧
      items.all isText := by
  unfold isListOfTexts collection at h
  split at h
  · next id =>
    split at h
    · next items eq => exact ⟨id, items, rfl, eq, h⟩
    · cases h
  · cases h

theorem parentName_of_isText : ∀ {items : List Value}, items.all isText →
    ∃ names : List String, items.map parentName = names.map .ok
  | [], _ => ⟨[], rfl⟩
  | item :: items, texts => by
    obtain ⟨here, rest⟩ := Bool.and_eq_true_iff.mp texts
    obtain ⟨s, rfl⟩ := isText_eq_true here
    obtain ⟨names, eq⟩ := parentName_of_isText rest
    exact ⟨String.ofList s :: names, by simp [eq, parentName]⟩

theorem parents_of_isValid (valid : d.isValid) :
    ∃ names : List String, d.parents = .ok (names.map .ok) := by
  unfold Draft.parents
  cases h : d.value? "inherit" with
  | none => exact ⟨[], rfl⟩
  | some v =>
    obtain ⟨key, text, -, legal⟩ := exists_key_of_isValid valid (mem_entries_of_value? h)
    obtain rfl : "inherit" = key := by simpa [keyText] using text
    rcases Bool.or_eq_true_iff.mp legal with single | list
    · obtain ⟨s, rfl⟩ := isText_eq_true single
      exact ⟨[String.ofList s], rfl⟩
    · obtain ⟨id, items, rfl, eq, texts⟩ := items_of_isListOfTexts list
      obtain ⟨names, map⟩ := parentName_of_isText texts
      exact ⟨names, by simp only [eq, map]⟩

theorem references_eq {names : List String} (h : d.parents = .ok (names.map .ok)) :
    d.references = names.map .ofString := by
  rw [references, h]
  show (names.map Except.ok).filterMap (fun item => (item.map Reference.ofString).toOption) = _
  rw [List.filterMap_map]
  exact congrFun List.filterMap_eq_map names

/-- Loads one of the listed parents. -/
def loadParent (load : Reference → Except ProfileError Profile) (item : Except ProfileError String) :
    Except ProfileError (String × Profile) := do
  let name ← item
  return (name, ← load (.ofString name))

theorem loadParents_eq {items : List (Except ProfileError String)} (h : d.parents = .ok items)
    (load : Reference → Except ProfileError Profile) :
    d.loadParents (fun r _ => load r) = items.mapM (loadParent load) := by
  unfold loadParents
  split
  · next e eq => simp [h] at eq
  · next items' eq =>
    obtain rfl : items = items' := by simpa [h] using eq
    rw [List.mapM_subtype (g := loadParent load)]
    · simp
    · rintro (e | name) mem <;> rfl

theorem loadParents_error {e : ProfileError} (h : d.parents = .error e)
    (load : Reference → Except ProfileError Profile) : d.loadParents (fun r _ => load r) = .error e := by
  unfold loadParents
  split <;> simp_all

theorem loadParent_ok (load : Reference → Except ProfileError Profile) (name : String) :
    loadParent load (.ok name) = (load (.ofString name)).map ((name, ·)) := by
  cases eq : load (.ofString name) <;>
    simp [loadParent, eq, bind, Except.bind, pure, Except.pure, Except.map]

/-! ## Values -/

theorem textsOf?_isSome {v : Value} (h : isText v ∨ d.isList v) : ∃ texts, d.textsOf? v = some texts := by
  rcases h with single | list
  · obtain ⟨s, rfl⟩ := isText_eq_true single
    exact ⟨_, rfl⟩
  · unfold isList collection at list
    split at list
    · split at list
      · next eq => simp [textsOf?, eq]
      · next eq => simp [textsOf?, eq]
      · cases list
    · cases list

theorem eq_inherit_of_ofName?_eq_none {key : String} (list : key ∈ listKeyNames)
    (none : ListKey.ofName? key = none) : key = "inherit" := by
  rcases List.mem_append.mp list with mem | mem
  · obtain ⟨k, all, rfl⟩ := List.mem_map.mp mem
    simpa using List.find?_eq_none.mp none k all
  · simpa using mem

/-- A key that holds no list holds a text: it is the name or one of the keys of texts. -/
theorem setValue_isOk {key : String} {v : Value} (legal : d.isLegal key v) (p : Profile) :
    ∃ p', d.setValue p key v = .ok p' := by
  unfold isLegal at legal
  unfold setValue
  by_cases skipped : (key == "inherit" || v == .scalar .null) = true
  · exact ⟨p, by simp [skipped]⟩
  obtain ⟨other, null⟩ : key ≠ "inherit" ∧ v ≠ .scalar .null := by simpa using skipped
  have legal : isText v ∨ (key ∈ listKeyNames ∧ d.isList v) := by simpa [other, null] using legal
  rw [if_neg skipped]
  cases list : ListKey.ofName? key with
  | some k =>
    obtain ⟨texts, eq⟩ := textsOf?_isSome (legal.imp id And.right)
    simp only [eq]
    exact ⟨_, rfl⟩
  | none =>
    obtain ⟨s, rfl⟩ := isText_eq_true
      (legal.resolve_right fun h => other (eq_inherit_of_ofName?_eq_none h.1 list))
    cases TextKey.ofName? key <;> exact ⟨_, rfl⟩

theorem setValues_isOk : ∀ {entries : List (Scalar × Value)} (p : Profile),
    (∀ e ∈ entries, ∃ key, keyText e.1 = .ok key ∧ d.isLegal key e.2) →
    ∃ p', entries.foldlM (fun p e => do d.setValue p (← keyText e.1) e.2) p = .ok p'
  | [], p, _ => ⟨p, rfl⟩
  | e :: entries, p, legal => by
    obtain ⟨key, text, here⟩ := legal e (by simp)
    obtain ⟨p', set⟩ := setValue_isOk here p
    obtain ⟨p'', rest⟩ := setValues_isOk p' fun e mem => legal e (List.mem_cons_of_mem _ mem)
    refine ⟨p'', ?_⟩
    rw [List.foldlM_cons, text]
    simp only [bind, Except.bind, set]
    exact rest

theorem build_of_isValid (valid : d.isValid) (parents : List (String × Profile)) :
    ∃ p, d.build parents = .ok p := by
  obtain ⟨p, eq⟩ := setValues_isOk (parents.foldl (fun base parent => inheritFrom base parent.2) {})
    fun e mem => (exists_key_of_isValid valid mem).imp fun key h => ⟨h.1, h.2.2⟩
  simp only [Draft.build, eq]
  exact ⟨_, rfl⟩

/-! ## Resolving -/

theorem resolve_of_isValid (valid : d.isValid) (load : Reference → Except ProfileError Profile) :
    (∃ p, d.resolve (fun r _ => load r) = .ok p ∧ ∀ r ∈ d.references, ∃ p, load r = .ok p) ∨
      ∃ r ∈ d.references, ∃ e, load r = .error e ∧ d.resolve (fun r _ => load r) = .error e := by
  obtain ⟨names, parents⟩ := parents_of_isValid valid
  have listed := references_eq parents
  unfold Draft.resolve
  rw [checkKeys_of_isValid valid, loadParents_eq parents]
  rcases mapM_isOk_or_error (f := loadParent load) (names.map .ok) with
    ⟨loaded, eq, all⟩ | ⟨item, parent, e, at', eq⟩
  · obtain ⟨p, built⟩ := build_of_isValid valid loaded
    refine .inl ⟨p, by rw [eq]; exact built, fun r parent => ?_⟩
    rw [listed] at parent
    obtain ⟨name, mem, rfl⟩ := List.mem_map.mp parent
    obtain ⟨_, ok⟩ := all _ (List.mem_map_of_mem mem)
    rw [loadParent_ok] at ok
    cases result : load (.ofString name) with
    | error e => simp [result, Except.map] at ok
    | ok p => exact ⟨p, rfl⟩
  · obtain ⟨name, mem, rfl⟩ := List.mem_map.mp parent
    refine .inr ⟨.ofString name, listed ▸ List.mem_map_of_mem mem, e, ?_, by rw [eq]; rfl⟩
    rw [loadParent_ok] at at'
    cases result : load (.ofString name) with
    | error e' => simpa [result, Except.map] using at'
    | ok p => simp [result, Except.map] at at'

end Draft

end BundleAudit.Profile

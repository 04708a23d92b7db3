import BundleAudit.Proofs.Profile.Run

/-!
# Errors that no check foresees

Loading a profile ends with a profile, with the error of a check, or in a way that no check foresees. The last
happens where a key is no text, and where what is listed as parents is no list or holds something else than
texts, because no check looks for those types. Nor does one look for a name that is null: the profile then has
none.
-/

namespace BundleAudit

open BundleAudit.FileSystem BundleAudit.Yaml

/-- Whether the error comes from a value of a type that no check looks for. The errors of the parser are
taken as they are. -/
def ProfileError.isUnforeseen : ProfileError → Bool
  | .foreignKey | .noParents | .foreignParent | .bytesParent => true
  | _ => false

namespace Profile

namespace Draft

variable {d : Draft}

/-! ## Keys -/

/-- One of the keys is no text. -/
def HasForeignKey (d : Draft) : Prop := ∃ e ∈ d.entries, ∀ s, e.1 ≠ .str s

theorem keyText_eq_error {k : Scalar} {e : ProfileError} (h : keyText k = .error e) :
    e = .foreignKey ∧ ∀ s, k ≠ .str s := by
  cases k <;> simp_all [keyText]

theorem keyText_of_foreign {k : Scalar} (foreign : ∀ s, k ≠ .str s) :
    isUnknownKey k = true ∧ keyText k = .error .foreignKey := by
  cases k <;> simp_all [isUnknownKey, keyText]

theorem checkKeys_of_foreign (foreign : d.HasForeignKey) : d.checkKeys = .error .foreignKey := by
  obtain ⟨entry, mem, other⟩ := foreign
  obtain ⟨unknown, failed⟩ := keyText_of_foreign other
  unfold checkKeys
  rcases mapM_isOk_or_error (f := keyText) ((d.entries.map (·.1)).filter isUnknownKey) with
    ⟨names, -, all⟩ | ⟨k, -, e, failed', eq⟩
  · obtain ⟨name, ok⟩ := all entry.1 (List.mem_filter.2 ⟨List.mem_map_of_mem mem, unknown⟩)
    cases failed.symm.trans ok
  · rw [eq, (keyText_eq_error failed').1]
    rfl

theorem foreign_of_checkKeys {e : ProfileError} (h : d.checkKeys = .error e)
    (unforeseen : e.isUnforeseen = true) : d.HasForeignKey := by
  unfold checkKeys at h
  rcases eq_error_of_bind h with read | ⟨names, -, unknown⟩
  · obtain ⟨before, k, after, eq, -, failed⟩ := exists_first_of_mapM_error read
    have unknown : k ∈ (d.entries.map (·.1)).filter isUnknownKey := by simp [eq]
    obtain ⟨entry, mem, rfl⟩ := List.mem_map.1 (List.mem_filter.1 unknown).1
    exact ⟨entry, mem, (keyText_eq_error failed).2⟩
  · split at unknown
    · obtain rfl := Except.error.inj unknown
      cases unforeseen
    · cases unknown

/-! ## Parents -/

/-- What is listed as parents is one value, but no text. Bytes are taken for the list of their numbers. -/
def ListsScalar (d : Draft) : Prop :=
  ∃ s, d.value? "inherit" = some (.scalar s) ∧ (∀ text, s ≠ .str text) ∧ ∀ bytes, s ≠ .bytes bytes

theorem parents_of_listsScalar (h : d.ListsScalar) : d.parents = .error .noParents := by
  obtain ⟨s, given, noText, noBytes⟩ := h
  unfold Draft.parents
  rw [given]
  cases s <;> simp_all

theorem listsScalar_of_parents {e : ProfileError} (h : d.parents = .error e) : d.ListsScalar := by
  unfold Draft.parents at h
  cases given : d.value? "inherit" with
  | none => simp [given] at h
  | some v =>
    rw [given] at h
    cases v with
    | scalar s =>
      refine ⟨s, given, ?_, ?_⟩
      · rintro text rfl
        cases h
      · rintro bytes rfl
        cases h
    | collection id =>
      dsimp only at h
      split at h <;> cases h

theorem parentName_unforeseen {v : Value} {e : ProfileError} (h : parentName v = .error e) :
    e.isUnforeseen = true := by
  unfold parentName at h
  split at h <;> cases h <;> rfl

theorem item_unforeseen {items : List (Except ProfileError String)} (h : d.parents = .ok items)
    {e : ProfileError} (mem : .error e ∈ items) : e.isUnforeseen = true := by
  unfold Draft.parents at h
  split at h
  · cases h
    cases mem
  · cases h
    simp at mem
  · cases h
    obtain ⟨-, -, eq⟩ := List.mem_map.1 mem
    cases eq
    rfl
  · cases h
  · split at h
    all_goals
      cases h
      obtain ⟨_, -, eq⟩ := List.mem_map.1 mem
    · exact parentName_unforeseen eq
    · cases eq
      rfl
    · exact parentName_unforeseen eq
    · exact parentName_unforeseen eq

/-! ## Values -/

theorem setValue_foreseen {p : Profile} {key : String} {v : Value} {e : ProfileError}
    (h : d.setValue p key v = .error e) : e.isUnforeseen = false := by
  unfold setValue at h
  split at h
  · cases h
  · split at h
    · split at h <;> cases h
      rfl
    · split at h <;> cases h
      rfl

theorem build_foreseen (texts : ¬ d.HasForeignKey) {parents : List (String × Profile)} {e : ProfileError}
    (h : d.build parents = .error e) : e.isUnforeseen = false := by
  unfold build at h
  rcases eq_error_of_bind h with failed | ⟨p, -, made⟩
  · obtain ⟨entry, mem, p, failed⟩ := exists_of_foldlM_error failed
    rcases eq_error_of_bind failed with noText | ⟨key, -, failed⟩
    · exact absurd ⟨entry, mem, (keyText_eq_error noText).2⟩ texts
    · exact setValue_foreseen failed
  · cases made

/-! ## One document -/

variable (d) in
/-- Resolving the document stops at a type that no check looks for: that of a key, of what is listed as
parents, or of one of them behind others that could be loaded. -/
inductive Stumbles (load : Reference → Except ProfileError Profile) : Prop
  | key : d.HasForeignKey → Stumbles load
  | scalar : d.checkKeys = .ok () → d.ListsScalar → Stumbles load
  | foreign {before e after} : d.checkKeys = .ok () → d.parents = .ok (before ++ .error e :: after) →
    (∀ item ∈ before, ∃ p, loadParent load item = .ok p) → Stumbles load

variable (d) in
/-- Resolving the document comes to a parent: those in front of it could be loaded. -/
def ComesTo (load : Reference → Except ProfileError Profile) (ref : Reference) : Prop :=
  ∃ before name after, d.checkKeys = .ok () ∧ d.parents = .ok (before ++ .ok name :: after) ∧
    (∀ item ∈ before, ∃ p, loadParent load item = .ok p) ∧ ref = .ofString name

variable {load : Reference → Except ProfileError Profile}

theorem ComesTo.mem_references {ref : Reference} (comes : d.ComesTo load ref) : ref ∈ d.references := by
  obtain ⟨before, name, after, -, listed, -, rfl⟩ := comes
  exact Draft.mem_references listed (by simp)

theorem resolve_error {before after : List (Except ProfileError String)} {item : Except ProfileError String}
    {e : ProfileError} (known : d.checkKeys = .ok ()) (listed : d.parents = .ok (before ++ item :: after))
    (loaded : ∀ item ∈ before, ∃ p, loadParent load item = .ok p) (failed : loadParent load item = .error e) :
    d.resolve (fun r _ => load r) = .error e := by
  unfold resolve
  rw [known, loadParents_eq listed, mapM_error_of_first loaded failed]
  rfl

/-- A document is resolved in an unforeseen way if it stumbles, or if a parent that it comes to is loaded so. -/
theorem resolve_unforeseen_iff :
    (∃ e, d.resolve (fun r _ => load r) = .error e ∧ e.isUnforeseen = true) ↔
      d.Stumbles load ∨ ∃ ref, d.ComesTo load ref ∧ ∃ e, load ref = .error e ∧ e.isUnforeseen = true := by
  constructor
  · rintro ⟨e, failed, unforeseen⟩
    unfold resolve at failed
    rcases eq_error_of_bind failed with keys | ⟨⟨⟩, known, failed⟩
    · exact .inl (.key (foreign_of_checkKeys keys unforeseen))
    rcases eq_error_of_bind failed with failed | ⟨parents, -, failed⟩
    · cases listed : d.parents with
      | error e' => exact .inl (.scalar known (listsScalar_of_parents listed))
      | ok items =>
        rw [loadParents_eq listed] at failed
        obtain ⟨before, item, after, rfl, loaded, failed⟩ := exists_first_of_mapM_error failed
        cases item with
        | error e' => exact .inl (.foreign known listed loaded)
        | ok name =>
          refine .inr ⟨_, ⟨before, name, after, known, listed, loaded, rfl⟩, e, ?_, unforeseen⟩
          rw [loadParent_ok] at failed
          cases result : load (.ofString name) with
          | error e' => simpa [result, Except.map] using failed
          | ok p => simp [result, Except.map] at failed
    · have texts : ¬ d.HasForeignKey := fun foreign => by cases known.symm.trans (checkKeys_of_foreign foreign)
      exact Bool.noConfusion ((build_foreseen texts failed).symm.trans unforeseen)
  · rintro (stumbles | ⟨ref, ⟨before, name, after, known, listed, loaded, rfl⟩, e, failed, unforeseen⟩)
    · cases stumbles with
      | key foreign =>
        refine ⟨.foreignKey, ?_, rfl⟩
        rw [resolve, checkKeys_of_foreign foreign]
        rfl
      | scalar known scalar =>
        refine ⟨.noParents, ?_, rfl⟩
        rw [resolve, known, loadParents_error (parents_of_listsScalar scalar)]
        rfl
      | @foreign before e after known listed loaded =>
        exact ⟨e, resolve_error known listed loaded rfl, item_unforeseen listed (by simp)⟩
    · refine ⟨e, resolve_error known listed loaded ?_, unforeseen⟩
      rw [loadParent_ok, failed]
      rfl

/-! ## The profile -/

theorem value_of_setValue_name {p q : Profile} {v : Value} (set : d.setValue p "name" v = .ok q) :
    v = .scalar .null ∨ ∃ s, v = .scalar (.str s) := by
  have noList : ListKey.ofName? "name" = none := by decide
  cases v with
  | collection id => simp [setValue, noList] at set
  | scalar s => cases s <;> simp_all [setValue]

theorem name_of_build {parents : List (String × Profile)} {p : Profile} (built : d.build parents = .ok p) :
    p.name = none ↔ d.value? "name" = some (.scalar .null) := by
  unfold build at built
  obtain ⟨q, set, made⟩ := eq_ok_of_bind built
  obtain rfl := Except.ok.inj made
  show d.profileName = none ↔ _
  unfold profileName
  cases given : d.value? "name" with
  | none => simp
  | some v =>
    -- The name has been set like other texts, so it is one if it is not null.
    obtain ⟨p', q', here⟩ := isOk_of_foldlM set _ (mem_entries_of_value? given)
    obtain ⟨key, text, here⟩ := eq_ok_of_bind here
    obtain rfl : "name" = key := by simpa [keyText] using text
    rcases value_of_setValue_name here with rfl | ⟨s, rfl⟩ <;> simp

theorem names_of_loadParents : ∀ {items : List (Except ProfileError String)} {loaded : List (String × Profile)},
    items.mapM (loadParent load) = .ok loaded → items = (loaded.map (·.1)).map .ok
  | [], _, h => by
    cases h
    rfl
  | item :: items, _, h => by
    rw [List.mapM_cons] at h
    obtain ⟨parent, first, rest⟩ := eq_ok_of_bind h
    obtain ⟨parents, tail, made⟩ := eq_ok_of_bind rest
    obtain rfl := Except.ok.inj made
    obtain ⟨name, rfl, made⟩ := eq_ok_of_bind first
    obtain ⟨p, -, made⟩ := eq_ok_of_bind made
    obtain rfl := Except.ok.inj made
    simp [names_of_loadParents tail]

/-- The parents are those that are listed. -/
theorem parents_of_resolve {p : Profile} (resolved : d.resolve (fun r _ => load r) = .ok p) :
    d.parents = .ok (p.parents.map .ok) := by
  unfold resolve at resolved
  obtain ⟨⟨⟩, -, rest⟩ := eq_ok_of_bind resolved
  obtain ⟨parents, loaded, built⟩ := eq_ok_of_bind rest
  obtain ⟨q, -, made⟩ := eq_ok_of_bind built
  obtain rfl := Except.ok.inj made
  cases listed : d.parents with
  | error e =>
    rw [loadParents_error listed] at loaded
    cases loaded
  | ok items =>
    rw [loadParents_eq listed] at loaded
    rw [names_of_loadParents loaded]

theorem name_of_resolve {p : Profile} (resolved : d.resolve (fun r _ => load r) = .ok p) :
    p.name = none ↔ d.value? "name" = some (.scalar .null) := by
  unfold resolve at resolved
  obtain ⟨⟨⟩, -, rest⟩ := eq_ok_of_bind resolved
  obtain ⟨parents, -, built⟩ := eq_ok_of_bind rest
  exact name_of_build built

end Draft

/-! ## Loading -/

variable {presets t : Tree}

theorem find_foreseen {ref : Reference} {e : ProfileError} (h : find presets t ref = .error e) :
    e.isUnforeseen = false := by
  cases ref with
  | preset name =>
    simp only [find] at h
    split at h <;> cases h <;> rfl
  | file path =>
    rcases eq_error_of_bind h with unread | ⟨found, -, made⟩
    · obtain ⟨e', -, rfl⟩ := eq_error_of_mapError unread
      rfl
    · cases made

theorem Draft.ofText_foreseen {text : List Char} {e : ProfileError} (h : Draft.ofText text = .error e) :
    e.isUnforeseen = false := by
  rcases eq_error_of_bind h with unread | ⟨document, -, noMapping⟩
  · obtain ⟨e', -, rfl⟩ := eq_error_of_mapError unread
    rfl
  · split at noMapping
    · cases noMapping
      rfl
    · split at noMapping <;> cases noMapping
      rfl

theorem Draft.ofBytes_foreseen {bytes : List UInt8} {e : ProfileError} (h : Draft.ofBytes bytes = .error e) :
    e.isUnforeseen = false := by
  rcases eq_error_of_bind h with undecoded | ⟨text, -, failed⟩
  · obtain ⟨e', -, rfl⟩ := eq_error_of_mapError undecoded
    rfl
  · exact Draft.ofText_foreseen failed

theorem readReference_foreseen {ref : Reference} {e : ProfileError}
    (h : readReference presets t ref = .error e) : e.isUnforeseen = false := by
  rcases eq_error_of_bind h with unfound | ⟨found, -, rest⟩
  · exact find_foreseen unfound
  · rcases eq_error_of_bind rest with unread | ⟨d, -, made⟩
    · exact Draft.ofBytes_foreseen unread
    · cases made

/-- Loading the document stumbles at it, or at one that it comes to through parents. -/
inductive Slips (presets t : Tree) : List Origin → Draft → Prop
  | stumbles {chain d} : d.Stumbles (loadReference presets t chain) → Slips presets t chain d
  | parent {chain d ref origin d'} :
    d.ComesTo (loadReference presets t chain) ref → readReference presets t ref = .ok (origin, d') →
      origin ∉ chain → Slips presets t (origin :: chain) d' → Slips presets t chain d

theorem slips_iff {chain : List Origin} {d : Draft} : Slips presets t chain d ↔
    d.Stumbles (loadReference presets t chain) ∨
      ∃ ref, d.ComesTo (loadReference presets t chain) ref ∧
        ∃ origin d', readReference presets t ref = .ok (origin, d') ∧ origin ∉ chain ∧
          Slips presets t (origin :: chain) d' := by
  constructor
  · intro slips
    cases slips with
    | stumbles stumbles => exact .inl stumbles
    | parent comes read new slips => exact .inr ⟨_, comes, _, _, read, new, slips⟩
  · rintro (stumbles | ⟨ref, comes, origin, d', read, new, slips⟩)
    · exact .stumbles stumbles
    · exact .parent comes read new slips

theorem loadReference_unforeseen_iff (chain : List Origin) (ref : Reference) :
    (∃ e, loadReference presets t chain ref = .error e ∧ e.isUnforeseen = true) ↔
      ∃ origin d, readReference presets t ref = .ok (origin, d) ∧ origin ∉ chain ∧
        Slips presets t (origin :: chain) d := by
  induction chain, ref using loadReference.induct presets t with
  | case1 chain ref e read =>
    rw [loadReference_unread read]
    simp [read, readReference_foreseen read]
  | case2 chain ref origin d read mem =>
    rw [loadReference_circular read mem]
    simp [read, mem, ProfileError.isUnforeseen]
  | case3 chain ref origin d read new ih =>
    have here : (∃ origin' d', readReference presets t ref = .ok (origin', d') ∧ origin' ∉ chain ∧
        Slips presets t (origin' :: chain) d') ↔ Slips presets t (origin :: chain) d := by
      constructor
      · rintro ⟨origin', d', read', -, slips⟩
        obtain ⟨rfl, rfl⟩ : origin = origin' ∧ d = d' := by simpa [read] using read'
        exact slips
      · exact fun slips => ⟨origin, d, read, new, slips⟩
    rw [loadReference_resolve read new, Draft.resolve_unforeseen_iff, here, slips_iff]
    exact or_congr_right (exists_congr fun r => and_congr_right fun comes => ih r comes.mem_references)

theorem resolve_unforeseen_iff_slips (chain : List Origin) (d : Draft) :
    (∃ e, d.resolve (fun r _ => loadReference presets t chain r) = .error e ∧ e.isUnforeseen = true) ↔
      Slips presets t chain d := by
  rw [Draft.resolve_unforeseen_iff, slips_iff]
  simp only [loadReference_unforeseen_iff]

/-- A text holds no document, which is the error of a check, or it holds one. Then loading ends in an unforeseen
way if and only if it stumbles, at the document or at one that it comes to, and a profile that it ends with
has the listed parents, and a name unless that is null. -/
theorem ofText_unforeseen_iff_slips (presets t : Tree) (text : List Char) :
    (∃ e, Draft.ofText text = .error e ∧ ofText t text presets = .error e ∧ e.isUnforeseen = false) ∨
      ∃ d, Draft.ofText text = .ok d ∧
        ((∃ e, ofText t text presets = .error e ∧ e.isUnforeseen = true) ↔ Slips presets t [] d) ∧
        ∀ p, ofText t text presets = .ok p →
          d.parents = .ok (p.parents.map .ok) ∧ (p.name = none ↔ d.value? "name" = some (.scalar .null)) := by
  unfold ofText
  cases read : Draft.ofText text with
  | error e => exact .inl ⟨e, rfl, rfl, Draft.ofText_foreseen read⟩
  | ok d =>
    refine .inr ⟨d, rfl, resolve_unforeseen_iff_slips [] d, fun p resolved => ?_⟩
    exact ⟨Draft.parents_of_resolve resolved, Draft.name_of_resolve resolved⟩

/-- An unknown key that is a number is not reported like one that is a text. -/
theorem ofText_unforeseen_of_number :
    ∃ e, ofText ⟨[], []⟩ "1: 2".toList = .error e ∧ e.isUnforeseen = true := by
  have failed : (match ofText ⟨[], []⟩ "1: 2".toList with
      | .error e => e.isUnforeseen
      | .ok _ => false) = true := by decide +kernel
  cases result : ofText ⟨[], []⟩ "1: 2".toList with
  | error e =>
    rw [result] at failed
    exact ⟨e, rfl, failed⟩
  | ok p =>
    rw [result] at failed
    cases failed

end Profile

end BundleAudit

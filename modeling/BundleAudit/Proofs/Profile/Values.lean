import BundleAudit.Proofs.Profile.Validity
import Mathlib

/-!
# Values of profiles

What inheriting and resolving make of the value of one key. The value that counts is the last one that the
document itself gives to the key, else the last one among its parents that differs from the default.
-/

namespace BundleAudit

/-- Keys of texts and of lists. -/
inductive Key
  | text (k : TextKey)
  | list (k : ListKey)
deriving DecidableEq, Repr

/-- What a key holds. -/
inductive KeyValue
  | text (s : String)
  | list (items : List String)
deriving DecidableEq, Repr

namespace Key

def name : Key → String
  | .text k => k.name
  | .list k => k.name

def default : Key → KeyValue
  | .text k => .text k.default
  | .list k => .list k.default

/-- All keys but the description are inherited. -/
def IsInherited (key : Key) : Prop := key ≠ .text .description

instance (key : Key) : Decidable key.IsInherited := inferInstanceAs (Decidable (key ≠ .text .description))

/-- The keys that are inherited. -/
def inherited : List Key := (TextKey.all.filter (· ≠ .description)).map .text ++ ListKey.all.map .list

theorem mem_inherited {key : Key} (h : key.IsInherited) : key ∈ inherited := by
  cases key with
  | text k => cases k <;> first | exact absurd rfl h | decide
  | list k => cases k <;> decide

theorem name_ne_inherit (key : Key) : key.name ≠ "inherit" := by
  cases key with
  | text k => cases k <;> decide
  | list k => cases k <;> decide

end Key

theorem ListKey.name_of_ofName? {s : String} {k : ListKey} (h : ofName? s = some k) : k.name = s := by
  simpa using List.find?_some h

theorem TextKey.name_of_ofName? {s : String} {k : TextKey} (h : ofName? s = some k) : k.name = s := by
  simpa using List.find?_some h

namespace Key

def ofName? (s : String) : Option Key := ((ListKey.ofName? s).map .list).or ((TextKey.ofName? s).map .text)

theorem ofName?_name (key : Key) : ofName? key.name = some key := by
  cases key with
  | text k => cases k <;> decide
  | list k => cases k <;> decide

/-- Keys have names of their own. -/
theorem name_injective : Function.Injective name := fun key key' same => by
  have found := ofName?_name key
  rw [same, ofName?_name] at found
  exact (Option.some.inj found).symm

end Key

namespace Profile

def value (p : Profile) : Key → KeyValue
  | .text k => .text (p.text k)
  | .list k => .list (p.list k)

/-- The profiles have the same values; their names, descriptions and parents may differ. -/
def SameValues (p q : Profile) : Prop := ∀ key : Key, key.IsInherited → p.value key = q.value key

/-! ## Inheriting -/

theorem value_inheritFrom (p parent : Profile) {key : Key} (inherited : key.IsInherited) :
    (p.inheritFrom parent).value key = if parent.value key = key.default then p.value key else parent.value key := by
  cases key with
  | text k =>
    have other : k ≠ .description := fun same => inherited (by rw [same])
    by_cases same : parent.text k = k.default <;> simp [value, inheritFrom, Key.default, other, same]
  | list k =>
    by_cases same : parent.list k = k.default <;> simp [value, inheritFrom, Key.default, same]

theorem description_inheritFrom (p parent : Profile) :
    (p.inheritFrom parent).value (.text .description) = p.value (.text .description) := by
  simp [value, inheritFrom]

/-- The last of the values that differs from the default. -/
def lastOther? (key : Key) (values : List KeyValue) : Option KeyValue :=
  (values.filter (· ≠ key.default)).getLast?

theorem lastOther?_append (key : Key) (vs ws : List KeyValue) :
    lastOther? key (vs ++ ws) = (lastOther? key ws).or (lastOther? key vs) := by
  unfold lastOther?
  rw [List.filter_append, List.getLast?_append]

theorem lastOther?_default (key : Key) : lastOther? key [key.default] = none := by
  simp [lastOther?]

theorem lastOther?_single {key : Key} {v : KeyValue} (other : v ≠ key.default) : lastOther? key [v] = some v := by
  simp [lastOther?, other]

/-- What counts among values counts by itself as well. -/
theorem lastOther?_getD (key : Key) (vs : List KeyValue) :
    lastOther? key [(lastOther? key vs).getD key.default] = lastOther? key vs := by
  cases last : lastOther? key vs with
  | none => exact lastOther?_default key
  | some v => exact lastOther?_single (by simpa using (List.mem_filter.1 (List.mem_of_getLast? last)).2)

theorem value_foldl_inheritFrom {key : Key} (inherited : key.IsInherited) : ∀ (parents : List Profile) (p : Profile),
    (parents.foldl inheritFrom p).value key = (lastOther? key (parents.map (·.value key))).getD (p.value key)
  | [], p => rfl
  | parent :: parents, p => by
    rw [List.foldl_cons, value_foldl_inheritFrom inherited parents, value_inheritFrom p parent inherited]
    unfold lastOther?
    by_cases same : parent.value key = key.default
    · simp [same]
    · rw [if_neg same, List.map_cons, List.filter_cons_of_pos (by simpa using same), List.getLast?_cons]
      rfl

theorem description_foldl_inheritFrom : ∀ (parents : List Profile) (p : Profile),
    (parents.foldl inheritFrom p).value (.text .description) = p.value (.text .description)
  | [], _ => rfl
  | parent :: parents, p => by
    rw [List.foldl_cons, description_foldl_inheritFrom parents, description_inheritFrom]

namespace Draft

open BundleAudit.Yaml

/-! ## Setting -/

variable {d : Draft}

/-- What a key makes of a value. -/
def read? (d : Draft) : Key → Value → Option KeyValue
  | .text _, .scalar (.str s) => some (.text (String.ofList s))
  | .text _, _ => none
  | .list _, v => (d.textsOf? v).map .list

/-- The value that an entry gives to a key; a null value gives none. -/
def given? (d : Draft) (key : Key) (e : Scalar × Value) : Option KeyValue :=
  if e.1 = .str key.name.toList then d.read? key e.2 else none

/-- The value that a document itself gives to a key. -/
def own? (d : Draft) (key : Key) : Option KeyValue := (d.entries.filterMap (d.given? key)).getLast?

theorem read?_null (key : Key) : d.read? key (.scalar .null) = none := by
  cases key <;> rfl

theorem given?_null (key : Key) (k : Scalar) : d.given? key (k, .scalar .null) = none := by
  unfold given?
  split <;> simp [read?_null]

theorem given?_of_ne {key : Key} {name : String} (other : key.name ≠ name) (v : Value) :
    d.given? key (.str name.toList, v) = none := by
  unfold given?
  rw [if_neg fun same => other (String.toList_inj.1 (Scalar.str.inj same)).symm]

theorem given?_self (key : Key) (v : Value) : d.given? key (.str key.name.toList, v) = d.read? key v :=
  if_pos rfl

theorem value_setText (p : Profile) (k : TextKey) (s : String) (key : Key) :
    (p.setText k s).value key = if key = .text k then .text s else p.value key := by
  cases key with
  | text k' =>
    by_cases same : k' = k <;> simp [value, setText, same]
  | list k' => simp [value, setText]

theorem value_setList (p : Profile) (k : ListKey) (items : List String) (key : Key) :
    (p.setList k items).value key = if key = .list k then .list items else p.value key := by
  cases key with
  | text k' => simp [value, setList]
  | list k' =>
    by_cases same : k' = k <;> simp [value, setList, same]

theorem value_setValue {p q : Profile} {name : String} {v : Value} (set : d.setValue p name v = .ok q) (key : Key) :
    q.value key = (d.given? key (.str name.toList, v)).getD (p.value key) := by
  unfold setValue at set
  by_cases skipped : (name == "inherit" || v == .scalar .null) = true
  · rw [if_pos skipped] at set
    obtain rfl := Except.ok.inj set
    rcases Bool.or_eq_true_iff.1 skipped with same | null
    · rw [given?_of_ne (beq_iff_eq.1 same ▸ key.name_ne_inherit)]
      rfl
    · rw [beq_iff_eq.1 null, given?_null]
      rfl
  rw [if_neg skipped] at set
  cases list : ListKey.ofName? name with
  | some k =>
    obtain rfl : (Key.list k).name = name := ListKey.name_of_ofName? list
    cases texts : d.textsOf? v with
    | none => simp [list, texts] at set
    | some items =>
      obtain rfl : p.setList k items = q := by simpa [list, texts] using set
      rw [value_setList]
      by_cases same : key = .list k
      · rw [if_pos same, same, given?_self]
        simp [read?, texts]
      · rw [if_neg same, given?_of_ne fun names => same (Key.name_injective names)]
        rfl
  | none =>
    simp only [list] at set
    split at set
    · next s k text =>
      obtain rfl : (Key.text k).name = name := TextKey.name_of_ofName? text
      obtain rfl := Except.ok.inj set
      rw [value_setText]
      by_cases same : key = .text k
      · rw [if_pos same, same, given?_self]
        rfl
      · rw [if_neg same, given?_of_ne fun names => same (Key.name_injective names)]
        rfl
    · next text =>
      obtain rfl := Except.ok.inj set
      have unknown : key.name ≠ name := by
        rintro rfl
        have found := key.ofName?_name
        simp [Key.ofName?, list, text] at found
      rw [given?_of_ne unknown]
      rfl
    · cases set

theorem value_setValues {key : Key} : ∀ {entries : List (Scalar × Value)} {p q : Profile},
    entries.foldlM (fun p e => do d.setValue p (← keyText e.1) e.2) p = .ok q →
      q.value key = (entries.filterMap (d.given? key)).getLast?.getD (p.value key)
  | [], _, _, h => by
    obtain rfl := Except.ok.inj h
    rfl
  | e :: entries, p, q, h => by
    rw [List.foldlM_cons] at h
    obtain ⟨p', first, rest⟩ := eq_ok_of_bind h
    obtain ⟨name, text, set⟩ := eq_ok_of_bind first
    have here : e = (.str name.toList, e.2) := Prod.ext (keyText_eq_ok text) rfl
    rw [value_setValues rest, value_setValue set key, ← here]
    cases given : d.given? key e with
    | none => rw [List.filterMap_cons_none given]; rfl
    | some v => rw [List.filterMap_cons_some given, List.getLast?_cons]; rfl

/-! ## Resolving -/

/-- The profile of a document with its parents. Name and description are its own. -/
structure Becomes (d : Draft) (parents : List Profile) (p : Profile) : Prop where
  name : p.name = d.profileName
  description : p.value (.text .description) = (d.own? (.text .description)).getD (.text "")
  /-- The last value counts that differs from the default, unless the document itself gives one. -/
  values : ∀ key : Key, key.IsInherited →
    p.value key = (d.own? key).getD ((lastOther? key (parents.map (·.value key))).getD key.default)

theorem becomes_of_build {parents : List (String × Profile)} {p : Profile} (built : d.build parents = .ok p) :
    d.Becomes (parents.map (·.2)) p := by
  unfold build at built
  obtain ⟨q, set, made⟩ := eq_ok_of_bind built
  obtain rfl := Except.ok.inj made
  rw [← List.foldl_map (f := fun parent : String × Profile => parent.2) (g := inheritFrom)] at set
  have default : ∀ key, ({} : Profile).value key = key.default := fun key => by cases key <;> rfl
  refine ⟨rfl, ?_, fun key inherited => ?_⟩
  · show q.value (.text .description) = _
    rw [value_setValues set, description_foldl_inheritFrom]
    rfl
  · show q.value key = _
    rw [value_setValues set, value_foldl_inheritFrom inherited, default]
    rfl

end Draft

end Profile

end BundleAudit

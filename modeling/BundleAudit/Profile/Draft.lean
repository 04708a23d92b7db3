import BundleAudit.FileSystem.Tree
import BundleAudit.Profile.Basic
import BundleAudit.Text.Utf8
import BundleAudit.Yaml.Document

/-!
# Profile documents

A profile document is a mapping from keys to texts and lists. It may name documents and presets to
inherit from. Those apply in order, each with the values in which it differs from the defaults, and the
document's own values override them.
-/

namespace BundleAudit

open BundleAudit.FileSystem BundleAudit.Text BundleAudit.Yaml

namespace Profile

/-! ## References -/

/-- What a profile inherits from. -/
inductive Reference
  | preset (name : String)
  | file (path : String)
deriving DecidableEq, Repr

def presetMark : String := "preset:"

def Reference.ofString (s : String) : Reference :=
  if presetMark.toList.isPrefixOf s.toList then
    .preset (String.ofList (s.toList.drop presetMark.length))
  else .file s

/-- What tells documents apart: the place of a file, or the name of a preset as it is written. -/
inductive Origin
  | preset (name : String)
  | file (place : Place)
deriving DecidableEq, Repr

/-- The absolute text of a place in a tree. -/
def placeText (place : Place) : String := "/" ++ "/".intercalate place

def Origin.text : Origin → String
  | .preset name => presetMark ++ name
  | .file place => placeText place

end Profile

/-- Why a profile cannot be loaded. -/
inductive ProfileError
  | document (e : LoadError)
  | file (e : FileError)
  | notText (e : InvalidSequence)
  | notMapping
  | circular (origin : Profile.Origin)
  | unknownKeys (keys : List String)
  /-- A key that is not a text. -/
  | foreignKey
  | notList (key : String)
  | notString (key : String)
  | unknownPreset (name : String)
  /-- The value under the key of the parents holds no items. -/
  | noParents
  /-- A parent that is neither a text nor bytes. -/
  | foreignParent
  /-- A parent that is written in bytes. -/
  | bytesParent
deriving DecidableEq, Repr

/-- The message of an error that has one. -/
def ProfileError.message? : ProfileError → Option String
  | .document e => e.message?
  | .file e => some e.message
  | .notText e => some e.message
  | .notMapping => some "Profile YAML must be a mapping"
  | .circular origin => some s!"Circular profile inheritance detected: {origin.text}"
  | .unknownKeys keys =>
    let names := ", ".intercalate keys
    some s!"Unknown profile keys: {names}"
  | .notList key => some s!"Profile key '{key}' must be a list"
  | .notString key => some s!"Profile key '{key}' must be a string"
  | .unknownPreset name => some s!"Unknown profile preset: {name}"
  | .foreignKey | .noParents | .foreignParent | .bytesParent => none

namespace Profile

/-- A profile with the values of another one where that one differs from the defaults. Name, description
and parents are not inherited. -/
def inheritFrom (p parent : Profile) : Profile where
  name := p.name
  parents := p.parents
  text key :=
    if key = .description || parent.text key = TextKey.default key then p.text key else parent.text key
  list key := if parent.list key = ListKey.default key then p.list key else parent.list key

/-! ## Drafts -/

/-- A mapping that has been read from a document. -/
structure Draft where
  document : Document
  entries : List (Scalar × Value)

namespace Draft

def ofText (text : List Char) : Except ProfileError Draft := do
  let d ← (Document.ofText text).mapError .document
  match d.root with
  | .scalar _ => .error .notMapping
  | .collection id =>
    match d.collections.getD id (.list []) with
    | .mapping entries => return ⟨d, entries⟩
    | _ => .error .notMapping

def ofBytes (bytes : List UInt8) : Except ProfileError Draft := do
  let text ← (decodeOrFail bytes).mapError .notText
  ofText (unifyLineEnds text)

def value? (d : Draft) (key : String) : Option Value :=
  (d.entries.find? fun e => e.1 == .str key.toList).map (·.2)

def isUnknownKey : Scalar → Bool
  | .str s => !keyNames.contains (String.ofList s)
  | _ => true

/-- A key has to be a text. -/
def keyText : Scalar → Except ProfileError String
  | .str s => .ok (String.ofList s)
  | _ => .error .foreignKey

/-- All keys have to be known. -/
def checkKeys (d : Draft) : Except ProfileError Unit := do
  let names ← ((d.entries.map (·.1)).filter isUnknownKey).mapM keyText
  if !names.isEmpty then
    .error (.unknownKeys (names.mergeSort fun m n => (compare m n).isLE))

/-- A parent has to be a text. -/
def parentName : Value → Except ProfileError String
  | .scalar (.str s) => .ok (String.ofList s)
  | .scalar (.bytes _) => .error .bytesParent
  | _ => .error .foreignParent

/-- What is listed as parents: a single text, the items of a list, or the keys of a mapping. -/
def parents (d : Draft) : Except ProfileError (List (Except ProfileError String)) :=
  match d.value? "inherit" with
  | none => .ok []
  | some (.scalar (.str s)) => .ok [.ok (String.ofList s)]
  | some (.scalar (.bytes bs)) => .ok (bs.map fun _ => .error .foreignParent)
  | some (.scalar _) => .error .noParents
  | some (.collection id) =>
    match d.document.collections.getD id (.list []) with
    | .list items => .ok (items.map parentName)
    | .pairs items => .ok (items.map fun _ => .error .foreignParent)
    | .mapping entries => .ok (entries.map fun e => parentName (.scalar e.1))
    | .set keys => .ok (keys.map fun k => parentName (.scalar k))

/-- The references among the parents. -/
def references (d : Draft) : List Reference :=
  match d.parents with
  | .error _ => []
  | .ok items => items.filterMap fun item => (item.map Reference.ofString).toOption

theorem mem_references {d : Draft} {items : List (Except ProfileError String)} {name : String}
    (h : d.parents = .ok items) (mem : .ok name ∈ items) : Reference.ofString name ∈ d.references := by
  simp only [references, h, List.mem_filterMap]
  exact ⟨.ok name, mem, rfl⟩

/-- The texts of the items of a list; a single text stands for a list of one. -/
def textsOf? (d : Draft) (v : Value) : Option (List String) :=
  let text (v : Value) : String := String.ofList (d.document.valueText v)
  match v with
  | .scalar (.str s) => some [String.ofList s]
  | .scalar _ => none
  | .collection id =>
    match d.document.collections.getD id (.list []) with
    | .list items => some (items.map text)
    | .pairs items =>
      some (items.map fun p =>
        String.ofList (Document.bracketed '(' ')' [d.document.writeAlone p.1, d.document.writeAlone p.2]))
    | .mapping _ | .set _ => none

/-- Sets one value. A null value sets nothing. -/
def setValue (d : Draft) (p : Profile) (key : String) (v : Value) : Except ProfileError Profile :=
  if key == "inherit" || v == .scalar .null then .ok p
  else
    match ListKey.ofName? key with
    | some k =>
      match d.textsOf? v with
      | some texts => .ok (p.setList k texts)
      | none => .error (.notList key)
    | none =>
      match v, TextKey.ofName? key with
      | .scalar (.str s), some k => .ok (p.setText k (String.ofList s))
      | .scalar (.str _), none => .ok p
      | _, _ => .error (.notString key)

/-- The name of a profile: the text under its key, none for a null value. -/
def profileName (d : Draft) : Option String :=
  match d.value? "name" with
  | none => some "unnamed"
  | some (.scalar (.str s)) => some (String.ofList s)
  | some _ => none

/-- Loads the parents in order, with the names that they are listed under. -/
def loadParents (d : Draft) (load : (r : Reference) → r ∈ d.references → Except ProfileError Profile) :
    Except ProfileError (List (String × Profile)) :=
  match h : d.parents with
  | .error e => .error e
  | .ok items => items.attach.mapM fun item =>
    match item with
    | ⟨.error e, _⟩ => .error e
    | ⟨.ok name, mem⟩ => do return (name, ← load (.ofString name) (mem_references h mem))

/-- The profile of a document with the given parents. -/
def build (d : Draft) (parents : List (String × Profile)) : Except ProfileError Profile := do
  let base := parents.foldl (fun base parent => inheritFrom base parent.2) {}
  let p ← d.entries.foldlM (fun p e => do d.setValue p (← keyText e.1) e.2) base
  return { p with name := d.profileName, parents := parents.map (·.1) }

/-- The profile of a document, whose parents are loaded by `load`. -/
def resolve (d : Draft) (load : (r : Reference) → r ∈ d.references → Except ProfileError Profile) :
    Except ProfileError Profile := do
  d.checkKeys
  d.build (← d.loadParents load)

end Draft

end Profile

end BundleAudit

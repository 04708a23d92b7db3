import BundleAudit.Yaml.Node
import BundleAudit.Yaml.Scalar

/-!
# Documents

The values of a document: scalars, and collections that are numbered so that one can occur at several
places, also inside itself. A collection is opened where it is first met and filled after all that were
opened before it.

Before a mapping is filled, its merge keys are replaced by the pairs of the mappings that they name. Those
come in front, so a pair of the mapping itself overrides them.
-/

namespace BundleAudit.Yaml

inductive Value
  | scalar (s : Scalar)
  | collection (id : Nat)
deriving DecidableEq, Repr

inductive Collection
  | list (items : List Value)
  | pairs (items : List (Value × Value))
  | mapping (entries : List (Scalar × Value))
  | set (keys : List Scalar)
deriving DecidableEq, Repr

/-- The value of a text. -/
structure Document where
  collections : Array Collection
  root : Value
deriving Repr

/-- How a node fills its collection. -/
inductive Filling
  | list
  | pairs
  | mapping
  | set
deriving DecidableEq, Repr

def Filling.empty : Filling → Collection
  | .list => .list []
  | .pairs => .pairs []
  | .mapping => .mapping []
  | .set => .set []

/-- A collection that is still to be filled. -/
structure Task where
  filling : Filling
  node : Nat
  collection : Nat

structure Builder where
  nodes : Array Node
  /-- The values of the nodes that have been met. -/
  values : Array (Option Value)
  collections : Array Collection := #[]
  /-- The collections that were opened since the last round of filling, the latest first. -/
  opened : List Task := []

abbrev BuildM := StateT Builder (Except LoadError)

namespace Builder

def malformed {α : Type} : BuildM α := fun _ => .error .malformed

def node (id : Nat) : BuildM Node := return (← get).nodes.getD id ⟨.unknown, .scalar []⟩

def tag (id : Nat) : BuildM Tag := return (← node id).tag

def modifyNode (id : Nat) (f : Node → Node) : BuildM Unit :=
  modify fun b => { b with nodes := b.nodes.modify id f }

def setPairs (id : Nat) (pairs : List (Nat × Nat)) : BuildM Unit :=
  modifyNode id fun n => { n with content := .mapping pairs }

/-- The pairs of a mapping. -/
def pairsOf (id : Nat) : BuildM (List (Nat × Nat)) := do
  match (← node id).content with
  | .mapping pairs => return pairs
  | _ => malformed

/-! ## Scalars -/

/-- The text of a scalar. A mapping stands for the text under its value key. -/
def scalarText : Nat → Nat → BuildM (List Char)
  | 0, _ => fun _ => .error .endless
  | fuel + 1, id => do
    match (← node id).content with
    | .scalar text => return text
    | .sequence _ => malformed
    | .mapping pairs =>
      match ← pairs.findM? fun p => return (← tag p.1) == .value with
      | some p => scalarText fuel p.2
      | none => malformed

def readText (id : Nat) : BuildM (List Char) := do scalarText ((← get).nodes.size + 1) id

def readScalar (id : Nat) (read : List Char → Except LoadError Scalar) : BuildM Value := do
  let s ← (read (← readText id) : Except LoadError Scalar)
  return .scalar s

/-- A date is read from the text of the node itself. -/
def readTimestamp (id : Nat) : BuildM Value := do
  let text ← readText id
  match (← node id).content with
  | .scalar _ => do
    let s ← (Scalar.ofTimestampText text : Except LoadError Scalar)
    return .scalar s
  | _ => fun _ => .error .dateInMapping

/-! ## Collections -/

/-- Opens a collection. -/
def openCollection (filling : Filling) (id : Nat) : BuildM Value :=
  modifyGet fun b =>
    let collection := b.collections.size
    (.collection collection,
      { b with
        collections := b.collections.push filling.empty
        opened := ⟨filling, id, collection⟩ :: b.opened })

/-- The value of a node that is met for the first time. -/
def newValue (id : Nat) : BuildM Value := do
  match ← tag id with
  | .null => readScalar id fun _ => .ok .null
  | .bool => readScalar id Scalar.ofBoolText
  | .int => readScalar id Scalar.ofIntText
  | .float => readScalar id Scalar.ofFloatText
  | .binary => readScalar id Scalar.ofBinaryText
  | .timestamp => readTimestamp id
  | .str => readScalar id fun s => .ok (.str s)
  | .omap | .pairs => openCollection .pairs id
  | .set => openCollection .set id
  | .seq => openCollection .list id
  | .map => openCollection .mapping id
  | .merge | .value | .unknown => malformed

/-- The value of a node. -/
def value (id : Nat) : BuildM Value := do
  match (← get).values.getD id none with
  | some v => return v
  | none => do
    let v ← newValue id
    modify fun b => { b with values := b.values.setIfInBounds id (some v) }
    return v

/-! ## Merging -/

/-- A value key in a mapping is a text like others. -/
def renameValueKeys (pairs : List (Nat × Nat)) : BuildM Unit :=
  pairs.forM fun p => do
    if (← tag p.1) == .value then modifyNode p.1 fun n => { n with tag := .str }

mutual

/-- Replaces the merge keys of a mapping. -/
def flatten : Nat → Nat → BuildM Unit
  | 0, _ => malformed
  | fuel + 1, id => do
    let pairs ← pairsOf id
    if ← pairs.anyM fun p => return (← tag p.1) == .merge then
      let merged ← flattenFrom fuel id 0
      setPairs id (merged ++ (← pairsOf id))
    else renameValueKeys pairs

/-- Takes the merge keys out of a mapping, from a place on, and gives the pairs that they stand for. -/
def flattenFrom : Nat → Nat → Nat → BuildM (List (Nat × Nat))
  | 0, _, _ => malformed
  | fuel + 1, id, index => do
    let pairs ← pairsOf id
    match pairs[index]? with
    | none => return []
    | some p => do
      match ← tag p.1 with
      | .merge => do
        setPairs id (pairs.eraseIdx index)
        let merged ← mergedPairs fuel p.2
        return merged ++ (← flattenFrom fuel id index)
      | .value => do
        modifyNode p.1 fun n => { n with tag := .str }
        flattenFrom fuel id (index + 1)
      | _ => flattenFrom fuel id (index + 1)

/-- The pairs that a merge key stands for: those of a mapping, or those of several, of which the first
has the last word. -/
def mergedPairs : Nat → Nat → BuildM (List (Nat × Nat))
  | 0, _ => malformed
  | fuel + 1, id => do
    match (← node id).content with
    | .mapping _ => do
      flatten fuel id
      pairsOf id
    | .sequence items => mergedItems fuel items
    | .scalar _ => malformed

def mergedItems : Nat → List Nat → BuildM (List (Nat × Nat))
  | 0, _ => malformed
  | _, [] => return []
  | fuel + 1, item :: items => do
    let _ ← pairsOf item
    flatten fuel item
    let first ← pairsOf item
    return (← mergedItems fuel items) ++ first

end

/-! ## Filling -/

/-- Sets a key; a key that is there already keeps its place. -/
def setEntry (key : Scalar) (v : Value) : List (Scalar × Value) → List (Scalar × Value)
  | [] => [(key, v)]
  | (k, w) :: rest => if k.key = key.key then (k, v) :: rest else (k, w) :: setEntry key v rest

/-- The value of a node that is a key. -/
def keyValue (id : Nat) : BuildM Scalar := do
  match ← value id with
  | .scalar s => return s
  | .collection _ => malformed

/-- The entries of a mapping whose merge keys have been replaced. -/
def entriesOf (id : Nat) : BuildM (List (Scalar × Value)) := do
  let size := (← get).nodes.size
  flatten (Nat.pow (size + 2) 4) id
  (← pairsOf id).foldlM (fun entries p => do
    let key ← keyValue p.1
    let v ← value p.2
    return setEntry key v entries) []

def itemsOf (id : Nat) : BuildM (List Nat) := do
  match (← node id).content with
  | .sequence items => return items
  | _ => malformed

/-- The pair of a mapping that has no other. -/
def singlePair (id : Nat) : BuildM (Value × Value) := do
  match ← pairsOf id with
  | [p] => do
    let key ← value p.1
    return (key, ← value p.2)
  | _ => malformed

/-- What a node fills its collection with. -/
def contentOf (filling : Filling) (id : Nat) : BuildM Collection := do
  match filling with
  | .list => return .list (← (← itemsOf id).mapM value)
  | .pairs => return .pairs (← (← itemsOf id).mapM singlePair)
  | .mapping => return .mapping (← entriesOf id)
  | .set => return .set ((← entriesOf id).map (·.1))

def fill (task : Task) : BuildM Unit := do
  let c ← contentOf task.filling task.node
  modify fun b => { b with collections := b.collections.setIfInBounds task.collection c }

/-- Fills the open collections, round by round. -/
def fillAll : Nat → BuildM Unit
  | 0 => pure ()
  | fuel + 1 => do
    let tasks := (← get).opened.reverse
    if tasks.isEmpty then return
    else do
      modify fun b => { b with opened := [] }
      tasks.forM fill
      fillAll fuel

def build (root : Nat) : BuildM Value := do
  let v ← value root
  fillAll ((← get).nodes.size + 1)
  return v

end Builder

def LoadError.ofScanError : ScanError → LoadError
  | .malformed => .malformed
  | .noSuchCodePoint code => .noSuchCodePoint code

namespace Document

/-- The document of a text; an empty one is the null value. -/
def ofText (text : List Char) : Except LoadError Document := do
  match ← (NodeGraph.ofText text).mapError LoadError.ofScanError with
  | none => return ⟨#[], .scalar .null⟩
  | some g =>
    let start : Builder := { nodes := g.nodes, values := Array.replicate g.nodes.size none }
    let (root, b) ← (Builder.build g.root).run start
    return ⟨b.collections, root⟩

/-! ## Text -/

def joined (parts : List (List Char)) : List Char := List.intercalate ", ".toList parts

def bracketed (left right : Char) (parts : List (List Char)) : List Char :=
  left :: (joined parts ++ [right])

/-- The written form of a value. A collection inside itself is not written again. -/
def writeValue (d : Document) : Nat → List Nat → Value → List Char
  | _, _, .scalar s => s.written
  | 0, _, .collection _ => []
  | fuel + 1, outer, .collection id =>
    let write := writeValue d fuel (id :: outer)
    match d.collections.getD id (.list []) with
    | .list items =>
      if outer.contains id then "[...]".toList else bracketed '[' ']' (items.map write)
    | .pairs items =>
      if outer.contains id then "[...]".toList
      else bracketed '[' ']' (items.map fun p => bracketed '(' ')' [write p.1, write p.2])
    | .mapping entries =>
      if outer.contains id then "\x7b...\x7d".toList
      else
        bracketed '\x7b' '\x7d' (entries.map fun e => e.1.written ++ ": ".toList ++ write e.2)
    | .set [] => "set()".toList
    | .set keys => bracketed '\x7b' '\x7d' (keys.map Scalar.written)

/-- The written form of a value that stands in no other one. -/
def writeAlone (d : Document) (v : Value) : List Char := writeValue d (d.collections.size + 1) [] v

/-- The text of a value that stands alone. -/
def valueText (d : Document) (v : Value) : List Char :=
  match v with
  | .scalar s => s.text
  | .collection _ => d.writeAlone v

end Document

end BundleAudit.Yaml

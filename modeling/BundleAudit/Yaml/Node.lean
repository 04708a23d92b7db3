import BundleAudit.Yaml.Tag
import BundleAudit.Yaml.TokenStream

/-!
# Nodes

The structure of a document: scalars, sequences and mappings with their tags. Nodes are numbered and
refer to each other by number, so an alias is the number of the node that it names, also while that
node is still being read.
-/

namespace BundleAudit.Yaml

inductive Content
  | scalar (text : List Char)
  | sequence (items : List Nat)
  | mapping (pairs : List (Nat × Nat))
deriving DecidableEq, Repr

structure Node where
  tag : Tag
  content : Content
deriving DecidableEq, Repr

/-- A name for tags in front of which a text stands. -/
structure Handle where
  name : List Char
  expansion : List Char
deriving DecidableEq, Repr

def Handle.standard : List Handle :=
  [⟨['!'], ['!']⟩, ⟨['!', '!'], Tag.standardStart⟩]

structure NodeReader where
  tokens : List Token
  /-- Why the tokens end before the text does. -/
  ending : Option ScanError
  nodes : Array Node := #[]
  anchors : List (List Char × Nat) := []
  handles : List Handle := Handle.standard

/-- Reading from the front of the tokens. -/
abbrev ReadM := StateT NodeReader (Except ScanError)

namespace NodeReader

def malformed {α : Type} : ReadM α := fun _ => .error .malformed

def peek : ReadM Token := fun r =>
  match r.tokens with
  | t :: _ => .ok (t, r)
  | [] => .error (r.ending.getD .malformed)

def skip : ReadM Unit := modify fun r => { r with tokens := r.tokens.tail }

def isNext (t : Token) : ReadM Bool := return (← peek) == t

/-- Whether the next token is one of those given. -/
def isNextOf (ts : List Token) : ReadM Bool := return ts.contains (← peek)

/-- Takes a token if it is the next one. -/
def accept (t : Token) : ReadM Bool := do
  let found ← isNext t
  if found then skip
  return found

def expect (t : Token) : ReadM Unit := do
  if !(← accept t) then malformed

/-- Adds a node and returns its number. -/
def add (n : Node) : ReadM Nat :=
  modifyGet fun r => (r.nodes.size, { r with nodes := r.nodes.push n })

/-- Adds a scalar that is left out. -/
def addMissing : ReadM Nat := add ⟨.null, .scalar []⟩

def setContent (id : Nat) (c : Content) : ReadM Unit :=
  modify fun r => { r with nodes := r.nodes.modify id fun n => { n with content := c } }

/-- Adds a node under a name, which is given only once. -/
def addNamed (anchor : Option (List Char)) (n : Node) : ReadM Nat := do
  match anchor with
  | none => add n
  | some name => do
    if ((← get).anchors.lookup name).isSome then malformed
    let id ← add n
    modify fun r => { r with anchors := (name, id) :: r.anchors }
    return id

/-- Adds a collection under a name, and then reads what it holds. -/
def addCollection (anchor : Option (List Char)) (n : Node) (content : ReadM Content) : ReadM Nat := do
  let id ← addNamed anchor n
  setContent id (← content)
  return id

def readAnchor : ReadM (Option (List Char)) := do
  match ← peek with
  | .anchor name => do
    skip
    return some name
  | _ => return none

/-- A tag in full, with what its handle stands for. -/
def readTag : ReadM (Option (List Char)) := do
  match ← peek with
  | .tag handle suffix => do
    skip
    match handle with
    | none => return some suffix
    | some name =>
      match (← get).handles.find? (·.name == name) with
      | some h => return some (h.expansion ++ suffix)
      | none => malformed
  | _ => return none

/-- What stands in front of a node. -/
structure Properties where
  anchor : Option (List Char)
  tag : Option (List Char)

namespace Properties

def isEmpty (p : Properties) : Bool := p.anchor.isNone && p.tag.isNone

/-- The tag that is written, if it is not the mark alone. -/
def explicitTag? (p : Properties) : Option Tag := (p.tag.filter (· != ['!'])).map Tag.ofText

/-- The tag of a scalar. The mark alone asks for the tag that the text implies, also in quotes. -/
def scalarTag (p : Properties) (text : List Char) (plain : Bool) : Tag :=
  match p.explicitTag? with
  | some tag => tag
  | none => if plain || p.tag.isSome then Tag.implied text else .str

def sequenceNode (p : Properties) : Node := ⟨p.explicitTag?.getD .seq, .sequence []⟩

def mappingNode (p : Properties) : Node := ⟨p.explicitTag?.getD .map, .mapping []⟩

end Properties

/-- An anchor and a tag, in either order. -/
def readProperties : ReadM Properties := do
  match ← readAnchor with
  | some name => return ⟨some name, ← readTag⟩
  | none =>
    match ← readTag with
    | some tag => return ⟨← readAnchor, some tag⟩
    | none => return ⟨none, none⟩

/-- Where a node stands. -/
inductive Position
  | flow
  | block
  /-- In a block whose column the entries of a sequence may share. -/
  | blockOrEntries
deriving DecidableEq, Repr

/-- Reads a scalar, or one that is left out behind its properties. -/
def readScalar (p : Properties) : ReadM Nat := do
  match ← peek with
  | .scalar text plain => do
    skip
    addNamed p.anchor ⟨p.scalarTag text plain, .scalar text⟩
  | _ => if p.isEmpty then malformed else addNamed p.anchor ⟨p.scalarTag [] true, .scalar []⟩

mutual

/-- Reads a node. -/
def readNode : Nat → Position → ReadM Nat
  | 0, _ => malformed
  | fuel + 1, position => do
    match ← peek with
    | .alias name => do
      skip
      match (← get).anchors.lookup name with
      | some id => return id
      | none => malformed
    | _ => do
      let p ← readProperties
      let next ← peek
      if position == .blockOrEntries && next == .blockEntry then
        addCollection p.anchor p.sequenceNode (.sequence <$> readEntries fuel)
      else if next == .flowSequenceStart then do
        skip
        addCollection p.anchor p.sequenceNode (.sequence <$> readFlowItems fuel true)
      else if next == .flowMappingStart then do
        skip
        addCollection p.anchor p.mappingNode (.mapping <$> readFlowPairs fuel true)
      else if position != .flow && next == .blockSequenceStart then do
        skip
        addCollection p.anchor p.sequenceNode (.sequence <$> readBlockItems fuel)
      else if position != .flow && next == .blockMappingStart then do
        skip
        addCollection p.anchor p.mappingNode (.mapping <$> readBlockPairs fuel)
      else readScalar p

/-- Reads a node that is left out if one of the given tokens comes next. -/
def readUnless : Nat → Position → List Token → ReadM Nat
  | 0, _, _ => malformed
  | fuel + 1, position, ends => do
    if ← isNextOf ends then addMissing else readNode fuel position

/-- The items of a sequence that opened a block. -/
def readBlockItems : Nat → ReadM (List Nat)
  | 0 => malformed
  | fuel + 1 => do
    if ← accept .blockEntry then
      let item ← readUnless fuel .block [.blockEntry, .blockEnd]
      return item :: (← readBlockItems fuel)
    else do
      expect .blockEnd
      return []

/-- The items of a sequence in the column of the block around it. -/
def readEntries : Nat → ReadM (List Nat)
  | 0 => malformed
  | fuel + 1 => do
    if ← accept .blockEntry then
      let item ← readUnless fuel .block [.blockEntry, .key, .value, .blockEnd]
      return item :: (← readEntries fuel)
    else return []

/-- The value behind a key, left out where no mark or no node follows. -/
def readBehindKey : Nat → Position → List Token → ReadM Nat
  | 0, _, _ => malformed
  | fuel + 1, position, ends => do
    if ← accept .value then readUnless fuel position ends else addMissing

def readBlockPairs : Nat → ReadM (List (Nat × Nat))
  | 0 => malformed
  | fuel + 1 => do
    if ← accept .key then
      let key ← readUnless fuel .blockOrEntries [.key, .value, .blockEnd]
      let value ← readBehindKey fuel .blockOrEntries [.key, .value, .blockEnd]
      return (key, value) :: (← readBlockPairs fuel)
    else do
      expect .blockEnd
      return []

/-- The pair that starts here as an item of a sequence. -/
def readSinglePair : Nat → ReadM (List (Nat × Nat))
  | 0 => malformed
  | fuel + 1 => do
    let key ← readUnless fuel .flow [.value, .flowEntry, .flowSequenceEnd]
    let value ← readBehindKey fuel .flow [.flowEntry, .flowSequenceEnd]
    return [(key, value)]

def readFlowItems : Nat → Bool → ReadM (List Nat)
  | 0, _ => malformed
  | fuel + 1, first => do
    if ← accept .flowSequenceEnd then return []
    else do
      if !first then expect .flowEntry
      if ← accept .key then
        let item ← addCollection none ⟨.map, .mapping []⟩ (.mapping <$> readSinglePair fuel)
        return item :: (← readFlowItems fuel false)
      else if ← accept .flowSequenceEnd then return []
      else do
        let item ← readNode fuel .flow
        return item :: (← readFlowItems fuel false)

def readFlowPairs : Nat → Bool → ReadM (List (Nat × Nat))
  | 0, _ => malformed
  | fuel + 1, first => do
    if ← accept .flowMappingEnd then return []
    else do
      if !first then expect .flowEntry
      if ← accept .key then
        let key ← readUnless fuel .flow [.value, .flowEntry, .flowMappingEnd]
        let value ← readBehindKey fuel .flow [.flowEntry, .flowMappingEnd]
        return (key, value) :: (← readFlowPairs fuel false)
      else if ← accept .flowMappingEnd then return []
      else do
        let key ← readNode fuel .flow
        let value ← addMissing
        return (key, value) :: (← readFlowPairs fuel false)

end

/-- Takes the directives in front of a document. -/
def readDirectives (version : Bool) (handles : List Handle) : Nat → ReadM (List Handle)
  | 0 => malformed
  | fuel + 1 => do
    match ← peek with
    | .directive d => do
      skip
      match d with
      | .version major =>
        if version || major != 1 then malformed else readDirectives true handles fuel
      | .handle name expansion =>
        if handles.any (·.name == name) then malformed
        else readDirectives version (⟨name, expansion⟩ :: handles) fuel
      | .other => readDirectives version handles fuel
    | _ => return handles

def skipDocumentEnds : Nat → ReadM Unit
  | 0 => pure ()
  | fuel + 1 => do if ← accept .documentEnd then skipDocumentEnds fuel

/-- Reads a document with its directives and its start mark. -/
def readMarkedDocument (fuel : Nat) : ReadM (Option Nat) := do
  skipDocumentEnds fuel
  if ← isNext .streamEnd then return none
  else do
    let handles ← readDirectives false [] fuel
    modify fun r => { r with handles := handles ++ Handle.standard }
    expect .documentStart
    match ← peek with
    | .directive _ => some <$> addMissing
    | _ =>
      some <$> readUnless fuel .block [.documentStart, .documentEnd, .streamEnd]

/-- Reads the only document of a text, which may be missing. -/
def readDocument (fuel : Nat) : ReadM (Option Nat) := do
  let root ←
    match ← peek with
    | .directive _ | .documentStart | .streamEnd => readMarkedDocument fuel
    | _ => some <$> readNode fuel .block
  skipDocumentEnds fuel
  expect .streamEnd
  return root

end NodeReader

/-- The nodes of a document, with the number of the outermost one. -/
structure NodeGraph where
  nodes : Array Node
  root : Nat
deriving Repr

/-- The nodes of a text, if it holds a document. -/
def NodeGraph.ofText (text : List Char) : Except ScanError (Option NodeGraph) := do
  let stream := TokenStream.ofText text
  let start : NodeReader := { tokens := stream.tokens, ending := stream.error }
  let (root, r) ← (NodeReader.readDocument (3 * stream.tokens.length + 10)).run start
  return root.map fun id => ⟨r.nodes, id⟩

end BundleAudit.Yaml

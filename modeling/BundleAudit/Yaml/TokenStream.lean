import BundleAudit.Yaml.Token

/-!
# The tokens of a document

Reads all tokens of a text. A key has no mark of its own in front: the first token of what may be a key
is remembered, and when the colon behind it is found on the same line, the mark of the key is inserted
in front of that token. In a block, columns open and close the collections.
-/

namespace BundleAudit.Yaml

/-- The start of what may turn out to be a key. A required one has to. -/
structure KeyCandidate where
  position : Nat
  required : Bool
  index : Nat
  line : Nat
  column : Nat
deriving DecidableEq, Repr

structure TokenReader where
  cursor : Cursor
  tokens : Array Token := #[]
  /-- The column of the innermost open block. -/
  indent : Int := -1
  outerIndents : List Int := []
  keyAllowed : Bool := true
  candidate : Option KeyCandidate := none
  /-- The candidates around each open flow collection, the innermost first. -/
  outerCandidates : List (Option KeyCandidate) := []

namespace TokenReader

def inFlow (r : TokenReader) : Bool := !r.outerCandidates.isEmpty

def push (r : TokenReader) (t : Token) : TokenReader := { r with tokens := r.tokens.push t }

/-- Closes the blocks that are open beyond a column. -/
def closeBlocks (column : Int) : Nat → TokenReader → TokenReader
  | 0, r => r
  | fuel + 1, r =>
    if r.indent ≤ column then r
    else closeBlocks column fuel
      { r.push .blockEnd with indent := r.outerIndents.headD (-1), outerIndents := r.outerIndents.tail }

/-- In a block, closes the blocks that are open beyond a column. -/
def unwind (r : TokenReader) (column : Int) : TokenReader :=
  if r.inFlow then r else closeBlocks column r.outerIndents.length r

/-- Opens a block at a column, unless one is open there. -/
def openBlock (r : TokenReader) (column : Nat) : TokenReader × Bool :=
  if r.indent < column then
    ({ r with indent := column, outerIndents := r.indent :: r.outerIndents }, true)
  else (r, false)

/-- Opens a block at the cursor and writes its mark, unless one is open there. -/
def openBlockHere (r : TokenReader) (start : Token) : TokenReader :=
  match r.openBlock r.cursor.column with
  | (r, true) => r.push start
  | (r, false) => r

/-- Gives up the candidate; a required one must not be given up. -/
def dropCandidate (r : TokenReader) : Except ScanError TokenReader :=
  match r.candidate with
  | some k => if k.required then .error .malformed else .ok { r with candidate := none }
  | none => .ok r

/-- Where a key is allowed, the token at the cursor becomes the candidate. -/
def proposeKey (r : TokenReader) : Except ScanError TokenReader :=
  if r.keyAllowed then do
    let r ← r.dropCandidate
    let c := r.cursor
    let required := !r.inFlow && r.indent == c.column
    return { r with candidate := some ⟨r.tokens.size, required, c.index, c.line, c.column⟩ }
  else .ok r

/-- A key stands on one line and has at most 1024 characters. -/
def isStale (c : Cursor) (k : KeyCandidate) : Bool := k.line != c.line || c.index - k.index > 1024

def forgetStale (c : Cursor) : Option KeyCandidate → Except ScanError (Option KeyCandidate)
  | none => .ok none
  | some k =>
    if !isStale c k then .ok (some k) else if k.required then .error .malformed else .ok none

/-- Gives up the candidates that the cursor has left behind. -/
def dropStale (r : TokenReader) : Except ScanError TokenReader := do
  let candidate ← forgetStale r.cursor r.candidate
  let outer ← r.outerCandidates.mapM (forgetStale r.cursor)
  return { r with candidate := candidate, outerCandidates := outer }

/-- Skips blanks, comments and line ends; in a block, a key may start behind a line end. -/
def skipToToken : Nat → TokenReader → TokenReader
  | 0, r => r
  | fuel + 1, r =>
    let c := r.cursor.skipSpaces.skipComment
    match c.lineBreak? with
    | some (_, c) =>
      skipToToken fuel { r with cursor := c, keyAllowed := r.keyAllowed || !r.inFlow }
    | none => { r with cursor := c }

/-- A mark of `n` characters that ends all blocks. -/
def readSeparator (r : TokenReader) (t : Token) : Except ScanError TokenReader := do
  let r ← (r.unwind (-1)).dropCandidate
  return { r.push t with cursor := r.cursor.advanceBy 3, keyAllowed := false }

def readDirective (r : TokenReader) : Except ScanError TokenReader := do
  let r ← (r.unwind (-1)).dropCandidate
  let (d, c) ← scanDirective r.cursor.advance
  return { r.push (.directive d) with cursor := c, keyAllowed := false }

def readFlowStart (r : TokenReader) (t : Token) : Except ScanError TokenReader := do
  let r ← r.proposeKey
  return { r.push t with
    cursor := r.cursor.advance
    keyAllowed := true
    candidate := none
    outerCandidates := r.candidate :: r.outerCandidates }

def readFlowEnd (r : TokenReader) (t : Token) : Except ScanError TokenReader := do
  let r ← r.dropCandidate
  match r.outerCandidates with
  | [] => .error .malformed
  | candidate :: outer =>
    return { r.push t with
      cursor := r.cursor.advance
      keyAllowed := false
      candidate := candidate
      outerCandidates := outer }

def readFlowEntry (r : TokenReader) : Except ScanError TokenReader := do
  let r ← r.dropCandidate
  return { r.push .flowEntry with cursor := r.cursor.advance, keyAllowed := true }

def readBlockEntry (r : TokenReader) : Except ScanError TokenReader :=
  if !r.inFlow && !r.keyAllowed then .error .malformed
  else do
    let r := if r.inFlow then r else r.openBlockHere .blockSequenceStart
    let r ← r.dropCandidate
    return { r.push .blockEntry with cursor := r.cursor.advance, keyAllowed := true }

/-- A key with a mark of its own. -/
def readKey (r : TokenReader) : Except ScanError TokenReader :=
  if !r.inFlow && !r.keyAllowed then .error .malformed
  else do
    let r := if r.inFlow then r else r.openBlockHere .blockMappingStart
    let r ← r.dropCandidate
    return { r.push .key with cursor := r.cursor.advance, keyAllowed := !r.inFlow }

/-- The mark between a key and its value. -/
def readValue (r : TokenReader) : Except ScanError TokenReader :=
  match r.candidate with
  | some k =>
    let tokens := r.tokens.insertIdxIfInBounds k.position .key
    let r := { r with candidate := none }
    let (r, opened) := if r.inFlow then (r, false) else r.openBlock k.column
    let tokens := if opened then tokens.insertIdxIfInBounds k.position .blockMappingStart else tokens
    .ok { r with
      tokens := tokens.push .value
      cursor := r.cursor.advance
      keyAllowed := false }
  | none =>
    if !r.inFlow && !r.keyAllowed then .error .malformed
    else
      let r := if r.inFlow then r else r.openBlockHere .blockMappingStart
      .ok { r.push .value with cursor := r.cursor.advance, keyAllowed := !r.inFlow }

/-- A token that may start a key. -/
def readKeyPart (r : TokenReader) (scan : Cursor → Except ScanError (Token × Cursor)) :
    Except ScanError TokenReader := do
  let r ← r.proposeKey
  let (t, c) ← scan r.cursor
  return { r.push t with cursor := c, keyAllowed := false }

def readBlockScalar (r : TokenReader) (folded : Bool) : Except ScanError TokenReader := do
  let r ← r.dropCandidate
  let (text, c) ← scanBlockScalar folded r.indent r.cursor.advance
  return { r.push (.scalar text false) with cursor := c, keyAllowed := true }

def readQuoted (r : TokenReader) (double : Bool) : Except ScanError TokenReader :=
  r.readKeyPart fun c => do
    let (text, after) ← scanQuoted double (c.rest.length + 1) c.advance
    return (.scalar text false, after)

def readPlain (r : TokenReader) : Except ScanError TokenReader := do
  let r ← r.proposeKey
  let (text, ended, c) :=
    scanPlain r.inFlow (r.indent + 1) (r.cursor.rest.length + 1) [] false r.cursor
  return { r.push (.scalar text true) with cursor := c, keyAllowed := ended }

/-- Whether a plain scalar may start with a character. -/
def startsPlain (inFlow : Bool) (ch : Char) (rest : List Char) : Bool :=
  !(ch == ' ' || ch == '\t' || isBreak ch ||
      "-?:,[]\x7b\x7d#&*!|>'\"%@\x60".toList.contains ch) ||
    (!startsBlank rest && (ch == '-' || (!inFlow && (ch == '?' || ch == ':'))))

/-- Reads the token at the cursor, with what it entails; says whether the text goes on. -/
def readToken (r : TokenReader) : Except ScanError (TokenReader × Bool) :=
  let continues (x : Except ScanError TokenReader) : Except ScanError (TokenReader × Bool) :=
    x.map (·, true)
  let column := r.cursor.column
  match r.cursor.rest with
  | [] => do
    let r ← (r.unwind (-1)).dropCandidate
    return (r.push .streamEnd, false)
  | ch :: rest =>
    let named := r.inFlow || startsBlank rest
    if ch == '%' && column == 0 then continues r.readDirective
    else if column == 0 && startsSeparator (ch :: rest) then
      continues (r.readSeparator (if ch == '-' then .documentStart else .documentEnd))
    else if ch == '[' then continues (r.readFlowStart .flowSequenceStart)
    else if ch == '\x7b' then continues (r.readFlowStart .flowMappingStart)
    else if ch == ']' then continues (r.readFlowEnd .flowSequenceEnd)
    else if ch == '\x7d' then continues (r.readFlowEnd .flowMappingEnd)
    else if ch == ',' then continues r.readFlowEntry
    else if ch == '-' && startsBlank rest then continues r.readBlockEntry
    else if ch == '?' && named then continues r.readKey
    else if ch == ':' && named then continues r.readValue
    else if ch == '*' then
      continues (r.readKeyPart fun c => do
        let (name, c) ← scanAnchor c.advance
        return (.alias name, c))
    else if ch == '&' then
      continues (r.readKeyPart fun c => do
        let (name, c) ← scanAnchor c.advance
        return (.anchor name, c))
    else if ch == '!' then continues (r.readKeyPart scanTag)
    else if ch == '|' && !r.inFlow then continues (r.readBlockScalar false)
    else if ch == '>' && !r.inFlow then continues (r.readBlockScalar true)
    else if ch == '\'' then continues (r.readQuoted false)
    else if ch == '"' then continues (r.readQuoted true)
    else if startsPlain r.inFlow ch rest then continues r.readPlain
    else .error .malformed

/-- Reads the next token, behind blanks and comments. -/
def step (r : TokenReader) : Except ScanError (TokenReader × Bool) := do
  let r ← (skipToToken (r.cursor.rest.length + 1) r).dropStale
  readToken (r.unwind r.cursor.column)

/-- The tokens that no later mark of a key can change. -/
def settled (r : TokenReader) : List Token :=
  let pending := (r.candidate :: r.outerCandidates).filterMap fun k => k.map (·.position)
  (r.tokens.take (pending.foldl min r.tokens.size)).toList

end TokenReader

/-- The tokens of a text, with the reason why they end before the text does. -/
structure TokenStream where
  tokens : List Token
  error : Option ScanError
deriving DecidableEq, Repr

namespace TokenStream

def collect : Nat → TokenReader → TokenStream
  | 0, r => ⟨r.settled, some .malformed⟩
  | fuel + 1, r =>
    match r.step with
    | .ok (r, true) => collect fuel r
    | .ok (r, false) => ⟨r.tokens.toList, none⟩
    | .error e => ⟨r.settled, some e⟩

/-- The tokens of a text. A byte order mark in front of it is skipped. -/
def ofText (text : List Char) : TokenStream :=
  if text.all isAllowed then
    let start : Cursor := ⟨text, 0, 0, 0⟩
    let start := if text.head? == some '\ufeff' then start.advance else start
    collect (text.length + 2) { cursor := start }
  else ⟨[], some .malformed⟩

end TokenStream

end BundleAudit.Yaml

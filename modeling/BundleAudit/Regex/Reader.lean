import BundleAudit.Regex.Expr
import BundleAudit.Text.Integer

/-!
# Written regular expressions

`Pattern.read` turns the written form of a regular expression into its tree. Modes may be set for the
whole expression at its start, `(?i)`, or for one group, `(?i-s:…)`, and are resolved while reading.
A look-behind must have one width, which is checked when all else has been read. `escape` writes the expression that
matches exactly a given text.
-/

namespace BundleAudit.Regex

open BundleAudit.Text

/-- Why a text is no regular expression: it breaks the grammar, it asks for more repetitions than can
be counted, or it asks for the ASCII and the full meaning of the classes at once. -/
inductive ReadError
  | malformed
  | countTooLarge
  | modeClash
deriving DecidableEq, Repr

/-- A character of the written form, or a backslash with the character behind it. -/
inductive Token
  | plain (c : Char)
  | escaped (c : Char)
  | danglingEscape
deriving DecidableEq, Repr

def tokens : List Char → List Token
  | [] => []
  | ['\\'] => [.danglingEscape]
  | '\\' :: c :: rest => .escaped c :: tokens rest
  | c :: rest => .plain c :: tokens rest

def Token.text : Token → List Char
  | .plain c => [c]
  | .escaped c => ['\\', c]
  | .danglingEscape => ['\\']

structure Modes where
  ignoreCase : Bool := false
  dotAll : Bool := false
  multiline : Bool := false
  verbose : Bool := false
  ascii : Bool := false
  /-- The full meaning of the classes has been asked for by name. -/
  full : Bool := false
deriving DecidableEq, Repr

namespace Modes

def folding (m : Modes) : Folding :=
  if m.ignoreCase then if m.ascii then .ascii else .full else .none

/-- Both sets of modes together. -/
def union (m n : Modes) : Modes where
  ignoreCase := m.ignoreCase || n.ignoreCase
  dotAll := m.dotAll || n.dotAll
  multiline := m.multiline || n.multiline
  verbose := m.verbose || n.verbose
  ascii := m.ascii || n.ascii
  full := m.full || n.full

/-- Whether two sets of modes share one. -/
def overlaps (m n : Modes) : Bool :=
  (m.ignoreCase && n.ignoreCase) || (m.dotAll && n.dotAll) || (m.multiline && n.multiline) ||
    (m.verbose && n.verbose)

/-- The modes inside a group that turns some on and some off. -/
def inside (m on off : Modes) : Modes where
  ignoreCase := (m.ignoreCase || on.ignoreCase) && !off.ignoreCase
  dotAll := (m.dotAll || on.dotAll) && !off.dotAll
  multiline := (m.multiline || on.multiline) && !off.multiline
  verbose := (m.verbose || on.verbose) && !off.verbose
  ascii := if on.ascii || on.full then on.ascii else m.ascii
  full := if on.ascii || on.full then on.full else m.full

/-- The mode that a letter names. -/
def ofLetter? : Char → Option Modes
  | 'i' => some { ignoreCase := true }
  | 's' => some { dotAll := true }
  | 'm' => some { multiline := true }
  | 'x' => some { verbose := true }
  | 'a' => some { ascii := true }
  | 'u' => some { full := true }
  | _ => none

end Modes

/-- The least and the greatest number of characters that an expression can cover. -/
structure Width where
  least : Nat
  most : Nat
deriving DecidableEq, Repr

namespace Width

/-- Widths are not told apart from here on. -/
def limit : Nat := 0x10000000000000000

def exactly (n : Nat) : Width := ⟨n, n⟩

def append (v w : Width) : Width := ⟨min (v.least + w.least) limit, min (v.most + w.most) limit⟩

def union (v w : Width) : Width := ⟨min v.least w.least, max v.most w.most⟩

/-- The least count that is too large for a repetition. -/
def countLimit : Nat := 0xffffffff

def repeated (w : Width) (least : Nat) (most : Option Nat) : Width :=
  ⟨min (w.least * least) limit,
   match most with
   | none => if w.most == 0 then 0 else limit
   | some n => min (w.most * n) limit⟩

/-- Whether a look-behind can have this width. -/
def isFixed (w : Width) : Bool := w.least == w.most && w.least ≤ countLimit

end Width

/-- What a quantifier behind a piece makes of it. -/
inductive PieceKind
  | plain
  | anchor
  | repeated
deriving DecidableEq, Repr

/-- A part of a sequence. -/
structure Piece where
  expr : Expr
  width : Width
  kind : PieceKind

/-- What has been learnt while reading: the modes of the whole expression, the widths of the groups
(absent while a group is open), their names, the number of groups opened before the outermost
look-behind that is open, the greatest group asked for by a condition, and whether a look-behind has
no fixed width. -/
structure Progress where
  modes : Modes
  widths : List (Option Width) := []
  names : List (List Char × Nat) := []
  openBehind : Option Nat := none
  greatestAsked : Nat := 0
  looseBehind : Bool := false

namespace Progress

/-- The width of a closed group that may be referred to here. -/
def groupWidth? (s : Progress) (index : Nat) : Option Width :=
  if index == 0 then none
  else
    match s.widths[index - 1]? with
    | some (some w) =>
      match s.openBehind with
      | some n => if index ≤ n then some w else none
      | none => some w
    | _ => none

/-- Opens the next group. -/
def openGroup (s : Progress) : Option (List Char) → Except ReadError (Nat × Progress)
  | none => .ok (s.widths.length + 1, { s with widths := s.widths ++ [none] })
  | some name =>
    if (s.names.lookup name).isSome then .error .malformed
    else
      let index := s.widths.length + 1
      .ok (index, { s with widths := s.widths ++ [none], names := (name, index) :: s.names })

def closeGroup (s : Progress) (index : Nat) (w : Width) : Progress :=
  { s with widths := s.widths.set (index - 1) (some w) }

end Progress

abbrev Reading (α : Type) := Except ReadError (α × List Token)

private def isHex (c : Char) : Bool :=
  ('0' ≤ c && c ≤ '9') || ('a' ≤ c && c ≤ 'f') || ('A' ≤ c && c ≤ 'F')

private def isOctal (c : Char) : Bool := '0' ≤ c && c ≤ '7'

private def isDecimal (c : Char) : Bool := '0' ≤ c && c ≤ '9'

private def isLetter (c : Char) : Bool := ('a' ≤ c && c ≤ 'z') || ('A' ≤ c && c ≤ 'Z')

private def digitOf (c : Char) : Nat :=
  if c ≤ '9' then c.toNat - 48 else if c ≤ 'F' then c.toNat - 55 else c.toNat - 87

private def numberIn (base : Nat) (cs : List Char) : Nat := cs.foldl (fun n c => base * n + digitOf c) 0

/-- Up to `n` unescaped characters of a kind from the front, and the rest. -/
def takePlain (p : Char → Bool) : Nat → List Token → List Char × List Token
  | n + 1, .plain c :: rest =>
    if p c then let (cs, left) := takePlain p n rest; (c :: cs, left) else ([], .plain c :: rest)
  | _, ts => ([], ts)

/-- The text up to a closing character, which is taken away too. -/
def takeUntil (close : Char) : List Token → Reading (List Char)
  | [] => .error .malformed
  | t :: rest =>
    if t == .plain close then .ok ([], rest)
    else (takeUntil close rest).map fun (cs, left) => (t.text ++ cs, left)

/-- A nonempty text up to a closing character. -/
def takeName (close : Char) (ts : List Token) : Except ReadError (List Char × List Token) := do
  let (name, rest) ← takeUntil close ts
  if name.isEmpty then .error .malformed else .ok (name, rest)

/-- Exactly `n` hexadecimal digits. -/
def readHex (n : Nat) (ts : List Token) : Reading Nat :=
  let (cs, rest) := takePlain isHex n ts
  if cs.length == n && numberIn 16 cs ≤ 0x10ffff then .ok (numberIn 16 cs, rest) else .error .malformed

/-- The code point of an escaped control character. -/
def controlCode? : Char → Option Nat
  | 'a' => some 7
  | 'f' => some 12
  | 'n' => some 10
  | 'r' => some 13
  | 't' => some 9
  | 'v' => some 11
  | '\\' => some 92
  | _ => none

def categoryItem? (ascii : Bool) : Char → Option ClassItem
  | 'd' => some (.category .digit ascii false)
  | 'D' => some (.category .digit ascii true)
  | 's' => some (.category .blank ascii false)
  | 'S' => some (.category .blank ascii true)
  | 'w' => some (.category .word ascii false)
  | 'W' => some (.category .word ascii true)
  | _ => none

/-- The code point that an escape other than a category, a group number or an anchor stands for. -/
def readCode (c : Char) (ts : List Token) : Reading Nat :=
  match controlCode? c with
  | some n => .ok (n, ts)
  | none =>
    match c with
    | 'x' => readHex 2 ts
    | 'u' => readHex 4 ts
    | 'U' => readHex 8 ts
    | _ => if isLetter c then .error .malformed else .ok (c.toNat, ts)

/-! ## Classes -/

/-- One member of a class, written with an escape. -/
def readClassEscape (ascii : Bool) (c : Char) (ts : List Token) : Reading ClassItem :=
  match categoryItem? ascii c with
  | some item => .ok (item, ts)
  | none =>
    if c == 'b' then .ok (.range 8 8, ts)
    else if isOctal c then
      let (cs, rest) := takePlain isOctal 2 ts
      let n := numberIn 8 (c :: cs)
      if n ≤ 0xff then .ok (.range n n, rest) else .error .malformed
    else if isDecimal c then .error .malformed
    else (readCode c ts).map fun (n, rest) => (.range n n, rest)

/-- One end of a range, or a category. -/
def readClassMember (ascii : Bool) : Token → List Token → Reading ClassItem
  | .plain c, rest => .ok (.range c.toNat c.toNat, rest)
  | .escaped c, rest => readClassEscape ascii c rest
  | .danglingEscape, _ => .error .malformed

/-- The range between two members that are single code points. -/
def joinRange : ClassItem → ClassItem → Except ReadError ClassItem
  | .range low _, .range high _ => if low ≤ high then .ok (.range low high) else .error .malformed
  | _, _ => .error .malformed

private def hyphen : ClassItem := .range 0x2d 0x2d

/-- The members of a class up to its closing bracket; a bracket that comes first is a member. -/
def readMembers (ascii : Bool) :
    Nat → List ClassItem → List Token → Except ReadError (List ClassItem × List Token)
  | 0, _, _ => .error .malformed
  | _ + 1, _, [] => .error .malformed
  | fuel + 1, found, t :: rest =>
    if t == .plain ']' && !found.isEmpty then .ok (found.reverse, rest)
    else do
      let (low, rest) ← readClassMember ascii t rest
      match rest with
      | .plain '-' :: [] => .error .malformed
      | .plain '-' :: .plain ']' :: rest => .ok ((hyphen :: low :: found).reverse, rest)
      | .plain '-' :: u :: rest =>
        let (high, rest) ← readClassMember ascii u rest
        let item ← joinRange low high
        readMembers ascii fuel (item :: found) rest
      | _ => readMembers ascii fuel (low :: found) rest

/-- A class, behind its opening bracket. -/
def readClass (modes : Modes) (ts : List Token) : Reading CharClass :=
  match ts with
  | .plain '^' :: rest =>
    (readMembers modes.ascii ts.length [] rest).map fun (items, rest) =>
      (.ofItems modes.folding true items, rest)
  | _ =>
    (readMembers modes.ascii (ts.length + 1) [] ts).map fun (items, rest) =>
      (.ofItems modes.folding false items, rest)

/-! ## Escapes -/

private def charPiece (modes : Modes) (n : Nat) : Piece :=
  ⟨.one (.code modes.folding n), .exactly 1, .plain⟩

private def anchorPiece (a : Anchor) : Piece := ⟨.anchor a, .exactly 0, .anchor⟩

/-- A reference to a group that has been closed. -/
def readBackref (s : Progress) (modes : Modes) (index : Nat) : Except ReadError Piece :=
  match s.groupWidth? index with
  | some w => .ok ⟨.backref index modes.folding, w, .plain⟩
  | none => .error .malformed

/-- An escape whose first character is a digit other than zero: three octal digits, or the number of
a group. -/
def readNumbered (s : Progress) (modes : Modes) (c : Char) (ts : List Token) : Reading Piece :=
  match ts with
  | .plain d :: rest =>
    if !isDecimal d then (readBackref s modes (digitOf c)).map (·, ts)
    else
      match rest with
      | .plain e :: rest' =>
        if isOctal c && isOctal d && isOctal e then
          let n := numberIn 8 [c, d, e]
          if n ≤ 0xff then .ok (charPiece modes n, rest') else .error .malformed
        else (readBackref s modes (numberIn 10 [c, d])).map (·, rest)
      | _ => (readBackref s modes (numberIn 10 [c, d])).map (·, rest)
  | _ => (readBackref s modes (digitOf c)).map (·, ts)

def readEscape (s : Progress) (modes : Modes) (c : Char) (ts : List Token) : Reading Piece :=
  match categoryItem? modes.ascii c with
  | some item => .ok (⟨.one (.ofItems modes.folding false [item]), .exactly 1, .plain⟩, ts)
  | none =>
    match c with
    | 'A' => .ok (anchorPiece .textStart, ts)
    | 'Z' => .ok (anchorPiece .textEnd, ts)
    | 'b' => .ok (anchorPiece (.wordEdge modes.ascii), ts)
    | 'B' => .ok (anchorPiece (.wordInside modes.ascii), ts)
    | '0' =>
      let (cs, rest) := takePlain isOctal 2 ts
      .ok (charPiece modes (numberIn 8 cs), rest)
    | _ =>
      if isDecimal c then readNumbered s modes c ts
      else (readCode c ts).map fun (n, rest) => (charPiece modes n, rest)

/-! ## Quantifiers -/

/-- The two counts of a quantifier. -/
structure Counts where
  least : Nat
  most : Option Nat

/-- The counts of a quantifier in braces, behind the opening one; absent if the brace opens none. -/
def readBraces (ts : List Token) : Except ReadError (Option (Counts × List Token)) :=
  let (low, rest) := takePlain isDecimal ts.length ts
  let (high, rest) :=
    match rest with
    | .plain ',' :: rest => takePlain isDecimal rest.length rest
    | _ => (low, rest)
  match ts, rest with
  | .plain '}' :: _, _ => .ok none
  | _, .plain '}' :: rest =>
    let least := numberIn 10 low
    let most := if high.isEmpty then none else some (numberIn 10 high)
    if least ≥ Width.countLimit || most.any (· ≥ Width.countLimit) then
      .error (if rest == [.danglingEscape] then .malformed else .countTooLarge)
    else if most.any (· < least) then .error .malformed
    else .ok (some (⟨least, most⟩, rest))
  | _, _ => .ok none

/-- The quantifier that starts with a character, if one does. -/
def readCounts (c : Char) (ts : List Token) : Except ReadError (Option (Counts × List Token)) :=
  match c with
  | '?' => .ok (some (⟨0, some 1⟩, ts))
  | '*' => .ok (some (⟨0, none⟩, ts))
  | '+' => .ok (some (⟨1, none⟩, ts))
  | '{' => readBraces ts
  | _ => .ok none

def readGreed : List Token → Greed × List Token
  | .plain '?' :: rest => (.lazy, rest)
  | .plain '+' :: rest => (.possessive, rest)
  | ts => (.greedy, ts)

/-- The repetition of a piece. -/
def Piece.repeated (p : Piece) (counts : Counts) (greed : Greed) : Except ReadError Piece :=
  match p.kind with
  | .plain =>
    let expr :=
      match p.expr with
      | .one cls => .run cls counts.least counts.most greed
      | e => .loop e counts.least counts.most greed
    .ok ⟨expr, p.width.repeated counts.least counts.most, .repeated⟩
  | _ => .error .malformed

/-! ## Groups -/

/-- The mode letters up to a character that ends them, which is given too. -/
def readModeLetters (sofar : Modes) : List Token → Except ReadError (Modes × Char × List Token)
  | .plain c :: rest =>
    match Modes.ofLetter? c with
    | some m =>
      let all := sofar.union m
      if all.ascii && all.full then .error .malformed else readModeLetters all rest
    | none => .ok (sofar, c, rest)
  | _ => .error .malformed

/-- What the mode letters of a group say: modes of the whole expression, or those that the group turns
on and off. -/
inductive ModeChange
  | whole (on : Modes)
  | group (on off : Modes)

def readModes (ts : List Token) : Except ReadError (ModeChange × List Token) := do
  let (on, stop, rest) ← readModeLetters {} ts
  match stop with
  | ')' => if on == {} then .error .malformed else .ok (.whole on, rest)
  | ':' => .ok (.group on {}, rest)
  | '-' =>
    let (off, stop, rest) ← readModeLetters {} rest
    if stop != ':' || off == {} || off.ascii || off.full || on.overlaps off then .error .malformed
    else .ok (.group on off, rest)
  | _ => .error .malformed

/-- The group that a condition asks for. -/
def readAsked (s : Progress) (name : List Char) : Except ReadError (Nat × Progress) := do
  let index ←
    if isName name then
      match s.names.lookup name with
      | some index => pure index
      | none => .error .malformed
    else
      match integer? name with
      | some (.ofNat (n + 1)) => pure (n + 1)
      | _ => .error .malformed
  if s.openBehind.isSome && (s.groupWidth? index).isNone then .error .malformed
  else .ok (index, { s with greatestAsked := max s.greatestAsked index })

def dropComment : List Token → Except ReadError (List Token)
  | [] => .error .malformed
  | t :: rest => if t == .plain ')' then .ok rest else dropComment rest

private def closeParen : List Token → Except ReadError (List Token)
  | .plain ')' :: rest => .ok rest
  | _ => .error .malformed

/-- The pieces of a sequence, latest first, as one expression. -/
def joinPieces (pieces : List Piece) : Expr × Width :=
  (Expr.sequence (pieces.reverse.map (·.expr)),
   pieces.foldl (fun w p => w.append p.width) (.exactly 0))

private def isVerboseBlank (c : Char) : Bool := c == ' ' || ('\t' ≤ c && c ≤ '\r')

mutual

/-- The alternatives up to a closing parenthesis or the end. -/
def readAlternatives : Nat → Bool → Bool → Modes → Progress → List Token →
    Except ReadError ((Expr × Width) × Progress × List Token)
  | 0, _, _, _, _, _ => .error .malformed
  | fuel + 1, nested, first, modes, s, ts => do
    let (pieces, s, rest) ← readSequence fuel (!nested && first) modes s [] ts
    let (e, w) := joinPieces pieces
    match rest with
    | .plain '|' :: rest =>
      let ((f, v), s, rest) ←
        readAlternatives fuel nested false (if nested then modes else s.modes) s rest
      return ((.alt e f, w.union v), s, rest)
    | _ => return ((e, w), s, rest)

/-- The pieces of a sequence, latest first; `first` says that modes of the whole expression may be set
here. -/
def readSequence : Nat → Bool → Modes → Progress → List Piece → List Token →
    Except ReadError (List Piece × Progress × List Token)
  | 0, _, _, _, _, _ => .error .malformed
  | _ + 1, _, _, s, pieces, [] => .ok (pieces, s, [])
  | _ + 1, _, _, _, _, .danglingEscape :: _ => .error .malformed
  | fuel + 1, first, modes, s, pieces, .escaped c :: rest => do
    let (p, rest) ← readEscape s modes c rest
    readSequence fuel first modes s (p :: pieces) rest
  | fuel + 1, first, modes, s, pieces, .plain c :: rest =>
    if c == '|' || c == ')' then .ok (pieces, s, .plain c :: rest)
    else if modes.verbose && isVerboseBlank c then readSequence fuel first modes s pieces rest
    else if modes.verbose && c == '#' then
      readSequence fuel first modes s pieces ((rest.dropWhile (· != .plain '\n')).drop 1)
    else
      match c with
      | '.' =>
        let cls := if modes.dotAll then CharClass.any else CharClass.inLine
        readSequence fuel first modes s (⟨.one cls, .exactly 1, .plain⟩ :: pieces) rest
      | '^' =>
        let a := if modes.multiline then Anchor.lineStart else .textStart
        readSequence fuel first modes s (anchorPiece a :: pieces) rest
      | '$' =>
        let a := if modes.multiline then Anchor.lineEnd else .lastLineEnd
        readSequence fuel first modes s (anchorPiece a :: pieces) rest
      | '[' => do
        let (cls, rest) ← readClass modes rest
        readSequence fuel first modes s (⟨.one cls, .exactly 1, .plain⟩ :: pieces) rest
      | '(' => readParenthesis fuel first modes s pieces rest
      | _ => do
        match ← readCounts c rest with
        | none => readSequence fuel first modes s (charPiece modes c.toNat :: pieces) rest
        | some (counts, rest) =>
          match pieces with
          | [] => .error .malformed
          | p :: earlier =>
            let (greed, rest) := readGreed rest
            let p ← p.repeated counts greed
            readSequence fuel first modes s (p :: earlier) rest

/-- What follows an opening parenthesis, and the rest of the sequence. -/
def readParenthesis : Nat → Bool → Modes → Progress → List Piece → List Token →
    Except ReadError (List Piece × Progress × List Token)
  | 0, _, _, _, _, _ => .error .malformed
  | fuel + 1, first, modes, s, pieces, .plain '?' :: rest =>
    match rest with
    | .plain 'P' :: .plain '<' :: rest => do
      let (name, rest) ← takeName '>' rest
      if isName name then
        let (p, s, rest) ← readCapture fuel (some name) modes s rest
        readSequence fuel first modes s (p :: pieces) rest
      else .error .malformed
    | .plain 'P' :: .plain '=' :: rest => do
      let (name, rest) ← takeName ')' rest
      match s.names.lookup name with
      | none => .error .malformed
      | some index =>
        let p ← readBackref s modes index
        readSequence fuel first modes s (p :: pieces) rest
    | .plain '#' :: rest => do
      let rest ← dropComment rest
      readSequence fuel first modes s pieces rest
    | .plain ':' :: rest => do
      let ((e, w), s, rest) ← readAlternatives fuel true true modes s rest
      let rest ← closeParen rest
      readSequence fuel first modes s (⟨e, w, .plain⟩ :: pieces) rest
    | .plain '>' :: rest => do
      let ((e, w), s, rest) ← readAlternatives fuel true true modes s rest
      let rest ← closeParen rest
      readSequence fuel first modes s (⟨.atomic e, w, .plain⟩ :: pieces) rest
    | .plain '=' :: rest => do
      let (p, s, rest) ← readLook fuel false false modes s rest
      readSequence fuel first modes s (p :: pieces) rest
    | .plain '!' :: rest => do
      let (p, s, rest) ← readLook fuel false true modes s rest
      readSequence fuel first modes s (p :: pieces) rest
    | .plain '<' :: .plain '=' :: rest => do
      let (p, s, rest) ← readLook fuel true false modes s rest
      readSequence fuel first modes s (p :: pieces) rest
    | .plain '<' :: .plain '!' :: rest => do
      let (p, s, rest) ← readLook fuel true true modes s rest
      readSequence fuel first modes s (p :: pieces) rest
    | .plain '(' :: rest => do
      let (name, rest) ← takeName ')' rest
      let (index, s) ← readAsked s name
      let (yes, s, rest) ← readSequence fuel false modes s [] rest
      let (e, w) := joinPieces yes
      match rest with
      | .plain '|' :: rest =>
        let (no, s, rest) ← readSequence fuel false modes s [] rest
        let (f, v) := joinPieces no
        let rest ← closeParen rest
        readSequence fuel first modes s (⟨.ifGroup index e f, w.union v, .plain⟩ :: pieces) rest
      | _ =>
        let rest ← closeParen rest
        readSequence fuel first modes s (⟨.ifGroup index e .empty, ⟨0, w.most⟩, .plain⟩ :: pieces) rest
    | _ => do
      match ← readModes rest with
      | (.whole on, rest) =>
        if first && pieces.isEmpty then
          let s := { s with modes := s.modes.union on }
          readSequence fuel first s.modes s pieces rest
        else .error .malformed
      | (.group on off, rest) =>
        let ((e, w), s, rest) ← readAlternatives fuel true true (modes.inside on off) s rest
        let rest ← closeParen rest
        readSequence fuel first modes s (⟨e, w, .plain⟩ :: pieces) rest
  | fuel + 1, first, modes, s, pieces, ts => do
    let (p, s, rest) ← readCapture fuel none modes s ts
    readSequence fuel first modes s (p :: pieces) rest

/-- A group that captures, behind its opening. -/
def readCapture : Nat → Option (List Char) → Modes → Progress → List Token →
    Except ReadError (Piece × Progress × List Token)
  | 0, _, _, _, _ => .error .malformed
  | fuel + 1, name, modes, s, ts => do
    let (index, s) ← s.openGroup name
    let ((e, w), s, rest) ← readAlternatives fuel true true modes s ts
    let rest ← closeParen rest
    return (⟨.group index e, w, .plain⟩, s.closeGroup index w, rest)

/-- A look-ahead or look-behind, behind its opening. -/
def readLook : Nat → Bool → Bool → Modes → Progress → List Token →
    Except ReadError (Piece × Progress × List Token)
  | 0, _, _, _, _, _ => .error .malformed
  | fuel + 1, behind, negated, modes, s, ts => do
    let outer := s.openBehind
    let within := if behind && outer.isNone then some s.widths.length else outer
    let ((e, w), s, rest) ← readAlternatives fuel true true modes { s with openBehind := within } ts
    let rest ← closeParen rest
    let s := { s with openBehind := outer, looseBehind := s.looseBehind || (behind && !w.isFixed) }
    return (⟨.look (if behind then some w.least else none) negated e, .exactly 0, .plain⟩, s, rest)

end

/-- Reads the written form of a regular expression under the given modes. The readers call each other at
most five deep without taking a token, which bounds the fuel. -/
def readExpr (modes : Modes) (text : List Char) : Except ReadError Expr := do
  let ts := tokens text
  let ((e, _), s, rest) ← readAlternatives (5 * ts.length + 5) false true modes { modes } ts
  if s.modes.ascii && s.modes.full then .error .modeClash
  else if !rest.isEmpty || s.greatestAsked > s.widths.length || s.looseBehind then .error .malformed
  else .ok e

/-- Reads a regular expression, without regard to case if asked. -/
def Pattern.read (source : String) (ignoreCase : Bool) : Except ReadError Pattern :=
  (readExpr { ignoreCase } source.toList).map fun e => ⟨source, e⟩

/-! ## Escaping -/

/-- The characters that mean something else than themselves somewhere in an expression. -/
def specialChars : List Char := "()[]\x7b\x7d?*+-|^$\\.&~# \t\n\r\x0b\x0c".toList

/-- The text with a backslash in front of each special character. -/
def escape (text : List Char) : List Char :=
  text.flatMap fun c => if specialChars.contains c then ['\\', c] else [c]

end BundleAudit.Regex

import BundleAudit.Text.Utf8
import BundleAudit.Yaml.Cursor

/-!
# Tokens

The marks and texts that a document is made of, and the reading of single ones: directives, anchors,
tags, and the texts of scalars in their five styles.
-/

namespace BundleAudit.Yaml

open BundleAudit.Text

inductive Directive
  | version (major : Nat)
  | handle (name expansion : List Char)
  | other
deriving DecidableEq, Repr

inductive Token
  | directive (d : Directive)
  | documentStart
  | documentEnd
  | blockSequenceStart
  | blockMappingStart
  | blockEnd
  | flowSequenceStart
  | flowSequenceEnd
  | flowMappingStart
  | flowMappingEnd
  | blockEntry
  | flowEntry
  | key
  | value
  | alias (name : List Char)
  | anchor (name : List Char)
  | tag (handle : Option (List Char)) (suffix : List Char)
  | scalar (text : List Char) (plain : Bool)
  | streamEnd
deriving DecidableEq, Repr

/-- Why no token can be read: the text breaks the grammar, or an escape names a code point that does
not exist. -/
inductive ScanError
  | malformed
  | noSuchCodePoint (code : Nat)
deriving DecidableEq, Repr

private def isNameChar (c : Char) : Bool := c.isAlphanum || c == '-' || c == '_'

private def isHexChar (c : Char) : Bool :=
  c.isDigit || ('a' ≤ c && c ≤ 'f') || ('A' ≤ c && c ≤ 'F')

private def hexValue (cs : List Char) : Nat :=
  cs.foldl (fun n c =>
    16 * n + (if c ≤ '9' then c.toNat - 48 else if c ≤ 'F' then c.toNat - 55 else c.toNat - 87)) 0

private def decimalValue (cs : List Char) : Nat := cs.foldl (fun n c => 10 * n + (c.toNat - 48)) 0

/-! ## Tags and anchors -/

/-- A name of letters, digits, hyphens and underscores. -/
def scanName (c : Cursor) : Except ScanError (List Char × Cursor) :=
  let (name, c) := c.span isNameChar
  if name.isEmpty then .error .malformed else .ok (name, c)

/-- The name of an anchor or an alias, behind its mark. -/
def scanAnchor (c : Cursor) : Except ScanError (List Char × Cursor) := do
  let (name, c) ← scanName c
  let follows := match c.rest with
    | ch :: _ => "?:,]\x7d%@\x60".toList.contains ch
    | [] => false
  if startsBlank c.rest || follows then .ok (name, c) else .error .malformed

/-- A handle of a tag, with its exclamation marks. -/
def scanTagHandle (c : Cursor) : Except ScanError (List Char × Cursor) :=
  match c.rest with
  | '!' :: ' ' :: _ => .ok (['!'], c.advance)
  | '!' :: _ =>
    let (name, after) := c.advance.span isNameChar
    match after.rest with
    | '!' :: _ => .ok ('!' :: (name ++ ['!']), after.advance)
    | _ => .error .malformed
  | _ => .error .malformed

private def isUriChar (c : Char) : Bool :=
  c.isAlphanum || "-;/?:@&=+$,_.!~*'()[]".toList.contains c

/-- The bytes of a run of percent escapes. -/
def scanEscapedBytes : Nat → Cursor → Except ScanError (List UInt8 × Cursor)
  | 0, c => .ok ([], c)
  | fuel + 1, c =>
    match c.rest with
    | '%' :: a :: b :: _ =>
      if isHexChar a && isHexChar b then do
        let (bytes, c) ← scanEscapedBytes fuel (c.advanceBy 3)
        return (UInt8.ofNat (hexValue [a, b]) :: bytes, c)
      else .error .malformed
    | '%' :: _ => .error .malformed
    | _ => .ok ([], c)

/-- A possibly empty text of a tag. -/
def scanUriParts : Nat → Cursor → Except ScanError (List Char × Cursor)
  | 0, c => .ok ([], c)
  | fuel + 1, c => do
    let (text, c) := c.span isUriChar
    match c.rest with
    | '%' :: _ =>
      let (bytes, c) ← scanEscapedBytes c.rest.length c
      match decodeStrict? bytes with
      | none => .error .malformed
      | some decoded =>
        let (rest, c) ← scanUriParts fuel c
        return (text ++ decoded ++ rest, c)
    | _ => return (text, c)

def scanUri (c : Cursor) : Except ScanError (List Char × Cursor) := do
  let (text, after) ← scanUriParts (c.rest.length + 1) c
  if after.index == c.index then .error .malformed else return (text, after)

/-- Whether an exclamation mark stands in the word that starts here. -/
private def hasHandle (s : List Char) : Bool :=
  (s.takeWhile fun ch => ch != ' ' && !isBreak ch).contains '!'

/-- A tag: written out between angle brackets, the mark alone, or a handle with a suffix. -/
def scanTag (c : Cursor) : Except ScanError (Token × Cursor) := do
  let after := c.advance
  let (token, c) ←
    match after.rest with
    | '<' :: _ => do
      let (uri, c) ← scanUri after.advance
      match c.rest with
      | '>' :: _ => pure (Token.tag none uri, c.advance)
      | _ => .error .malformed
    | rest =>
      if startsBlank rest then pure (Token.tag none ['!'], after)
      else if hasHandle rest then do
        let (handle, c) ← scanTagHandle c
        let (uri, c) ← scanUri c
        pure (Token.tag (some handle) uri, c)
      else do
        let (uri, c) ← scanUri after
        pure (Token.tag (some ['!']) uri, c)
  if startsSpace c.rest then return (token, c) else .error .malformed

/-! ## Directives -/

/-- The rest of a line that holds nothing more than a comment. -/
def scanLineRest (c : Cursor) : Except ScanError Cursor :=
  let c := c.skipSpaces.skipComment
  if startsBreak c.rest then .ok c.skipBreak else .error .malformed

private def scanNumber (c : Cursor) : Except ScanError (Nat × Cursor) :=
  let (digits, c) := c.span Char.isDigit
  if digits.isEmpty then .error .malformed else .ok (decimalValue digits, c)

/-- A directive, behind its mark. -/
def scanDirective (c : Cursor) : Except ScanError (Directive × Cursor) := do
  let (name, c) ← scanName c
  if !startsSpace c.rest then .error .malformed
  else
    let (d, c) ←
      if name == "YAML".toList then do
        let (major, c) ← scanNumber c.skipSpaces
        match c.rest with
        | '.' :: _ => do
          let (_, c) ← scanNumber c.advance
          if startsSpace c.rest then pure (Directive.version major, c) else .error .malformed
        | _ => .error .malformed
      else if name == "TAG".toList then do
        let (handle, c) ← scanTagHandle c.skipSpaces
        match c.rest with
        | ' ' :: _ => do
          let (uri, c) ← scanUri c.skipSpaces
          if startsSpace c.rest then pure (Directive.handle handle uri, c) else .error .malformed
        | _ => .error .malformed
      else pure (Directive.other, c.skipLine)
    let c ← scanLineRest c
    return (d, c)

/-! ## Block scalars -/

/-- What happens to the line ends at the end of a block scalar. -/
inductive Chomping
  | strip
  | clip
  | keep
deriving DecidableEq, Repr

private def chompingOf? : Char → Option Chomping
  | '+' => some .keep
  | '-' => some .strip
  | _ => none

private def indentOf? (c : Char) : Option Nat := if c.isDigit then some (c.toNat - 48) else none

/-- The marks behind the start of a block scalar, in either order. -/
def scanBlockHeader (c : Cursor) : Except ScanError (Chomping × Option Nat × Cursor) := do
  let (chomping, width, c) ←
    match c.rest with
    | [] => pure (Chomping.clip, none, c)
    | a :: more =>
      match chompingOf? a, indentOf? a with
      | some chomping, _ =>
        match more.head?.bind indentOf? with
        | some n => pure (chomping, some n, c.advanceBy 2)
        | none => pure (chomping, none, c.advance)
      | none, some n =>
        match more.head?.bind chompingOf? with
        | some chomping => pure (chomping, some n, c.advanceBy 2)
        | none => pure (Chomping.clip, some n, c.advance)
      | none, none => pure (Chomping.clip, none, c)
  if width == some 0 || !startsSpace c.rest then .error .malformed
  else do
    let c ← scanLineRest c
    return (chomping, width, c)

/-- Skips spaces up to a column. -/
def skipIndent : Nat → Nat → Cursor → Cursor
  | 0, _, c => c
  | fuel + 1, column, c =>
    match c.rest with
    | ' ' :: _ => if c.column < column then skipIndent fuel column c.advance else c
    | _ => c

/-- The line ends of the empty lines in front of the first line with text, and the greatest column
reached on them. -/
def scanLeadingBreaks : Nat → Nat → Cursor → List Char × Nat × Cursor
  | 0, widest, c => ([], widest, c)
  | fuel + 1, widest, c =>
    match c.lineBreak? with
    | some (b, c) =>
      let (breaks, widest, c) := scanLeadingBreaks fuel widest c
      (b :: breaks, widest, c)
    | none =>
      match c.rest with
      | ' ' :: _ => scanLeadingBreaks fuel (max widest c.advance.column) c.advance
      | _ => ([], widest, c)

/-- The line ends of empty lines in a block with an indentation, and the cursor behind the indentation
of the next line. -/
def scanBlockBreaks : Nat → Nat → Cursor → List Char × Cursor
  | 0, _, c => ([], c)
  | fuel + 1, indent, c =>
    let c := skipIndent c.rest.length indent c
    match c.lineBreak? with
    | some (b, c) =>
      let (breaks, c) := scanBlockBreaks fuel indent c
      (b :: breaks, c)
    | none => ([], c)

private def startsInset (s : List Char) : Bool :=
  match s with
  | c :: _ => c == ' ' || c == '\t'
  | [] => false

/-- What is left at the end of a block scalar: the last line end and those of the empty lines. -/
structure BlockTail where
  text : List Char
  last : List Char
  breaks : List Char
  cursor : Cursor

/-- The lines of a block scalar from here on. In a folded one, the end of a line becomes a space if
neither it nor the next one is inset and no empty line stands between them. -/
def scanBlockLines (folded : Bool) (indent : Nat) : Nat → List Char → Cursor → BlockTail
  | 0, breaks, c => ⟨[], [], breaks, c⟩
  | fuel + 1, breaks, c =>
    if c.column != indent || c.rest.isEmpty then ⟨[], [], breaks, c⟩
    else
      let inset := startsInset c.rest
      let (line, c) := c.span (!isBreak ·)
      let (last, c) := match c.lineBreak? with
        | some (b, c) => ([b], c)
        | none => ([], c)
      let (next, c) := scanBlockBreaks (c.rest.length + 1) indent c
      if c.column == indent && !c.rest.isEmpty then
        let glue :=
          if folded && last == ['\n'] && !inset && !startsInset c.rest then
            if next.isEmpty then [' '] else []
          else last
        let tail := scanBlockLines folded indent fuel next c
        { tail with text := breaks ++ line ++ glue ++ tail.text }
      else ⟨breaks ++ line, last, next, c⟩

/-- A block scalar, behind its mark, in a block with an indentation. -/
def scanBlockScalar (folded : Bool) (parent : Int) (c : Cursor) :
    Except ScanError (List Char × Cursor) := do
  let (chomping, width, c) ← scanBlockHeader c
  let least := (max 1 (parent + 1)).toNat
  let (breaks, indent, c) :=
    match width with
    | none =>
      let (breaks, widest, c) := scanLeadingBreaks (c.rest.length + 1) 0 c
      (breaks, max least widest, c)
    | some n =>
      let indent := least + n - 1
      let (breaks, c) := scanBlockBreaks (c.rest.length + 1) indent c
      (breaks, indent, c)
  let tail := scanBlockLines folded indent (c.rest.length + 1) breaks c
  let text := tail.text ++ (if chomping == .strip then [] else tail.last) ++
    (if chomping == .keep then tail.breaks else [])
  return (text, tail.cursor)

/-! ## Quoted scalars -/

/-- The line ends of empty lines in a quoted scalar; no mark between documents may stand there. -/
def scanQuotedBreaks : Nat → Cursor → Except ScanError (List Char × Cursor)
  | 0, c => .ok ([], c)
  | fuel + 1, c =>
    if startsSeparator c.rest then .error .malformed
    else
      let c := c.skip fun ch => ch == ' ' || ch == '\t'
      match c.lineBreak? with
      | some (b, c) => do
        let (breaks, c) ← scanQuotedBreaks fuel c
        return (b :: breaks, c)
      | none => return ([], c)

/-- The text that a line end, with the empty lines behind it, is folded into. -/
def foldBreaks (b : Char) (breaks : List Char) : List Char :=
  if b != '\n' then b :: breaks else if breaks.isEmpty then [' '] else breaks

/-- The character that a short escape stands for. -/
def shortEscape? : Char → Option Char
  | '0' => some '\x00'
  | 'a' => some '\x07'
  | 'b' => some '\x08'
  | 't' => some '\t'
  | '\t' => some '\t'
  | 'n' => some '\n'
  | 'v' => some '\x0b'
  | 'f' => some '\x0c'
  | 'r' => some '\r'
  | 'e' => some '\x1b'
  | ' ' => some ' '
  | '"' => some '"'
  | '\\' => some '\\'
  | '/' => some '/'
  | 'N' => some '\x85'
  | '_' => some '\u00a0'
  | 'L' => some '\u2028'
  | 'P' => some '\u2029'
  | _ => none

/-- The number of digits behind the letter of a numeric escape. -/
def escapeDigits? : Char → Option Nat
  | 'x' => some 2
  | 'u' => some 4
  | 'U' => some 8
  | _ => none

/-- An escape in a double quoted scalar, behind its backslash. -/
def scanEscape (c : Cursor) : Except ScanError (List Char × Cursor) :=
  match c.rest with
  | [] => .error .malformed
  | ch :: rest =>
    match shortEscape? ch, escapeDigits? ch with
    | some d, _ => .ok ([d], c.advance)
    | none, some n =>
      let digits := rest.take n
      if digits.length == n && digits.all isHexChar then
        let code := hexValue digits
        if code < 0x110000 then .ok ([Char.ofNat code], c.advanceBy (n + 1))
        else .error (.noSuchCodePoint code)
      else .error .malformed
    | none, none =>
      match c.lineBreak? with
      | some (_, c) => scanQuotedBreaks (c.rest.length + 1) c
      | none => .error .malformed

private def isQuotedPlain (c : Char) : Bool :=
  c != '\'' && c != '"' && c != '\\' && c != ' ' && c != '\t' && !isBreak c

/-- The rest of a quoted scalar, up to its closing quote. -/
def scanQuoted (double : Bool) : Nat → Cursor → Except ScanError (List Char × Cursor)
  | 0, _ => .error .malformed
  | fuel + 1, c => do
    let (text, c) := c.span isQuotedPlain
    match c.rest with
    | [] => .error .malformed
    | ch :: rest =>
      if !double && ch == '\'' && rest.head? == some '\'' then
        let (more, c) ← scanQuoted double fuel (c.advanceBy 2)
        return (text ++ '\'' :: more, c)
      else if ch == (if double then '"' else '\'') then return (text, c.advance)
      else if ch == '\'' || ch == '"' || (!double && ch == '\\') then
        let (more, c) ← scanQuoted double fuel c.advance
        return (text ++ ch :: more, c)
      else if ch == '\\' then
        let (escaped, c) ← scanEscape c.advance
        let (more, c) ← scanQuoted double fuel c
        return (text ++ escaped ++ more, c)
      else
        let (blanks, after) := c.span fun ch => ch == ' ' || ch == '\t'
        match after.lineBreak? with
        | some (b, c) =>
          let (breaks, c) ← scanQuotedBreaks (c.rest.length + 1) c
          let (more, c) ← scanQuoted double fuel c
          return (text ++ foldBreaks b breaks ++ more, c)
        | none =>
          if after.rest.isEmpty then .error .malformed
          else
            let (more, c) ← scanQuoted double fuel after
            return (text ++ blanks ++ more, c)

/-! ## Plain scalars -/

/-- The number of characters of a plain scalar up to the next blank, line end or mark. -/
def plainLength (inFlow : Bool) : List Char → Nat
  | [] => 0
  | c :: rest =>
    let colonEnds := startsBlank rest || (inFlow && match rest with
      | d :: _ => d == ',' || d == '[' || d == ']' || d == '\x7b' || d == '\x7d'
      | [] => false)
    if c == ' ' || c == '\t' || isBreak c || (c == ':' && colonEnds) ||
        (inFlow && (c == ',' || c == '?' || c == '[' || c == ']' || c == '\x7b' || c == '\x7d')) then 0
    else plainLength inFlow rest + 1

/-- The line ends of empty lines behind a line of a plain scalar; absent where a mark between documents
follows. -/
def scanPlainBreaks : Nat → Cursor → Option (List Char) × Cursor
  | 0, c => (some [], c)
  | fuel + 1, c =>
    match c.lineBreak? with
    | some (b, c) =>
      if startsSeparator c.rest then (none, c)
      else
        let (breaks, c) := scanPlainBreaks fuel c
        (breaks.map (b :: ·), c)
    | none =>
      match c.rest with
      | ' ' :: _ => scanPlainBreaks fuel c.advance
      | _ => (some [], c)

/-- What stands between two parts of a plain scalar: the text that joins them, empty if the scalar ends
here, and whether a line has ended. -/
def scanPlainSpaces (c : Cursor) : List Char × Bool × Cursor :=
  let (spaces, c) := c.span (· == ' ')
  match c.lineBreak? with
  | none => (spaces, false, c)
  | some (b, c) =>
    if startsSeparator c.rest then ([], true, c)
    else
      match scanPlainBreaks (c.rest.length + 1) c with
      | (none, c) => ([], true, c)
      | (some breaks, c) => (foldBreaks b breaks, true, c)

/-- The parts of a plain scalar from here on; says whether the last line of it has ended. `joint` is
what stands in front of the next part. -/
def scanPlain (inFlow : Bool) (indent : Int) :
    Nat → List Char → Bool → Cursor → List Char × Bool × Cursor
  | 0, _, ended, c => ([], ended, c)
  | fuel + 1, joint, ended, c =>
    let n := if c.rest.head? == some '#' then 0 else plainLength inFlow c.rest
    if n == 0 then ([], ended, c)
    else
      let part := c.rest.take n
      let (next, lineEnded, c) := scanPlainSpaces (c.advanceBy n)
      if next.isEmpty || c.rest.head? == some '#' || (!inFlow && (c.column : Int) < indent) then
        (joint ++ part, lineEnded, c)
      else
        let (more, ended, c) := scanPlain inFlow indent fuel next lineEnded c
        (joint ++ part ++ more, ended, c)

end BundleAudit.Yaml

import BundleAudit.Text.Quoted

/-!
# UTF-8

Bytes are decoded one after the other. A sequence that breaks off or that no character has is invalid as
far as it could have gone on; the byte behind it starts anew. Line ends are unified on reading.
-/

namespace BundleAudit.Text

/-- A sequence that has begun: the bits so far, the number of bytes missing, and the range of the next
one. -/
structure Partial where
  value : Nat
  missing : Nat
  low : Nat
  high : Nat
deriving DecidableEq, Repr

/-- What the first byte of a sequence says. -/
inductive FirstByte
  | complete (code : Nat)
  | begun (p : Partial)
  | invalid
deriving DecidableEq, Repr

def firstByte (b : Nat) : FirstByte :=
  if b < 0x80 then .complete b
  else if b < 0xc2 then .invalid
  else if b < 0xe0 then .begun ⟨b - 0xc0, 1, 0x80, 0xbf⟩
  else if b < 0xf0 then
    .begun ⟨b - 0xe0, 2, if b == 0xe0 then 0xa0 else 0x80, if b == 0xed then 0x9f else 0xbf⟩
  else if b < 0xf5 then
    .begun ⟨b - 0xf0, 3, if b == 0xf0 then 0x90 else 0x80, if b == 0xf4 then 0x8f else 0xbf⟩
  else .invalid

/-- Starts a sequence. Decoded characters are collected with the latest first, and an invalid sequence
counts as one that is missing. -/
def beginSequence (found : List (Option Char)) (b : Nat) : List (Option Char) × Option Partial :=
  match firstByte b with
  | .complete code => (some (Char.ofNat code) :: found, none)
  | .begun p => (found, some p)
  | .invalid => (none :: found, none)

/-- Reads one byte. -/
def decodeByte (found : List (Option Char)) (open? : Option Partial) (b : Nat) :
    List (Option Char) × Option Partial :=
  match open? with
  | none => beginSequence found b
  | some p =>
    if p.low ≤ b && b ≤ p.high then
      let value := p.value * 64 + (b - 0x80)
      if p.missing ≤ 1 then (some (Char.ofNat value) :: found, none)
      else (found, some ⟨value, p.missing - 1, 0x80, 0xbf⟩)
    else beginSequence (none :: found) b

def decodeOnto (found : List (Option Char)) (open? : Option Partial) : List UInt8 → List (Option Char)
  | [] => (if open?.isSome then none :: found else found).reverse
  | b :: rest =>
    let (found, open?) := decodeByte found open? b.toNat
    decodeOnto found open? rest

/-- The characters of a sequence of bytes, and a gap for each invalid sequence. -/
def decode (bytes : List UInt8) : List (Option Char) := decodeOnto [] none bytes

/-- The text of a sequence of bytes without its invalid sequences. -/
def decodeLenient (bytes : List UInt8) : List Char := (decode bytes).filterMap id

/-- The text of a sequence of bytes, if all of it is valid. -/
def decodeStrict? (bytes : List UInt8) : Option (List Char) := (decode bytes).mapM id

/-- What is wrong with an invalid sequence. -/
inductive InvalidCause
  | startByte
  | continuationByte
  | endOfData
deriving DecidableEq, Repr

def InvalidCause.message : InvalidCause → String
  | .startByte => "invalid start byte"
  | .continuationByte => "invalid continuation byte"
  | .endOfData => "unexpected end of data"

/-- An invalid sequence: its place, its first byte and its length. -/
structure InvalidSequence where
  position : Nat
  first : Nat
  length : Nat
  cause : InvalidCause
deriving DecidableEq, Repr

def InvalidSequence.message (e : InvalidSequence) : String :=
  let last := e.position + e.length - 1
  let byte := String.ofList (hexText 2 e.first)
  let place :=
    if e.length == 1 then s!"byte 0x{byte} in position {e.position}"
    else s!"bytes in position {e.position}-{last}"
  s!"'utf-8' codec can't decode {place}: {e.cause.message}"

/-- The first invalid sequence. `found` is the one that has begun, as far as it goes. -/
def firstInvalidFrom (position : Nat) (found : Option (Partial × InvalidSequence)) :
    List UInt8 → Option InvalidSequence
  | [] => found.map fun (_, e) => { e with length := position - e.position, cause := .endOfData }
  | b :: rest =>
    let b := b.toNat
    match found with
    | none =>
      let here : InvalidSequence := ⟨position, b, 1, .startByte⟩
      match firstByte b with
      | .complete _ => firstInvalidFrom (position + 1) none rest
      | .begun p => firstInvalidFrom (position + 1) (some (p, here)) rest
      | .invalid => some here
    | some (p, e) =>
      if p.low ≤ b && b ≤ p.high then
        if p.missing ≤ 1 then firstInvalidFrom (position + 1) none rest
        else firstInvalidFrom (position + 1) (some (⟨0, p.missing - 1, 0x80, 0xbf⟩, e)) rest
      else some { e with length := position - e.position, cause := .continuationByte }

/-- The text of a sequence of bytes, or the first invalid sequence in it. -/
def decodeOrFail (bytes : List UInt8) : Except InvalidSequence (List Char) :=
  match firstInvalidFrom 0 none bytes with
  | some e => .error e
  | none => .ok (decodeLenient bytes)

def unifyLineEndsOnto (done : List Char) : List Char → List Char
  | [] => done.reverse
  | '\r' :: '\n' :: rest => unifyLineEndsOnto ('\n' :: done) rest
  | c :: rest => unifyLineEndsOnto ((if c == '\r' then '\n' else c) :: done) rest

/-- The text with each carriage return, and the line feed behind it, replaced by one line feed. -/
def unifyLineEnds (s : List Char) : List Char := unifyLineEndsOnto [] s

end BundleAudit.Text

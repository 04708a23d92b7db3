import BundleAudit.FileSystem.Path
import BundleAudit.Text.Quoted

/-!
# File trees

A tree lists its files by their place, the names from its root. A directory is a place that is listed
as one or that lies above another. A path is walked name by name from the working directory; each
place on the way has to be a directory, also before a step back.
-/

namespace BundleAudit.FileSystem

open BundleAudit.Text (quotedString)

/-- A place in a tree: the names from the root. -/
abbrev Place := List String

inductive Entry
  | file (bytes : List UInt8)
  /-- A file that may not be read. -/
  | locked
  | directory
deriving DecidableEq, Repr

def Entry.isFile : Entry → Bool
  | .file _ | .locked => true
  | .directory => false

structure Tree where
  entries : List (Place × Entry)
  /-- The place from which relative paths start. -/
  workingDirectory : Place

/-- Why a path cannot be used. -/
inductive FileError
  | notFound (path : String)
  | notDirectory (path : String)
  | isDirectory (path : String)
  | denied (path : String)
  | nameTooLong (path : String)
  | nullByte
deriving DecidableEq, Repr

def FileError.message : FileError → String
  | .notFound path => s!"[Errno 2] No such file or directory: {quotedString path}"
  | .denied path => s!"[Errno 13] Permission denied: {quotedString path}"
  | .notDirectory path => s!"[Errno 20] Not a directory: {quotedString path}"
  | .isDirectory path => s!"[Errno 21] Is a directory: {quotedString path}"
  | .nameTooLong path => s!"[Errno 36] File name too long: {quotedString path}"
  | .nullByte => "embedded null byte"

namespace Tree

/-- What stands at a place. -/
def entry? (t : Tree) (place : Place) : Option Entry :=
  match t.entries.lookup place with
  | some e => some e
  | none =>
    if place.isEmpty || place == t.workingDirectory || t.entries.any (place.isPrefixOf ·.1) then
      some .directory
    else none

theorem mem_entries_of_isFile {t : Tree} {place : Place} {e : Entry} (h : t.entry? place = some e)
    (isFile : e.isFile) : (place, e) ∈ t.entries := by
  unfold entry? at h
  split at h
  · next e' found =>
    obtain ⟨before, after, split, -⟩ := List.lookup_eq_some_iff.mp found
    obtain rfl : e' = e := Option.some.inj h
    simp [split]
  · split at h
    · obtain rfl := Option.some.inj h
      cases isFile
    · cases h

/-- The names directly below a place. -/
def children (t : Tree) (place : Place) : List String :=
  let below := t.entries.filterMap fun (p, _) =>
    if place.isPrefixOf p then (p.drop place.length).head? else none
  below.eraseDups

/-- The longest name and the longest path that the system takes, in bytes. -/
def nameLimit : Nat := 255
def pathLimit : Nat := 4096

/-- Walks a list of names from a place. -/
def walkFrom (t : Tree) (path : String) (place : Place) : List String → Except FileError Place
  | [] =>
    match t.entry? place with
    | some _ => .ok place
    | none => .error (.notFound path)
  | name :: rest =>
    match t.entry? place with
    | none => .error (.notFound path)
    | some (.file _) | some .locked => .error (.notDirectory path)
    | some .directory =>
      if name.utf8ByteSize > nameLimit then .error (.nameTooLong path)
      else if name == "." then walkFrom t path place rest
      else if name == ".." then walkFrom t path place.dropLast rest
      else walkFrom t path (place ++ [name]) rest

/-- The place of a path. -/
def locate (t : Tree) (path : Path) : Except FileError Place :=
  let text := path.toString
  if text.contains '\x00' then .error .nullByte
  else if text.utf8ByteSize ≥ pathLimit then .error (.nameTooLong text)
  else t.walkFrom text (if path.root.isEmpty then t.workingDirectory else []) path.parts

/-- What a path leads to that is taken as it is written. A slash at its end, or a point, asks for a
directory. -/
def lookUp (t : Tree) (path : String) : Except FileError Entry :=
  if path.contains '\x00' then .error .nullByte
  else if path.isEmpty then .error (.notFound path)
  else if path.utf8ByteSize ≥ pathLimit then .error (.nameTooLong path)
  else do
    let names := (Path.splitSlashes path.toList).map fun name =>
      if name.isEmpty then "." else String.ofList name
    let start := if (Path.rootOf path.toList).isEmpty then t.workingDirectory else []
    let place ← t.walkFrom path start names
    match t.entry? place with
    | some e => .ok e
    | none => .error (.notFound path)

/-- The place and the bytes of a file. -/
def readFile (t : Tree) (path : Path) : Except FileError (Place × List UInt8) := do
  let place ← t.locate path
  match t.entry? place with
  | some (.file bytes) => return (place, bytes)
  | some .locked => .error (.denied path.toString)
  | _ => .error (.isDirectory path.toString)

theorem entry_of_readFile {t : Tree} {path : Path} {place : Place} {bytes : List UInt8}
    (h : t.readFile path = .ok (place, bytes)) : t.entry? place = some (.file bytes) := by
  unfold readFile at h
  cases located : t.locate path with
  | error e => simp [located, bind, Except.bind] at h
  | ok found =>
    simp only [located, bind, Except.bind] at h
    split at h
    · next entry =>
      obtain ⟨rfl, rfl⟩ : found = place ∧ _ = bytes := by simpa [pure, Except.pure] using h
      exact entry
    · cases h
    · cases h

/-- The place of a directory; absent if the path leads to none. -/
def directory? (t : Tree) (path : Path) : Except FileError (Option Place) :=
  match t.locate path with
  | .ok place =>
    match t.entry? place with
    | some .directory => .ok (some place)
    | _ => .ok none
  | .error (.nameTooLong p) => .error (.nameTooLong p)
  | .error _ => .ok none

/-- Whether a path leads to a file. -/
def isFile (t : Tree) (path : Path) : Except FileError Bool :=
  match t.locate path with
  | .ok place => .ok ((t.entry? place).any Entry.isFile)
  | .error (.nameTooLong p) => .error (.nameTooLong p)
  | .error _ => .ok false

end Tree

end BundleAudit.FileSystem

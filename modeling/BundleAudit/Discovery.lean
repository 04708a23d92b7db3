import BundleAudit.FileSystem.Tree
import BundleAudit.Log
import BundleAudit.Text.Digit

/-!
# Discovery

The bundles of a distribution directory are its files whose name contains the marker and ends with the
extension. Files that a bundler split off carry a number and a point in front and are skipped.
-/

namespace BundleAudit

open BundleAudit.FileSystem BundleAudit.Text

inductive DiscoveryError
  | noDirectory (directory : String)
  | noBundles (marker extension directory : String)
deriving DecidableEq, Repr

def DiscoveryError.message : DiscoveryError → String
  | .noDirectory directory => s!"Distribution directory not found: {directory}"
  | .noBundles marker ext directory =>
    s!"No bundle files matching '*{marker}*{ext}' found in {directory}"

namespace Discovery

/-- Whether a name starts with a number and a point. -/
def isChunkName (name : String) : Bool :=
  match name.toList.span isDigit with
  | (_ :: _, '.' :: _) => true
  | _ => false

/-- Whether a text occurs in another one. -/
def occurs (part : List Char) : List Char → Bool
  | [] => part.isEmpty
  | c :: rest => part.isPrefixOf (c :: rest) || occurs part rest

def isCandidateName (marker ext name : String) : Bool :=
  occurs marker.toList name.toList && ext.toList.isSuffixOf name.toList

/-- The files of a directory that are bundles or chunks by their name, in ascending order. -/
structure Candidates where
  bundles : List String
  chunks : List String
deriving DecidableEq, Repr

/-- The names of the files among the entries of a directory. -/
def fileNames (t : Tree) (directory : Path) : List String → Except FileError (List String)
  | [] => .ok []
  | n :: rest => do
    let isFile ← t.isFile (directory.child n)
    let names ← fileNames t directory rest
    return if isFile then n :: names else names

/-- The bundles and chunks in a directory, whose place is known. -/
def candidates (t : Tree) (directory : Path) (place : Place) (marker ext : String) :
    Except FileError Candidates := do
  let names := (t.children place).mergeSort fun m n => (compare m n).isLE
  let files := (← fileNames t directory names).filter (isCandidateName marker ext)
  return ⟨files.filter (!isChunkName ·), files.filter isChunkName⟩

end Discovery

/-- The bundles found in a directory, with the chunks that were skipped. -/
structure Discovery where
  directory : Path
  found : Discovery.Candidates

namespace Discovery

/-- Looks for bundles in a directory. -/
def find (t : Tree) (directory : String) (marker ext : String) :
    Except FileError (Except DiscoveryError Discovery) := do
  let path := Path.ofString directory
  match ← t.directory? path with
  | none => return .error (.noDirectory path.toString)
  | some place => return .ok ⟨path, ← candidates t path place marker ext⟩

/-- The paths of the bundles; there has to be one. -/
def bundles (d : Discovery) (marker ext : String) : Except DiscoveryError (List String) :=
  if d.found.bundles.isEmpty then .error (.noBundles marker ext d.directory.toString)
  else .ok (d.found.bundles.map fun n => (d.directory.child n).toString)

def log (d : Discovery) : List LogEntry :=
  let chunks := ", ".intercalate d.found.chunks
  let names := ", ".intercalate d.found.bundles
  (if d.found.chunks.isEmpty then [] else [.engine .info s!"Excluded chunk files: {chunks}"]) ++
    (if d.found.bundles.isEmpty then []
     else [.engine .info s!"Found {d.found.bundles.length} bundle files: {names}"])

end Discovery

end BundleAudit

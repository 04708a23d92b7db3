import BundleAudit.FileSystem.Tree
import BundleAudit.Log
import BundleAudit.Text.Utf8

/-!
# Bundles

A bundle is a packaged script with its path. Bytes that are no text are skipped when it is read.
-/

namespace BundleAudit

open BundleAudit.FileSystem BundleAudit.Text

/-- A script as it was read. -/
structure Bundle where
  path : String
  content : List Char
deriving DecidableEq, Repr

namespace Bundle

/-- Reads the script at a path. -/
def read (t : Tree) (path : String) : Except FileError Bundle := do
  let p := Path.ofString path
  let (_, bytes) ← t.readFile p
  return ⟨p.toString, unifyLineEnds (decodeLenient bytes)⟩

def readEntry (b : Bundle) : LogEntry :=
  .engine .debug s!"Read bundle {baseName b.path} ({b.content.length} chars)"

end Bundle

end BundleAudit

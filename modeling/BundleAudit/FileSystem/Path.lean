/-!
# Paths

A path is a root, which may be missing, and the names from there on. Empty names and single points
between slashes do not count; double points stay. Exactly two slashes in front are a root of their own.
-/

namespace BundleAudit.FileSystem

structure Path where
  root : String
  parts : List String
deriving DecidableEq, Repr

namespace Path

/-- The names between the slashes of a text. -/
def splitSlashes : List Char → List (List Char)
  | [] => [[]]
  | c :: rest =>
    if c == '/' then [] :: splitSlashes rest
    else
      match splitSlashes rest with
      | [] => [[c]]
      | name :: names => (c :: name) :: names

def rootOf : List Char → String
  | '/' :: '/' :: '/' :: _ => "/"
  | '/' :: '/' :: _ => "//"
  | '/' :: _ => "/"
  | _ => ""

/-- The path that a text stands for. -/
def ofString (s : String) : Path where
  root := rootOf s.toList
  parts := ((splitSlashes s.toList).filter fun name => name != [] && name != ['.']).map String.ofList

/-- The text of a path; the empty path is a point. -/
def toString (p : Path) : String :=
  let text := p.root ++ "/".intercalate p.parts
  if text.isEmpty then "." else text

/-- The last name of a path, or nothing. -/
def name (p : Path) : String := p.parts.getLast?.getD ""

/-- The path of an entry of a directory. -/
def child (p : Path) (name : String) : Path := { p with parts := p.parts ++ [name] }

end Path

/-- The last name of the path that a text stands for. -/
def baseName (s : String) : String := (Path.ofString s).name

end BundleAudit.FileSystem

import BundleAudit.CommandLine.Program
import Std.Time.DateTime.Timestamp

/-!
# Entry point

A run is a function of its arguments and its surroundings. The surroundings are read before it: the
environment variables of the settings, the time, and everything that the run can ask for on the disk.
That is what stands at the paths among the arguments and the settings, the files directly in a directory,
and the documents that a profile inherits from.
-/

namespace BundleAudit

open BundleAudit.CommandLine BundleAudit.FileSystem

/-- The texts in a word that can be a path: the word itself, what follows an equality sign, and what
follows a letter. -/
def pathsIn (word : String) : List String :=
  [word, String.ofList (word.toList.drop 2)] ++ (splitEquals word).2.toList

/-- The place of a path, where two points are a step back. -/
def placeOf (start : Place) (path : Path) : Place :=
  path.parts.foldl (fun place name => if name == ".." then place.dropLast else place ++ [name])
    (if path.root.isEmpty then start else [])

/-- Adds what stands at a path to a tree. The path of a file is taken from the working directory. -/
def addPath (tree : Tree) (path : String) : IO Tree := do
  let place := placeOf tree.workingDirectory (Path.ofString path)
  let add (place : Place) (entry : IO.FS.DirEntry) : IO (List (Place × Entry)) := do
    if ← entry.path.isDir then return [(place, .directory)]
    if !(← entry.path.pathExists) then return []
    match ← (IO.FS.readBinFile entry.path).toBaseIO with
    | .ok bytes => return [(place, .file bytes.toList)]
    | .error _ => return [(place, .locked)]
  let entry : IO.FS.DirEntry := ⟨← IO.currentDir, path⟩
  let found ← add place entry
  let below ←
    if found == [(place, .directory)] then
      (← entry.path.readDir).toList.mapM fun e => add (place ++ [e.fileName]) e
    else pure []
  return { tree with entries := tree.entries ++ found ++ below.flatten }

/-- The tree of what stands at the given paths and of the documents that those inherit from. -/
def readTree (paths : List String) : IO Tree := do
  let here := Path.ofString (← IO.currentDir).toString
  let mut tree : Tree := ⟨[], here.parts⟩
  let mut read : List String := []
  let mut pending := paths
  while !pending.isEmpty do
    let path := pending.headD ""
    pending := pending.tail
    if !read.contains path then
      read := path :: read
      tree ← addPath tree path
      pending := pending ++ Profile.parentPaths tree path
  return tree

/-- The values of the variables that the settings come from. -/
def readEnvironment : IO Environment := do
  let values ← Settings.variableNames.mapM fun name => return (← IO.getEnv name).map (name, ·)
  return values.filterMap id

/-- Seconds from the start of 1970. -/
def readTime : IO Float := do
  return Float.ofInt (← Std.Time.Timestamp.now).toMillisecondsSinceUnixEpoch.val / 1000

end BundleAudit

open BundleAudit in
/-- Runs the program on the arguments of the process. -/
def main (args : List String) : IO UInt32 := do
  let environment ← readEnvironment
  let distDir := ({} : Settings).distDir :: (environment.value? Settings.distDirName).toList
  let files ← readTree (distDir ++ args.flatMap pathsIn)
  let ending := CommandLine.run { environment, files, time := ← readTime } args
  IO.print ending.output.stdout
  IO.eprint ending.output.stderr
  if let some _ := ending.failure then IO.eprintln "bundleguard: the run has failed"
  return ending.exitCode.toUInt32

import FixtureLab.Command.Run

/-!
This module contains the program. It reads the files that a task needs into a file system, lets the
command work on that, and writes the files that have changed in it. The candidates for a pattern
with wildcards are the paths listed on standard input, one a line.
-/

namespace FixtureLab
namespace Main

open Command (Outcome Task)

partial def readLines (input : IO.FS.Stream) : IO (List String) := do
  let line ← input.getLine
  if line.isEmpty then return []
  let line := String.ofList (line.toList.takeWhile (· != '\n'))
  return line :: (← readLines input)

def candidates (task : Task) : IO (List Path) := do
  match task.pattern? with
  | none => return task.document?.toList
  | some pattern =>
    if FileTree.hasWildcard pattern.toList then readLines (← IO.getStdin) else return [pattern]

def addFile (fs : FileSystem) (path : Path) : IO FileSystem := do
  try
    let content ← IO.FS.readBinFile path
    let above := path.parent?.elim fs fun directory => (fs.makeDirs directory).2
    return above.place path (.file content)
  catch _ => return fs

def writeFile (location : FileTree.Location) (content : ByteArray) : IO Unit := do
  IO.FS.createDirAll ("/" ++ "/".intercalate location.dropLast)
  IO.FS.writeBinFile ("/" ++ "/".intercalate location) content

def run (args : List String) : IO Outcome := do
  let root : FileSystem := { tree := .dir [] }
  let workDir := root.spelled (← IO.currentDir).toString
  let fs := FileSystem.place { root with workDir } "." (.dir [])
  let paths ←
    match Command.parse args with
    | .ok i => candidates i.task
    | .error _ => pure []
  let fs ← paths.foldlM addFile fs
  let outcome := Command.execute args fs
  for (location, content) in fs.tree.changes outcome.fs.tree do
    writeFile location content
  return outcome

end Main
end FixtureLab

def main (args : List String) : IO UInt32 := do
  let outcome ← FixtureLab.Main.run args
  (← IO.getStdout).putStr outcome.output
  (← IO.getStderr).putStr outcome.errors
  return outcome.code.toUInt32

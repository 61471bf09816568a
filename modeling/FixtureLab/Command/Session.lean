import FixtureLab.Command.Failure
import FixtureLab.Tree.FileSystem

/-!
This module contains sessions: what a task does to the file system and what it prints. Both
remain when the task fails.
-/

namespace FixtureLab
namespace Command

structure Desk where
  fs : FileSystem
  printed : List String := []

abbrev Session (α : Type) := ExceptT Failure (StateM Desk) α

namespace Session

def fileSystem : Session FileSystem := return (← get).fs

def say (line : String) : Session Unit :=
  modify fun desk => { desk with printed := line :: desk.printed }

def ofExcept {ε α : Type} (failure : ε → Failure) : Except ε α → Session α
  | .ok a => return a
  | .error e => throw (failure e)

def makeDirs (path : Path) : Session Unit := do
  let (made, fs) := (← fileSystem).makeDirs path
  modify ({ · with fs })
  if !made then
    throw { message := "failed to create " ++ path, causes := ["no directory can be made there"] }

def writeFile (path : Path) (text : String) : Session Unit := do
  match (← fileSystem).write? path text with
  | some fs => modify ({ · with fs })
  | none =>
    throw { message := "failed to write " ++ path, causes := ["no file can be written there"] }

def writeOutput (path : Path) (text : String) : Session Unit := do
  match path.parent? with
  | some directory => if !directory.isEmpty then makeDirs directory
  | none => pure ()
  writeFile path text

end Session

end Command
end FixtureLab

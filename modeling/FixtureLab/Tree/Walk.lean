import FixtureLab.Tree.FileSystem

/-!
This module contains walks through file trees, which follow links. A link that leads nowhere, or
back to a directory that the walk is in, makes the walk fail.
-/

namespace FixtureLab
namespace FileTree

inductive Met where
  | file
  | dir (location : Location) (linked : Bool)
  | broken
deriving Repr

def meet (t : FileTree) (here : Location) (name : String) : FileTree → Met
  | .file _ => .file
  | .dir _ => .dir (here ++ [name]) false
  | .link _ =>
    match t.leadThrough maxLinks here [name] with
    | .found location =>
      match t.find? location with
      | some (.dir _) => .dir location true
      | some (.file _) => .file
      | _ => .broken
    | _ => .broken

/-- How deep a walk can get: between two links it goes down, and no directory is linked to twice. -/
def depthBound (t : FileTree) : Nat := (t.size + 1) * (t.size + 1)

def collect {α : Type} (descend : α → Option (List Path)) : List α → Option (List Path)
  | [] => some []
  | a :: rest =>
    match descend a, collect descend rest with
    | some found, some others => some (found ++ others)
    | _, _ => none

/--
The files below the directory at `here`, which the walk reached as `path`. `above` lists the
directories that the walk is in, and `levels` limits how far down it goes.
-/
def walkFrom (t : FileTree) : Nat → List Location → Location → Path → Option Nat →
    Option (List Path)
  | 0, _, _, _, _ => none
  | fuel + 1, above, here, path, levels =>
    if levels = some 0 then some []
    else
      let above := here :: above
      collect (fun (name, node) =>
        match t.meet here name node with
        | .file => some [Path.join path name]
        | .broken => none
        | .dir location linked =>
          if linked && above.contains location then none
          else walkFrom t fuel above location (Path.join path name) (levels.map (· - 1)))
        (((t.find? here).map entries).getD [])

end FileTree

def FileSystem.walk (fs : FileSystem) (root : Path) (levels : Option Nat) : Option (List Path) :=
  match fs.locate? root with
  | some here => fs.tree.walkFrom (fs.tree.depthBound + 1) [] here root levels
  | none => none

end FixtureLab

import FixtureLab.Table
import FixtureLab.Tree.Path

/-!
This module contains file trees as values, with the way that the pieces of a path lead in them.
-/

namespace FixtureLab

inductive FileTree where
  | file (content : ByteArray)
  | dir (entries : List (String × FileTree))
  | link (target : Path)

namespace FileTree

instance : Inhabited FileTree := ⟨.dir []⟩

def isDirectory : FileTree → Bool
  | .dir _ => true
  | _ => false

def isRegular : FileTree → Bool
  | .file _ => true
  | _ => false

def entries : FileTree → List (String × FileTree)
  | .dir es => es
  | _ => []

abbrev Location := List String

def find? (t : FileTree) : Location → Option FileTree
  | [] => some t
  | name :: rest => (Table.find? name t.entries).bind (find? · rest)

def set (t : FileTree) : Location → FileTree → FileTree
  | [], node => node
  | name :: rest, node =>
    .dir (Table.insert name (((Table.find? name t.entries).getD (.dir [])).set rest node) t.entries)

def pieces (p : Path) : List String := (Path.splitOn '/' p.toList).map String.ofList

inductive Lead where
  | found (location : Location)
  -- `rest` is what remains of the path behind the link.
  | link (directory : Location) (target : Path) (rest : List String)
  | vacant (directory : Location) (name : String)
  | missing
deriving Repr

/-- Follow pieces from a location up to the first link. Above the root is the root. -/
def lead (t : FileTree) (here : Location) : List String → Lead
  | [] => .found here
  | piece :: rest =>
    match t.find? here with
    | some (.dir es) =>
      if piece = "" || piece = "." then lead t here rest
      else if piece = ".." then lead t here.dropLast rest
      else
        match Table.find? piece es with
        | none => if rest = [] then .vacant here piece else .missing
        | some (.link target) => .link here target rest
        | some _ => lead t (here ++ [piece]) rest
    | _ => .missing

def maxLinks : Nat := 40

def origin (here : Location) (p : Path) : Location :=
  if p.toList.head? = some '/' then [] else here

def leadThrough (t : FileTree) : Nat → Location → List String → Lead
  | links, here, rest =>
    match t.lead here rest with
    | .link directory target rest =>
      match links with
      | 0 => .missing
      | links + 1 => leadThrough t links (origin directory target) (pieces target ++ rest)
    | other => other

mutual

def filesBelow (here : Location) : FileTree → List (Location × ByteArray)
  | .file content => [(here, content)]
  | .dir es => filesIn here es
  | .link _ => []

def filesIn (here : Location) : List (String × FileTree) → List (Location × ByteArray)
  | [] => []
  | (name, node) :: rest => filesBelow (here ++ [name]) node ++ filesIn here rest

end

def files (t : FileTree) : List (Location × ByteArray) := filesBelow [] t

def changes (before after : FileTree) : List (Location × ByteArray) :=
  let old := before.files
  after.files.filter fun (location, content) =>
    !old.any fun (l, c) => l = location && c.toList = content.toList

mutual

def size : FileTree → Nat
  | .file _ => 1
  | .dir es => sizeEntries es + 1
  | .link _ => 1

def sizeEntries : List (String × FileTree) → Nat
  | [] => 0
  | (_, node) :: rest => size node + sizeEntries rest

end

end FileTree

end FixtureLab

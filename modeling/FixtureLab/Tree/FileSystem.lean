import FixtureLab.Tree.FileTree

/-!
This module contains file systems as values: a tree from the root on, and the working directory that
relative paths start from. Paths are looked up in them, and making directories and writing files
results in other ones.
-/

namespace FixtureLab

structure FileSystem where
  tree : FileTree
  workDir : FileTree.Location := []

namespace FileSystem

open FileTree (Lead Location leadThrough maxLinks origin pieces)

def set (fs : FileSystem) (l : Location) (node : FileTree) : FileSystem :=
  { fs with tree := fs.tree.set l node }

def spelled (fs : FileSystem) (p : Path) : Location :=
  (pieces p).foldl
    (fun here piece =>
      if piece = "" || piece = "." then here
      else if piece = ".." then here.dropLast
      else here ++ [piece])
    (origin fs.workDir p)

def place (fs : FileSystem) (p : Path) (node : FileTree) : FileSystem := fs.set (fs.spelled p) node

def follow (fs : FileSystem) (p : Path) : Lead :=
  if p.isEmpty then .missing else fs.tree.leadThrough maxLinks (origin fs.workDir p) (pieces p)

def locate? (fs : FileSystem) (p : Path) : Option Location :=
  match fs.follow p with
  | .found location => some location
  | _ => none

def at? (fs : FileSystem) (p : Path) : Option FileTree := (fs.locate? p).bind fs.tree.find?

def isFile (fs : FileSystem) (p : Path) : Bool := ((fs.at? p).map FileTree.isRegular).getD false

def isDir (fs : FileSystem) (p : Path) : Bool := ((fs.at? p).map FileTree.isDirectory).getD false

def readText? (fs : FileSystem) (p : Path) : Option String :=
  match fs.at? p with
  | some (.file content) => String.fromUTF8? content
  | _ => none

def dirPieces (p : Path) : List String := ((pieces p).reverse.dropWhile (· = "")).reverse

/--
Make the directory that a path names, unless it is there. The directory above has to exist, and the
name must not be in use, not even for a link that leads nowhere.
-/
def makeDir? (fs : FileSystem) (p : Path) : Option FileSystem :=
  if fs.isDir p then some fs
  else
    match fs.tree.leadThrough maxLinks (origin fs.workDir p) (dirPieces p).dropLast,
        (dirPieces p).getLast? with
    | .found directory, some name =>
      match fs.tree.lead directory [name] with
      | .vacant directory name => some (fs.set (directory ++ [name]) (.dir []))
      | _ => none
    | _, _ => none

/--
Make the directory that a path names, below those that it is in. What could be made remains if one
of them cannot be made.
-/
def makeDirs (fs : FileSystem) (p : Path) : Bool × FileSystem := go p.length p
where
  -- A path is longer than that of the directory it is in.
  go : Nat → Path → Bool × FileSystem
    | 0, _ => (true, fs)
    | n + 1, p =>
      if p.isEmpty then (true, fs)
      else
        match p.parent?.elim (true, fs) (go n) with
        | (true, above) =>
          match above.makeDir? p with
          | some made => (true, made)
          | none => (false, above)
        | (false, above) => (false, above)

def write? (fs : FileSystem) (p : Path) (text : String) : Option FileSystem :=
  match fs.follow p with
  | .vacant directory name => some (fs.set (directory ++ [name]) (.file text.toUTF8))
  | .found location =>
    match fs.tree.find? location with
    | some (.file _) => some (fs.set location (.file text.toUTF8))
    | _ => none
  | _ => none

end FileSystem

end FixtureLab

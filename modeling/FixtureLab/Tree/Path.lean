/-!
This module contains file paths as texts, with their components.
-/

namespace FixtureLab

abbrev Path := String

namespace Path

inductive Component where
  | root
  | current
  | parent
  | normal (name : List Char)
deriving DecidableEq, Repr

def splitOn (sep : Char) : List Char → List (List Char)
  | [] => [[]]
  | c :: rest =>
    if c = sep then [] :: splitOn sep rest
    else
      match splitOn sep rest with
      | piece :: pieces => (c :: piece) :: pieces
      | [] => [[c]]

def component? (piece : List Char) : Option Component :=
  if piece = [] || piece = ['.'] then none
  else if piece = ['.', '.'] then some .parent
  else some (.normal piece)

/--
The components of a path. Empty pieces stand for nothing, and neither do dots other than one that
starts the path.
-/
def componentsOf (cs : List Char) : List Component :=
  match cs with
  | '/' :: rest => .root :: (splitOn '/' rest).filterMap component?
  | _ =>
    let start := if (splitOn '/' cs).head? = some ['.'] then [.current] else []
    start ++ (splitOn '/' cs).filterMap component?

def components (p : Path) : List Component := componentsOf p.toList

def Component.text : Component → List Char
  | .root => ['/']
  | .current => ['.']
  | .parent => ['.', '.']
  | .normal name => name

def fileName? (p : Path) : Option String :=
  match (components p).getLast? with
  | some (.normal name) => some (String.ofList name)
  | _ => none

def baseName (p : Path) : String := (fileName? p).getD p

def lead : List Char → List Char × List Char
  | '/' :: rest => (['/'], rest)
  | ['.'] => (['.'], [])
  | '.' :: '/' :: rest => (['.', '/'], rest)
  | cs => ([], cs)

def dropEmptyEnd (pieces : List (List Char)) : List (List Char) :=
  (pieces.reverse.dropWhile fun piece => piece = [] || piece = ['.']).reverse

def parent? (p : Path) : Option Path :=
  let (start, body) := lead p.toList
  let pieces := dropEmptyEnd (splitOn '/' body)
  if pieces.isEmpty then if start.head? = some '.' then some "" else none
  else
    let above := dropEmptyEnd pieces.dropLast
    if above.isEmpty then some (String.ofList (start.take 1))
    else some (String.ofList (start ++ ['/'].intercalate above))

def join (dir name : Path) : Path :=
  if name.toList.head? = some '/' then name
  else if dir.isEmpty || dir.toList.getLast? = some '/' then dir ++ name
  else dir ++ "/" ++ name

end Path

end FixtureLab

import FixtureLab.Glob.Match
import FixtureLab.Schema.Error
import FixtureLab.Tree.Walk

/-!
This module contains the expansion of file patterns. A pattern without wildcards names one file; any
other stands for the files that match it, below the longest start of the pattern that has no
wildcards.
-/

namespace FixtureLab
namespace FileTree

def hasWildcard (cs : List Char) : Bool :=
  cs.any fun c => c = '*' || c = '?' || c = '[' || c = '\x7b'

def pathOf (components : List Path.Component) : Path :=
  components.foldl (fun p c => Path.join p (String.ofList c.text)) ""

def componentLt : Path.Component → Path.Component → Bool
  | .normal a, .normal b => String.ofList a < String.ofList b
  | a, b => rank a < rank b
where
  rank : Path.Component → Nat
    | .root => 0
    | .current => 1
    | .parent => 2
    | .normal _ => 3

def componentsLe : List Path.Component → List Path.Component → Bool
  | [], _ => true
  | _ :: _, [] => false
  | a :: as, b :: bs => componentLt a b || (!componentLt b a && componentsLe as bs)

def pathLe (p q : Path) : Bool := componentsLe p.components q.components

def hasDoubleStar : List Char → Bool
  | '*' :: '*' :: _ => true
  | _ :: rest => hasDoubleStar rest
  | [] => false

def dropDot (p : Path) : Path :=
  match p.toList with
  | '.' :: '/' :: rest => String.ofList rest
  | _ => p

end FileTree

open FileTree (hasWildcard hasDoubleStar pathOf dropDot pathLe)

def FileSystem.expand (fs : FileSystem) (pattern : String) : Except Schema.Error (List Path) :=
  if !hasWildcard pattern.toList then
    if fs.isFile pattern then .ok [pattern] else .error (.noMatch pattern)
  else
    match Glob.tokens pattern.toList with
    | .error _ => .error (.invalidPattern pattern)
    | .ok tokens =>
      let components := Path.components pattern
      let fixed := components.takeWhile fun c => !hasWildcard c.text
      let root := if fixed.isEmpty then "." else pathOf fixed
      if !fs.isDir root then .error (.noMatch pattern)
      else
        let levels :=
          if hasDoubleStar pattern.toList then none else some (components.length - fixed.length)
        match fs.walk root levels with
        | none => .error (.unwalkable root)
        | some found =>
          let found := if fixed.isEmpty then found.map dropDot else found
          let hits := found.filter fun p => Glob.isMatch tokens p.toUTF8.toList
          if hits.isEmpty then .error (.noMatch pattern) else .ok (hits.mergeSort pathLe)

end FixtureLab

import FixtureLab.Decimal.Binary64
import FixtureLab.Table

/-!
This module contains JSON values and the access to their members.
-/

namespace FixtureLab

/--
A JSON value. The members of an object are listed in the order in which they are written; values
that were read list them in ascending key order, each key once.
-/
inductive Json where
  | null
  | bool (value : Bool)
  | int (value : Int)
  | float (value : Binary64)
  | str (text : String)
  | arr (items : List Json)
  | obj (members : List (String × Json))
deriving Repr, Inhabited

namespace Json

def isNull : Json → Bool
  | .null => true
  | _ => false

def strs (texts : List String) : Json := .arr (texts.map .str)

def optStr : Option String → Json
  | none => .null
  | some s => .str s

def members : Json → List (String × Json)
  | .obj ms => ms
  | _ => []

def member? (key : String) (v : Json) : Option Json := Table.find? key v.members

mutual

def depth : Json → Nat
  | .arr items => depthItems items + 1
  | .obj ms => depthMembers ms + 1
  | _ => 0

def depthItems : List Json → Nat
  | [] => 0
  | v :: rest => max v.depth (depthItems rest)

def depthMembers : List (String × Json) → Nat
  | [] => 0
  | (_, v) :: rest => max v.depth (depthMembers rest)

end

end Json

end FixtureLab

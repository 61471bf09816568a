import FixtureLab.Json.Raw

/-!
This module contains the reading of typed records from JSON documents: the named fields of a record,
and the scalar, optional and list shapes that they have.
-/

namespace FixtureLab
namespace Json
namespace Raw

/--
The known members of an object, under their names. Other members are ignored whatever they hold; a
known name may occur only once.
-/
def knownMembers? (names : List String) :
    List (List Piece × Raw) → Option (List (String × Raw))
  | [] => some []
  | (key, v) :: rest =>
    match text? key, knownMembers? names rest with
    | some key, some known =>
      if names.contains key then
        if (known.lookup key).isSome then none else some ((key, v) :: known)
      else some known
    | _, _ => none

/--
The fields of a record that is written as an object, or as an array that holds its first fields, at
least `required` of them, in order.
-/
def fields? (names : List String) (required : Nat) : Raw → Option (List (String × Raw))
  | .obj members => knownMembers? names members
  | .arr items =>
    if required ≤ items.length && items.length ≤ names.length then some (names.zip items) else none
  | _ => none

def string? : Raw → Option String
  | .str s => text? s
  | _ => none

def bool? : Raw → Option Bool
  | .bool b => some b
  | _ => none

def int64? : Raw → Option Int
  | .number l =>
    match l.number? with
    | some (.int n) => if n < (1 <<< 63 : Nat) then some n else none
    | _ => none
  | _ => none

def nullable? {α : Type} (read : Raw → Option α) : Raw → Option (Option α)
  | .null => some none
  | v => (read v).map some

def list? {α : Type} (read : Raw → Option α) : Raw → Option (List α)
  | .arr items => items.mapM read
  | _ => none

def optional? {α : Type} (read : Raw → Option α) (fields : List (String × Raw)) (name : String) :
    Option (Option α) :=
  match fields.lookup name with
  | none => some none
  | some v => nullable? read v

end Raw
end Json
end FixtureLab

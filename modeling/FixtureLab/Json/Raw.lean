import FixtureLab.Json.Basic
import FixtureLab.Json.Token

/-!
This module contains JSON documents as written: members in their order, with repeated keys, and
numbers and strings not yet interpreted. A document is read from its tokens by one left fold with a
stack of open containers. Values and typed records are both decoded from this form.
-/

namespace FixtureLab
namespace Json

inductive Raw where
  | null
  | bool (value : Bool)
  | number (literal : Literal)
  | str (pieces : List Piece)
  | arr (items : List Raw)
  | obj (members : List (List Piece × Raw))
deriving Repr

namespace Raw

inductive Frame where
  -- What a container holds so far is in reverse order.
  | arr (items : List Raw)
  | obj (members : List (List Piece × Raw)) (key : List Piece)
deriving Repr

inductive State where
  | value
  | firstItem
  | key (first : Bool) (members : List (List Piece × Raw))
  | colon (members : List (List Piece × Raw)) (key : List Piece)
  | after (value : Raw)
deriving Repr

def startValue (stack : List Frame) : Token → Option (State × List Frame)
  | .null => some (.after .null, stack)
  | .bool b => some (.after (.bool b), stack)
  | .number l => some (.after (.number l), stack)
  | .str s => some (.after (.str s), stack)
  | .openArr => some (.firstItem, .arr [] :: stack)
  | .openObj => some (.key true [], stack)
  | _ => none

def step : State × List Frame → Token → Option (State × List Frame)
  | (.value, stack), token => startValue stack token
  | (.firstItem, stack), token =>
    match token, stack with
    | .closeArr, .arr _ :: stack => some (.after (.arr []), stack)
    | _, _ => startValue stack token
  | (.key first members, stack), token =>
    match token with
    | .str key => some (.colon members key, stack)
    | .closeObj => if first then some (.after (.obj members.reverse), stack) else none
    | _ => none
  | (.colon members key, stack), token =>
    match token with
    | .colon => some (.value, .obj members key :: stack)
    | _ => none
  | (.after v, stack), token =>
    match token, stack with
    | .comma, .arr items :: stack => some (.value, .arr (v :: items) :: stack)
    | .closeArr, .arr items :: stack => some (.after (.arr (v :: items).reverse), stack)
    | .comma, .obj members key :: stack => some (.key false ((key, v) :: members), stack)
    | .closeObj, .obj members key :: stack =>
      some (.after (.obj ((key, v) :: members).reverse), stack)
    | _, _ => none

def ofTokens? (tokens : List Token) : Option Raw :=
  match tokens.foldlM step (.value, []) with
  | some (.after v, []) => some v
  | _ => none

def ofChars? (cs : List Char) : Option Raw := (tokens? cs).bind ofTokens?

def ofString? (s : String) : Option Raw := ofChars? s.toList

def maxDepth : Nat := 127

def text? (pieces : List Piece) : Option String := (Piece.text? pieces).map String.ofList

mutual

/--
The value of a document with at most `room` nested containers. A repeated key keeps its last value.
Numbers out of range and unpaired surrogates have no value.
-/
def value? (room : Nat) : Raw → Option Json
  | .null => some .null
  | .bool b => some (.bool b)
  | .number l =>
    match l.number? with
    | some (.int n) => some (.int n)
    | some (.float x) => some (.float x)
    | none => none
  | .str s => (text? s).map .str
  | .arr items =>
    match room with
    | 0 => none
    | room + 1 => (values? room items).map .arr
  | .obj members =>
    match room with
    | 0 => none
    | room + 1 => (table? room members).map fun entries => .obj (Table.ofList entries)

def values? (room : Nat) : List Raw → Option (List Json)
  | [] => some []
  | v :: rest =>
    match value? room v, values? room rest with
    | some v, some rest => some (v :: rest)
    | _, _ => none

def table? (room : Nat) : List (List Piece × Raw) → Option (List (String × Json))
  | [] => some []
  | (k, v) :: rest =>
    match text? k, value? room v, table? room rest with
    | some k, some v, some rest => some ((k, v) :: rest)
    | _, _, _ => none

end

end Raw

def ofChars? (cs : List Char) : Option Json := (Raw.ofChars? cs).bind (Raw.value? Raw.maxDepth)

def ofString? (s : String) : Option Json := ofChars? s.toList

end Json
end FixtureLab

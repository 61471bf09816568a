import FixtureLab.Schema.Basic
import FixtureLab.Schema.Error

/-!
This module contains the inference of record types from samples. The root of every sample has the
model type, and a nested object has the type that its field names. What several objects show of one
type is merged. A type enters the table when its first object is complete, so that a nested type
comes before the type that holds it.
-/

namespace FixtureLab
namespace Schema

structure TypeTable where
  types : List RecordType := []
  index : Table Nat := []
deriving Repr, Inhabited

namespace TypeTable

def put (t : TypeTable) (type : RecordType) : TypeTable :=
  match Table.find? type.name t.index with
  | some i => { t with types := t.types.modify i (·.merge type) }
  | none =>
    { types := t.types ++ [type], index := Table.insert type.name t.types.length t.index }

end TypeTable

structure Findings where
  table : TypeTable
  leaves : Table String := []
deriving Repr, Inhabited

def memberPath (path key : String) : String := if path.isEmpty then key else path ++ "." ++ key

def itemPath (path : String) (i : Nat) : String := path ++ "[" ++ toString i ++ "]"

def Findings.addLeaf (found : Findings) (place : String) (f : Field) : Findings :=
  { found with leaves := Table.insert place f.typeName found.leaves }

def Findings.addType (found : Findings) (type : RecordType) : Findings :=
  { found with table := found.table.put type }

mutual

/--
Walk through the members of an object of the given type, of which `fields` were seen already. What
was found before an error stays found.
-/
def walkMembers (file type path : String) (fields : List Field) :
    List (String × Json) → Findings → Except Error Unit × Findings
  | [], found => (.ok (), found.addType { name := type, fields })
  | (key, v) :: rest, found =>
    let field := Field.ofSample key v
    match walkValue file (memberPath path key) field v found with
    | (.ok _, found) => walkMembers file type path (fields ++ [field]) rest found
    | (.error e, found) => (.error e, found)

def walkValue (file place : String) (field : Field) :
    Json → Findings → Except Error Unit × Findings
  | .obj members, found =>
    match field.objectName with
    | some object => walkMembers file object place [] members found
    | none => (.ok (), found.addLeaf place field)
  | .arr items, found =>
    match field.objectName with
    | some object => walkItems file object place 0 items found
    | none => (.ok (), found.addLeaf place field)
  | _, found => (.ok (), found.addLeaf place field)

def walkItems (file type path : String) (i : Nat) :
    List Json → Findings → Except Error Unit × Findings
  | [], found => (.ok (), found)
  | .obj members :: rest, found =>
    match walkMembers file type (itemPath path i) [] members found with
    | (.ok _, found) => walkItems file type path (i + 1) rest found
    | (.error e, found) => (.error e, found)
  | .null :: rest, found => walkItems file type path (i + 1) rest found
  | _ :: _, found => (.error (.notAnObject file (itemPath path i)), found)

end

structure Inferrer where
  model : String
  table : TypeTable := {}
  samples : List Sample := []
  used : List String := []
deriving Repr, Inhabited

namespace Inferrer

def new (model : String) : Except Error Inferrer :=
  let model := Text.upperCamelCase model
  if model.isEmpty then .error .invalidModel else .ok { model }

/--
Add one sample. Its label's base name must be new and its root an object. The types that were
completed before an error was found stay in the table.
-/
def addValue (t : Inferrer) (file : String) (v : Json) : Except Error Unit × Inferrer :=
  let name := Path.baseName file
  if name ∈ t.used then (.error (.duplicateFile name), t)
  else
    match v with
    | .obj members =>
      match walkMembers file t.model "" [] members { table := t.table } with
      | (.ok _, found) =>
        (.ok (), {
          t with
          table := found.table
          samples := t.samples ++ [{ file, rootModel := t.model, leaves := found.leaves }]
          used := t.used ++ [name] })
      | (.error e, found) => (.error e, { t with table := found.table })
    | _ => (.error (.notAnObject file "$"), t)

def finish (t : Inferrer) : Definitions := { types := t.table.types, samples := t.samples }

end Inferrer

end Schema
end FixtureLab

import FixtureLab.Schema.Infer

/-!
This module contains what there is to find in a sample: its leaves, the types that its objects show,
and its faults, in the order of the walk. The walk adds up what it finds before the first fault.
-/

namespace FixtureLab
namespace Schema

inductive Finding where
  | leaf (place : String) (field : Field)
  | complete (type : RecordType)
  | fault (place : String)

def Finding.type? : Finding → Option RecordType
  | .complete type => some type
  | _ => none

mutual

def findInMembers (type path : String) (fields : List Field) :
    List (String × Json) → List Finding
  | [] => [.complete { name := type, fields }]
  | (key, v) :: rest =>
    let field := Field.ofSample key v
    findInValue (memberPath path key) field v ++ findInMembers type path (fields ++ [field]) rest

def findInValue (place : String) (field : Field) : Json → List Finding
  | .obj members =>
    match field.objectName with
    | some object => findInMembers object place [] members
    | none => [.leaf place field]
  | .arr items =>
    match field.objectName with
    | some object => findInItems object place 0 items
    | none => [.leaf place field]
  | _ => [.leaf place field]

def findInItems (type path : String) (i : Nat) : List Json → List Finding
  | [] => []
  | .obj members :: rest =>
    findInMembers type (itemPath path i) [] members ++ findInItems type path (i + 1) rest
  | .null :: rest => findInItems type path (i + 1) rest
  | _ :: rest => .fault (itemPath path i) :: findInItems type path (i + 1) rest

end

namespace Findings

def addAll (file : String) : List Finding → Findings → Except Error Unit × Findings
  | [], found => (.ok (), found)
  | .leaf place f :: rest, found => addAll file rest (found.addLeaf place f)
  | .complete type :: rest, found => addAll file rest (found.addType type)
  | .fault place :: _, found => (.error (.notAnObject file place), found)

theorem addAll_append (file : String) (fs gs : List Finding) (found : Findings) :
    addAll file (fs ++ gs) found
      =
    match addAll file fs found with
    | (.ok _, found) => addAll file gs found
    | (.error e, found) => (.error e, found) := by
  induction fs generalizing found with
  | nil => rfl
  | cons f fs ih =>
    cases f with
    | fault place => rfl
    | leaf place f => exact ih _
    | complete type => exact ih _

theorem table_addAll (file : String) (fs : List Finding) (found : Findings)
    (h : (addAll file fs found).1 = .ok ()) :
    (addAll file fs found).2.table = (fs.filterMap Finding.type?).foldl .put found.table := by
  induction fs generalizing found with
  | nil => rfl
  | cons f fs ih =>
    cases f with
    | fault place => cases h
    | leaf place f => exact ih _ h
    | complete type => exact ih _ h

end Findings

open Findings (addAll addAll_append)

mutual

theorem walkMembers_eq_addAll (file type path : String) (fields : List Field)
    (members : List (String × Json)) (found : Findings) :
    walkMembers file type path fields members found
      =
    addAll file (findInMembers type path fields members) found := by
  match members with
  | [] => rfl
  | (key, v) :: rest =>
    have hvalue := walkValue_eq_addAll file (memberPath path key) (Field.ofSample key v) v found
    simp only [walkMembers, findInMembers, addAll_append, hvalue]
    cases addAll file (findInValue (memberPath path key) (Field.ofSample key v) v) found with
    | mk result found =>
      cases result with
      | ok _ => exact walkMembers_eq_addAll file type path _ rest found
      | error e => rfl

theorem walkValue_eq_addAll (file place : String) (field : Field) (v : Json) (found : Findings) :
    walkValue file place field v found = addAll file (findInValue place field v) found := by
  match v with
  | .obj members =>
    simp only [walkValue, findInValue]
    cases field.objectName with
    | some object => exact walkMembers_eq_addAll file object place [] members found
    | none => rfl
  | .arr items =>
    simp only [walkValue, findInValue]
    cases field.objectName with
    | some object => exact walkItems_eq_addAll file object place 0 items found
    | none => rfl
  | .null => rfl
  | .bool _ => rfl
  | .int _ => rfl
  | .float _ => rfl
  | .str _ => rfl

theorem walkItems_eq_addAll (file type path : String) (i : Nat) (items : List Json)
    (found : Findings) :
    walkItems file type path i items found
      =
    addAll file (findInItems type path i items) found := by
  match items with
  | [] => rfl
  | .obj members :: rest =>
    have hmembers := walkMembers_eq_addAll file type (itemPath path i) [] members found
    simp only [walkItems, findInItems, addAll_append, hmembers]
    cases addAll file (findInMembers type (itemPath path i) [] members) found with
    | mk result found =>
      cases result with
      | ok _ => exact walkItems_eq_addAll file type path (i + 1) rest found
      | error e => rfl
  | .null :: rest =>
    simp only [walkItems, findInItems]
    exact walkItems_eq_addAll file type path (i + 1) rest found
  | .bool _ :: _ => rfl
  | .int _ :: _ => rfl
  | .float _ :: _ => rfl
  | .str _ :: _ => rfl
  | .arr _ :: _ => rfl

end

end Schema
end FixtureLab

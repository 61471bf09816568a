import FixtureLab.Json.Fields

/-!
This module contains the nodes of the composition graph: which fixture a fixture was derived from,
and which fixtures it holds.
-/

namespace FixtureLab
namespace Graph

inductive Edge where
  | child
  | parent
deriving DecidableEq, Repr

structure Record where
  id : String
  parent : Option String := none
  children : List String := []
deriving DecidableEq, Repr, Inhabited

namespace Record

def setParent (r : Record) (id : String) : Record := { r with parent := some id }

def addChild (r : Record) (id : String) : Record :=
  if id ∈ r.children then r else { r with children := r.children ++ [id] }

def link (r : Record) : Edge → String → Record
  | .child, id => r.addChild id
  | .parent, id => r.setParent id

def targets (r : Record) : List String := r.parent.toList ++ r.children

@[simp]
theorem link_id (r : Record) (edge : Edge) (id : String) : (r.link edge id).id = r.id := by
  cases edge <;> simp only [link, setParent, addChild]
  split <;> rfl

def fieldNames : List String := ["dataId", "inheritDataId", "properties"]

def toJson (r : Record) : Json :=
  .obj <|
    ("dataId", .str r.id) ::
      (match r.parent with
        | some parent => [("inheritDataId", .str parent)]
        | none => []) ++
      [("properties", .strs r.children)]

def ofRaw? (v : Json.Raw) : Option Record := do
  let fields ← v.fields? fieldNames 1
  let id ← (← fields.lookup "dataId").string?
  let parent ← Json.Raw.optional? Json.Raw.string? fields "inheritDataId"
  let children ← match fields.lookup "properties" with
    | none => some []
    | some v => v.list? Json.Raw.string?
  return { id, parent := parent.filter (!·.isEmpty), children }

def ofString? (s : String) : Option Record := (Json.Raw.ofString? s).bind ofRaw?

def listOfRaw? (v : Json.Raw) : Option (List Record) := v.list? ofRaw?

end Record

end Graph
end FixtureLab

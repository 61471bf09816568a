import FixtureLab.Proofs.Schema.Walk

/-!
This module contains the objects of a sample and their types, in the order in which they are
complete: an object follows the objects that are nested in it.
-/

namespace FixtureLab
namespace Schema

structure TypedObject where
  type : String
  members : List (String × Json)

def TypedObject.shown (o : TypedObject) : RecordType where
  name := o.type
  fields := o.members.map fun (key, v) => Field.ofSample key v

def startsWithObject (items : List Json) : Bool :=
  match items.find? (!·.isNull) with
  | some (.obj _) => true
  | _ => false

mutual

def objectsBelow : List (String × Json) → List TypedObject
  | [] => []
  | (key, v) :: rest => objectsIn (Text.upperCamelCase key) v ++ objectsBelow rest

def objectsIn (type : String) : Json → List TypedObject
  | .obj members => objectsBelow members ++ [{ type, members }]
  | .arr items => if startsWithObject items then objectsAmong type items else []
  | _ => []

def objectsAmong (type : String) : List Json → List TypedObject
  | [] => []
  | .obj members :: rest => objectsBelow members ++ { type, members } :: objectsAmong type rest
  | _ :: rest => objectsAmong type rest

end

def objectsOf (type : String) (samples : List (String × Json)) : List TypedObject :=
  samples.flatMap fun (_, v) => objectsIn type v

theorem objectName_ofSample_obj (key : String) (members : List (String × Json)) :
    (Field.ofSample key (.obj members)).objectName = some (Text.upperCamelCase key) := rfl

theorem kind_ofSample_arr_eq_object_iff (key : String) (items : List Json) :
    (Field.ofSample key (.arr items)).kind = .object ↔ startsWithObject items := by
  simp only [Field.ofSample, Field.representative?, startsWithObject]
  cases items.find? (!·.isNull) with
  | none => simp
  | some v => cases v <;> simp [FieldKind.of]

theorem objectName_ofSample (key : String) (v : Json) :
    (Field.ofSample key v).objectName
      =
    if (Field.ofSample key v).kind = .object then some (Text.upperCamelCase key) else none := rfl

theorem objectName_ofSample_arr (key : String) (items : List Json) :
    (Field.ofSample key (.arr items)).objectName
      =
    if startsWithObject items then some (Text.upperCamelCase key) else none := by
  rw [objectName_ofSample]
  simp only [kind_ofSample_arr_eq_object_iff]

mutual

theorem types_findInMembers (type path : String) (fields : List Field)
    (members : List (String × Json)) :
    (findInMembers type path fields members).filterMap Finding.type?
      =
    (objectsBelow members).map TypedObject.shown ++
      [{ name := type, fields := fields ++ members.map fun (key, v) => Field.ofSample key v }] := by
  match members with
  | [] => simp [findInMembers, objectsBelow, Finding.type?]
  | (key, v) :: rest =>
    simp only [findInMembers, objectsBelow, List.filterMap_append]
    rw [types_findInValue, types_findInMembers type path _ rest]
    simp

theorem types_findInValue (place key : String) (v : Json) :
    (findInValue place (Field.ofSample key v) v).filterMap Finding.type?
      =
    (objectsIn (Text.upperCamelCase key) v).map TypedObject.shown := by
  match v with
  | .obj members =>
    simp only [findInValue, objectsIn, objectName_ofSample_obj]
    rw [types_findInMembers]
    simp [TypedObject.shown]
  | .arr items =>
    simp only [findInValue, objectsIn, objectName_ofSample_arr]
    by_cases hstart : startsWithObject items
    . simp only [hstart, if_true]
      exact types_findInItems _ place 0 items
    . simp only [hstart]
      rfl
  | .null => rfl
  | .bool _ => rfl
  | .int _ => rfl
  | .float _ => rfl
  | .str _ => rfl

theorem types_findInItems (type path : String) (i : Nat) (items : List Json) :
    (findInItems type path i items).filterMap Finding.type?
      =
    (objectsAmong type items).map TypedObject.shown := by
  match items with
  | [] => rfl
  | .obj members :: rest =>
    simp only [findInItems, objectsAmong, List.filterMap_append]
    rw [types_findInMembers, types_findInItems type path (i + 1) rest]
    simp [TypedObject.shown]
  | .null :: rest => exact types_findInItems type path (i + 1) rest
  | .bool _ :: rest => exact types_findInItems type path (i + 1) rest
  | .int _ :: rest => exact types_findInItems type path (i + 1) rest
  | .float _ :: rest => exact types_findInItems type path (i + 1) rest
  | .str _ :: rest => exact types_findInItems type path (i + 1) rest
  | .arr _ :: rest => exact types_findInItems type path (i + 1) rest

end

theorem mem_objectsBelow {members : List (String × Json)} {o : TypedObject} :
    o ∈ objectsBelow members ↔ ∃ m ∈ members, o ∈ objectsIn (Text.upperCamelCase m.1) m.2 := by
  induction members with
  | nil => simp [objectsBelow]
  | cons m rest ih => simp [objectsBelow, ih]

theorem mem_objectsIn_obj (type : String) (members : List (String × Json)) :
    { type, members } ∈ objectsIn type (.obj members) := by
  simp [objectsIn]

theorem mem_objectsAmong {type : String} {items : List Json} {members : List (String × Json)}
    (h : .obj members ∈ items) : { type, members } ∈ objectsAmong type items := by
  induction items with
  | nil => cases h
  | cons v rest ih =>
    rcases List.mem_cons.1 h with rfl | hrest
    . simp [objectsAmong]
    . have hmem := ih hrest
      cases v <;> simp [objectsAmong, hmem]

theorem mem_objectsOf {type : String} {samples : List (String × Json)} {sample : String × Json}
    (hsample : sample ∈ samples) {o : TypedObject} (ho : o ∈ objectsIn type sample.2) :
    o ∈ objectsOf type samples :=
  List.mem_flatMap.2 ⟨sample, hsample, ho⟩

section Induction

variable {P : TypedObject → Prop} {objects : List TypedObject}

mutual

theorem forall_objectsIn
    (step : ∀ o ∈ objects, (∀ o' ∈ objectsBelow o.members, o' ∈ objects ∧ P o') → P o)
    (type : String) (v : Json) (h : ∀ o ∈ objectsIn type v, o ∈ objects) :
    ∀ o ∈ objectsIn type v, P o := by
  match v with
  | .obj members =>
    simp only [objectsIn, List.forall_mem_append] at h ⊢
    have hbelow := forall_objectsBelow step members h.1
    refine ⟨hbelow, ?_⟩
    -- The object itself comes last, when all that is below it is known.
    intro o ho
    cases List.mem_singleton.1 ho
    exact step _ (h.2 _ ho) fun o' ho' => ⟨h.1 o' ho', hbelow o' ho'⟩
  | .arr items =>
    simp only [objectsIn] at h ⊢
    by_cases hstart : startsWithObject items
    . rw [if_pos hstart] at h ⊢
      exact forall_objectsAmong step type items h
    . simp [hstart]
  | .null => simp [objectsIn]
  | .bool _ => simp [objectsIn]
  | .int _ => simp [objectsIn]
  | .float _ => simp [objectsIn]
  | .str _ => simp [objectsIn]

theorem forall_objectsBelow
    (step : ∀ o ∈ objects, (∀ o' ∈ objectsBelow o.members, o' ∈ objects ∧ P o') → P o)
    (members : List (String × Json)) (h : ∀ o ∈ objectsBelow members, o ∈ objects) :
    ∀ o ∈ objectsBelow members, P o := by
  match members with
  | [] => simp [objectsBelow]
  | (key, v) :: rest =>
    simp only [objectsBelow, List.forall_mem_append] at h ⊢
    exact ⟨forall_objectsIn step _ v h.1, forall_objectsBelow step rest h.2⟩

theorem forall_objectsAmong
    (step : ∀ o ∈ objects, (∀ o' ∈ objectsBelow o.members, o' ∈ objects ∧ P o') → P o)
    (type : String) (items : List Json) (h : ∀ o ∈ objectsAmong type items, o ∈ objects) :
    ∀ o ∈ objectsAmong type items, P o := by
  match items with
  | [] => simp [objectsAmong]
  | .obj members :: rest =>
    simp only [objectsAmong, List.forall_mem_append, List.forall_mem_cons] at h ⊢
    have hbelow := forall_objectsBelow step members h.1
    have hroot := step _ h.2.1 fun o' ho' => ⟨h.1 o' ho', hbelow o' ho'⟩
    exact ⟨hbelow, hroot, forall_objectsAmong step type rest h.2.2⟩
  | .null :: rest => exact forall_objectsAmong step type rest h
  | .bool _ :: rest => exact forall_objectsAmong step type rest h
  | .int _ :: rest => exact forall_objectsAmong step type rest h
  | .float _ :: rest => exact forall_objectsAmong step type rest h
  | .str _ :: rest => exact forall_objectsAmong step type rest h
  | .arr _ :: rest => exact forall_objectsAmong step type rest h

end

theorem forall_objectsOf {type : String} {samples : List (String × Json)}
    (step : ∀ o ∈ objectsOf type samples,
      (∀ o' ∈ objectsBelow o.members, o' ∈ objectsOf type samples ∧ P o') → P o) :
    ∀ o ∈ objectsOf type samples, P o := by
  intro o ho
  obtain ⟨sample, hsample, hmem⟩ := List.mem_flatMap.1 ho
  exact forall_objectsIn step type sample.2 (fun o ho => mem_objectsOf hsample ho) o hmem

end Induction

theorem mem_objectsOf_of_below {type : String} {samples : List (String × Json)} :
    ∀ o ∈ objectsOf type samples, ∀ o' ∈ objectsBelow o.members, o' ∈ objectsOf type samples :=
  forall_objectsOf fun _ _ h o' ho' => (h o' ho').1

end Schema
end FixtureLab

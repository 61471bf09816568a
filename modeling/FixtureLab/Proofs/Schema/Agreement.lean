import FixtureLab.Proofs.Schema.Merge
import Mathlib.Algebra.Group.Int.Defs

/-!
This module contains when the values that samples hold under one key agree, and what the field that
they settle on tells about each of them. It also contains which values a struct field of the settled
type cannot hold, although they agree.
-/

namespace FixtureLab

def Json.items : Json → List Json
  | .arr items => items
  | _ => []

def Json.fitsInt64 : Json → Bool
  | .int n => -2 ^ 63 ≤ n && n < 2 ^ 63
  | _ => true

namespace Schema

def kindOf (v : Json) : FieldKind := ((Field.representative? v).map FieldKind.of).getD .unknown

namespace FieldKind

def Numeric (k : FieldKind) : Prop := k = .int64 ∨ k = .float64

instance (k : FieldKind) : Decidable k.Numeric :=
  inferInstanceAs (Decidable (k = .int64 ∨ k = .float64))

def Agree (k l : FieldKind) : Prop :=
  k = .unknown ∨ l = .unknown ∨ k = l ∨ k.Numeric ∧ l.Numeric

instance (k l : FieldKind) : Decidable (k.Agree l) :=
  inferInstanceAs (Decidable (k = .unknown ∨ l = .unknown ∨ k = l ∨ k.Numeric ∧ l.Numeric))

end FieldKind

structure Agree (vs : List Json) : Prop where
  shapes : ∀ v ∈ vs, ∀ w ∈ vs, ¬v.isNull → ¬w.isNull →
    Field.isArrayValue v = Field.isArrayValue w
  kinds : ∀ v ∈ vs, ∀ w ∈ vs, (kindOf v).Agree (kindOf w)
  items : ∀ v ∈ vs, ∀ w ∈ vs, ∀ x ∈ v.items, ∀ y ∈ w.items, ¬x.isNull → ¬y.isNull →
    FieldKind.of x = FieldKind.of y

instance (vs : List Json) : Decidable (Agree vs) :=
  decidable_of_iff
    ((∀ v ∈ vs, ∀ w ∈ vs, ¬v.isNull → ¬w.isNull → Field.isArrayValue v = Field.isArrayValue w)
      ∧ (∀ v ∈ vs, ∀ w ∈ vs, (kindOf v).Agree (kindOf w))
      ∧ ∀ v ∈ vs, ∀ w ∈ vs, ∀ x ∈ v.items, ∀ y ∈ w.items, ¬x.isNull → ¬y.isNull →
        FieldKind.of x = FieldKind.of y)
    ⟨fun ⟨shapes, kinds, items⟩ => ⟨shapes, kinds, items⟩,
      fun h => ⟨h.shapes, h.kinds, h.items⟩⟩

/-- If an array under the key holds an object, then no array under the key holds null. -/
def ObjectArraysFull (vs : List Json) : Prop :=
  (∃ v ∈ vs, kindOf v = .object) → ∀ v ∈ vs, ∀ x ∈ v.items, ¬x.isNull

instance (vs : List Json) : Decidable (ObjectArraysFull vs) :=
  inferInstanceAs (Decidable ((∃ v ∈ vs, kindOf v = .object) → _))

/-- The integers under the key have 64 bits with a sign, unless there are floats under it. -/
def NumbersFit (vs : List Json) : Prop :=
  (∃ v ∈ vs, kindOf v = .float64) ∨ ∀ v ∈ vs, v.fitsInt64 ∧ ∀ x ∈ v.items, x.fitsInt64

instance (vs : List Json) : Decidable (NumbersFit vs) :=
  inferInstanceAs (Decidable ((∃ v ∈ vs, kindOf v = .float64) ∨ _))

def NoConflicts (objects : List TypedObject) : Prop :=
  ∀ o ∈ objects, ∀ m ∈ o.members, Agree (valuesAt objects o.type m.1)

instance (objects : List TypedObject) : Decidable (NoConflicts objects) :=
  inferInstanceAs (Decidable (∀ o ∈ objects, ∀ m ∈ o.members, Agree (valuesAt objects o.type m.1)))

structure Readable (objects : List TypedObject) : Prop where
  present : ∀ o ∈ objects, ∀ m ∈ o.members, (∀ v ∈ valuesAt objects o.type m.1, v.isNull) →
    ∀ o' ∈ objects, o'.type = o.type → m.1 ∈ o'.members.map (·.1)
  full : ∀ o ∈ objects, ∀ m ∈ o.members, ObjectArraysFull (valuesAt objects o.type m.1)
  fit : ∀ o ∈ objects, ∀ m ∈ o.members, NumbersFit (valuesAt objects o.type m.1)

instance (objects : List TypedObject) : Decidable (Readable objects) :=
  decidable_of_iff
    ((∀ o ∈ objects, ∀ m ∈ o.members, (∀ v ∈ valuesAt objects o.type m.1, v.isNull) →
        ∀ o' ∈ objects, o'.type = o.type → m.1 ∈ o'.members.map (·.1))
      ∧ (∀ o ∈ objects, ∀ m ∈ o.members, ObjectArraysFull (valuesAt objects o.type m.1))
      ∧ ∀ o ∈ objects, ∀ m ∈ o.members, NumbersFit (valuesAt objects o.type m.1))
    ⟨fun ⟨present, full, fit⟩ => ⟨present, full, fit⟩, fun h => ⟨h.present, h.full, h.fit⟩⟩

theorem exists_item_of_kindOf {items : List Json} (h : kindOf (.arr items) ≠ .unknown) :
    ∃ y ∈ items, ¬y.isNull ∧ FieldKind.of y = kindOf (.arr items) := by
  unfold kindOf Field.representative? at *
  cases hfind : items.find? (!·.isNull) with
  | none => simp [hfind] at h
  | some y =>
    have hnotNull := List.find?_some hfind
    exact ⟨y, List.mem_of_find?_eq_some hfind, by simpa using hnotNull, by simp [hfind]⟩

theorem exists_object_of_kindOf (type : String) {v : Json} (h : kindOf v = .object) :
    ∃ members, { type, members } ∈ objectsIn type v := by
  cases v with
  | obj members => exact ⟨members, mem_objectsIn_obj type members⟩
  | arr items =>
    have hknown : kindOf (.arr items) ≠ .unknown := by simp [h]
    have hstart : startsWithObject items :=
      (kind_ofSample_arr_eq_object_iff type items).1 h
    obtain ⟨y, hy, -, hof⟩ := exists_item_of_kindOf hknown
    rw [h] at hof
    cases y with
    | obj members =>
      refine ⟨members, ?_⟩
      rw [objectsIn, if_pos hstart]
      exact mem_objectsAmong hy
    | _ => cases hof
  | _ => cases h

theorem isNull_of_kindOf {v : Json} (h : kindOf v = .unknown)
    (hshape : Field.isArrayValue v = false) : v.isNull := by
  cases v <;> simp_all [kindOf, Field.representative?, FieldKind.of, Field.isArrayValue,
    Json.isNull]

theorem of_eq_kindOf {v : Json} (h : ¬Field.isArrayValue v) : FieldKind.of v = kindOf v := by
  cases v with
  | arr items => simp [Field.isArrayValue] at h
  | _ => rfl

theorem not_isNull_of_kindOf {v : Json} (h : kindOf v ≠ .unknown) : ¬v.isNull := by
  cases v <;> simp_all [kindOf, Field.representative?, FieldKind.of, Json.isNull]

@[simp]
theorem kind_ofSample (key : String) (v : Json) : (Field.ofSample key v).kind = kindOf v := rfl

@[simp]
theorem isArray_ofSample (key : String) (v : Json) :
    (Field.ofSample key v).isArray = Field.isArrayValue v := rfl

structure SettledOn (key : String) (vs : List Json) (w : Json) : Prop where
  agree : Agree vs
  mem : w ∈ vs
  settled : ∀ v ∈ vs, ¬(Field.ofSample key v).refines (Field.ofSample key w)

namespace SettledOn

variable {key : String} {vs : List Json} {w v : Json}

theorem isNull_of_unknown (h : SettledOn key vs w) (hkind : kindOf w = .unknown)
    (hshape : Field.isArrayValue w = false) (hv : v ∈ vs) : v.isNull := by
  have hsettled := h.settled v hv
  simp only [Field.refines_iff, kind_ofSample, isArray_ofSample, hkind, hshape] at hsettled
  apply isNull_of_kindOf <;> grind

theorem isArrayValue_eq (h : SettledOn key vs w) (hw : ¬w.isNull) (hv : v ∈ vs)
    (hnotNull : ¬v.isNull) : Field.isArrayValue v = Field.isArrayValue w :=
  h.agree.shapes v hv w h.mem hnotNull hw

theorem kindOf_ne_float64 (h : SettledOn key vs w) (hkind : kindOf w = .int64) (hv : v ∈ vs) :
    kindOf v ≠ .float64 := by
  intro hfloat
  -- A float would have widened the field that `w` shows.
  apply h.settled v hv
  have hshape : Field.isArrayValue v = Field.isArrayValue w := by
    apply h.isArrayValue_eq _ hv
    . exact not_isNull_of_kindOf (by simp [hfloat])
    . exact not_isNull_of_kindOf (by simp [hkind])
  simp [Field.refines_iff, hkind, hfloat, hshape]

theorem kindOf_eq (h : SettledOn key vs w) (hkind : kindOf w ≠ .unknown) (hv : v ∈ vs)
    (hknown : kindOf v ≠ .unknown) :
    kindOf v = kindOf w ∨ kindOf w = .float64 ∧ kindOf v = .int64 := by
  have hint : kindOf w = .int64 → kindOf v ≠ .float64 := fun hint => h.kindOf_ne_float64 hint hv
  rcases h.agree.kinds v hv w h.mem with hv' | hw' | heq | ⟨hv', hw'⟩
  . exact absurd hv' hknown
  . exact absurd hw' hkind
  . exact Or.inl heq
  . unfold FieldKind.Numeric at hv' hw'
    grind

theorem fitsInt64 (h : SettledOn key vs w) (hkind : kindOf w = .int64) (hfit : NumbersFit vs)
    (hv : v ∈ vs) : v.fitsInt64 ∧ ∀ x ∈ v.items, x.fitsInt64 := by
  rcases hfit with ⟨u, hu, hfloat⟩ | hfit
  . exact absurd hfloat (h.kindOf_ne_float64 hkind hu)
  . exact hfit v hv

theorem of_item (h : SettledOn key vs w) (hshape : Field.isArrayValue w)
    (hkind : kindOf w ≠ .unknown) (hv : v ∈ vs) {x : Json} (hx : x ∈ v.items)
    (hnotNull : ¬x.isNull) : FieldKind.of x = kindOf w := by
  cases w with
  | arr items =>
    obtain ⟨y, hy, hynotNull, hof⟩ := exists_item_of_kindOf hkind
    rw [← hof]
    exact h.agree.items v hv _ h.mem x hx y hy hnotNull hynotNull
  | _ => simp [Field.isArrayValue] at hshape

theorem kindOf_eq_of_item (h : SettledOn key vs w) (hshape : Field.isArrayValue w)
    (hkind : kindOf w ≠ .unknown) (hv : v ∈ vs) {x : Json} (hx : x ∈ v.items)
    (hnotNull : ¬x.isNull) : kindOf v = kindOf w := by
  cases v with
  | arr items =>
    cases hfind : items.find? (!·.isNull) with
    | none =>
      have hnull := List.find?_eq_none.1 hfind x hx
      exact absurd (by simpa using hnull) hnotNull
    | some y =>
      have hy : ¬y.isNull := by simpa using List.find?_some hfind
      rw [← h.of_item hshape hkind hv (List.mem_of_find?_eq_some hfind) hy]
      simp [kindOf, Field.representative?, hfind]
  | _ => simp [Json.items] at hx

end SettledOn

theorem exists_settledOn {objects : List TypedObject} (hkeys : KeysNodup objects)
    (hagree : NoConflicts objects) {type : String} {f : Field}
    (hf : f ∈ (definitionOf objects type).fields) :
    ∃ key w, f = Field.ofSample key w ∧ SettledOn key (valuesAt objects type key) w := by
  obtain ⟨key, w, hw, hshown, hsettled⟩ := exists_of_mem_definitionOf hkeys hf
  obtain ⟨o, ho, rfl, hmember⟩ := mem_valuesAt.1 hw
  exact ⟨key, w, hshown, hagree o ho (key, w) hmember, hw, hsettled⟩

theorem exists_not_isNull_of_lacks {objects : List TypedObject} (hreadable : Readable objects)
    {o : TypedObject} (ho : o ∈ objects) {key : String} {w : Json}
    (hw : w ∈ valuesAt objects o.type key) (hlacks : key ∉ o.members.map (·.1)) :
    ∃ v ∈ valuesAt objects o.type key, ¬v.isNull := by
  by_contra hnone
  obtain ⟨o', ho', hsame, hmember⟩ := mem_valuesAt.1 hw
  apply hlacks
  apply hreadable.present o' ho' (key, w) hmember _ o ho hsame.symm
  intro v hv
  by_contra hnotNull
  exact hnone ⟨v, hsame ▸ hv, hnotNull⟩

end Schema
end FixtureLab

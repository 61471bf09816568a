import FixtureLab.Proofs.Schema.Agreement
import FixtureLab.Proofs.Schema.Sampling

/-!
This module contains where the leaves and the faults of a sample are: the trails of steps that lead
to them, their depth-first order and the paths that spell them. The walk finds them in this order,
and under these paths.
-/

namespace FixtureLab
namespace Schema

inductive Step where
  | member (i : Nat) (key : String)
  | item (i : Nat)
deriving DecidableEq, Repr

namespace Step

def index : Step → Nat
  | .member i _ => i
  | .item i => i

def extend (path : String) : Step → String
  | .member _ key => if path = "" then key else path ++ "." ++ key
  | .item i => path ++ "[" ++ toString i ++ "]"

end Step

abbrev Trail := List Step

namespace Trail

def pathFrom (path : String) (trail : Trail) : String := trail.foldl Step.extend path

theorem pathFrom_cons (path : String) (s : Step) (trail : Trail) :
    pathFrom path (s :: trail) = pathFrom (s.extend path) trail := rfl

def path (trail : Trail) : String := trail.pathFrom ""

def Before (a b : Trail) : Prop := a.map Step.index < b.map Step.index

theorem Before.asymm {a b : Trail} (h : Before a b) : ¬Before b a := List.lt_asymm h

theorem before_cons_iff {s t : Step} {a b : Trail} :
    Before (s :: a) (t :: b) ↔ s.index < t.index ∨ s.index = t.index ∧ Before a b := by
  simp [Before, List.cons_lt_cons_iff]

end Trail

def holdsObjects : Json → Bool
  | .obj _ => true
  | .arr items => startsWithObject items
  | _ => false

inductive Walked : List (String × Json) → Trail → List (String × Json) → Prop where
  | root (members : List (String × Json)) : Walked members [] members
  | field {members inner last : List (String × Json)} {i : Nat} {key : String} {trail : Trail}
    (hfield : members[i]? = some (key, .obj inner)) (h : Walked inner trail last) :
    Walked members (.member i key :: trail) last
  | element {members inner last : List (String × Json)} {items : List Json} {i j : Nat}
    {key : String} {trail : Trail} (hfield : members[i]? = some (key, .arr items))
    (hstart : startsWithObject items) (hitem : items[j]? = some (.obj inner))
    (h : Walked inner trail last) : Walked members (.member i key :: .item j :: trail) last

inductive Spot where
  | leaf (v : Json)
  | fault

inductive Ends : Json → Trail → Spot → Prop where
  | leaf {v : Json} (h : ¬holdsObjects v) : Ends v [] (.leaf v)
  | fault {items : List Json} {j : Nat} {v : Json} (hstart : startsWithObject items)
    (hitem : items[j]? = some v) (hobj : ∀ members, v ≠ .obj members) (hnull : ¬v.isNull) :
    Ends (.arr items) [.item j] .fault

def SpotAt (members : List (String × Json)) (trail : Trail) (spot : Spot) : Prop :=
  ∃ outer last i key v rest,
    Walked members outer last ∧ last[i]? = some (key, v) ∧ Ends v rest spot
      ∧ trail = outer ++ .member i key :: rest

mutual

def spotsInMembers (i : Nat) : List (String × Json) → List (Trail × Spot)
  | [] => []
  | (key, v) :: rest =>
    (spotsInValue v).map (fun (trail, spot) => (.member i key :: trail, spot)) ++
      spotsInMembers (i + 1) rest

def spotsInValue : Json → List (Trail × Spot)
  | .obj members => spotsInMembers 0 members
  | .arr items =>
    if startsWithObject items then spotsInItems 0 items else [([], .leaf (.arr items))]
  | v => [([], .leaf v)]

def spotsInItems (j : Nat) : List Json → List (Trail × Spot)
  | [] => []
  | v :: rest =>
    (spotsInItem v).map (fun (trail, spot) => (.item j :: trail, spot)) ++ spotsInItems (j + 1) rest

def spotsInItem : Json → List (Trail × Spot)
  | .obj members => spotsInMembers 0 members
  | .null => []
  | _ => [([], .fault)]

end

section Membership

variable {members : List (String × Json)} {trail : Trail} {spot : Spot}

theorem spotAt_iff :
    SpotAt members trail spot
      ↔
    ∃ i key v rest, members[i]? = some (key, v) ∧ trail = .member i key :: rest
      ∧ (Ends v rest spot
        ∨ (∃ inner, v = .obj inner ∧ SpotAt inner rest spot)
        ∨ ∃ items j inner below, v = .arr items ∧ startsWithObject items
          ∧ items[j]? = some (.obj inner) ∧ rest = .item j :: below ∧ SpotAt inner below spot) := by
  constructor
  . rintro ⟨outer, last, i, key, v, rest, hwalked, hfield, hends, rfl⟩
    cases hwalked with
    | root => exact ⟨i, key, v, rest, hfield, rfl, .inl hends⟩
    | field hinner h =>
      exact ⟨_, _, _, _, hinner, rfl, .inr (.inl ⟨_, rfl, _, _, _, _, _, _, h, hfield, hends, rfl⟩)⟩
    | element hinner hstart hitem h =>
      exact ⟨_, _, _, _, hinner, rfl,
        .inr (.inr ⟨_, _, _, _, rfl, hstart, hitem, rfl, _, _, _, _, _, _, h, hfield, hends, rfl⟩)⟩
  . rintro ⟨i, key, v, rest, hfield, rfl, hends | ⟨inner, rfl, h⟩ |
      ⟨items, j, inner, below, rfl, hstart, hitem, rfl, h⟩⟩
    . exact ⟨[], members, i, key, v, rest, .root members, hfield, hends, rfl⟩
    . obtain ⟨outer, last, i', key', v', rest', hwalked, hfield', hends, rfl⟩ := h
      exact ⟨_, last, i', key', v', rest', .field hfield hwalked, hfield', hends, rfl⟩
    . obtain ⟨outer, last, i', key', v', rest', hwalked, hfield', hends, rfl⟩ := h
      exact ⟨_, last, i', key', v', rest', .element hfield hstart hitem hwalked, hfield', hends,
        rfl⟩

theorem mem_spotsInMembers_iff (i : Nat) :
    (trail, spot) ∈ spotsInMembers i members
      ↔
    ∃ k key v rest, members[k]? = some (key, v) ∧ trail = .member (i + k) key :: rest
      ∧ (rest, spot) ∈ spotsInValue v := by
  induction members generalizing i with
  | nil => simp [spotsInMembers]
  | cons m members ih =>
    simp only [spotsInMembers, List.mem_append, List.mem_map, Prod.mk.injEq, Prod.exists, ih]
    constructor
    . rintro (⟨rest, _, hmem, rfl, rfl⟩ | ⟨k, key, v, rest, hget, rfl, hmem⟩)
      . exact ⟨0, m.1, m.2, rest, rfl, rfl, hmem⟩
      . exact ⟨k + 1, key, v, rest, hget, by rw [Nat.add_right_comm, Nat.add_assoc], hmem⟩
    . rintro ⟨k, key, v, rest, hget, rfl, hmem⟩
      cases k with
      | zero =>
        cases hget
        exact .inl ⟨rest, spot, hmem, rfl, rfl⟩
      | succ k =>
        exact .inr ⟨k, key, v, rest, hget, by rw [Nat.add_right_comm, Nat.add_assoc], hmem⟩

theorem mem_spotsInItems_iff {items : List Json} (j : Nat) :
    (trail, spot) ∈ spotsInItems j items
      ↔
    ∃ k v rest, items[k]? = some v ∧ trail = .item (j + k) :: rest
      ∧ (rest, spot) ∈ spotsInItem v := by
  induction items generalizing j with
  | nil => simp [spotsInItems]
  | cons v items ih =>
    simp only [spotsInItems, List.mem_append, List.mem_map, Prod.mk.injEq, Prod.exists, ih]
    constructor
    . rintro (⟨rest, _, hmem, rfl, rfl⟩ | ⟨k, w, rest, hget, rfl, hmem⟩)
      . exact ⟨0, v, rest, rfl, rfl, hmem⟩
      . exact ⟨k + 1, w, rest, hget, by rw [Nat.add_right_comm, Nat.add_assoc], hmem⟩
    . rintro ⟨k, w, rest, hget, rfl, hmem⟩
      cases k with
      | zero =>
        cases hget
        exact .inl ⟨rest, spot, hmem, rfl, rfl⟩
      | succ k =>
        exact .inr ⟨k, w, rest, hget, by rw [Nat.add_right_comm, Nat.add_assoc], hmem⟩

theorem mem_spotsInItem_iff {v : Json} :
    (trail, spot) ∈ spotsInItem v
      ↔
    (∃ inner, v = .obj inner ∧ (trail, spot) ∈ spotsInMembers 0 inner)
      ∨ (∀ members, v ≠ .obj members) ∧ ¬v.isNull ∧ trail = [] ∧ spot = .fault := by
  cases v <;> simp [spotsInItem, Json.isNull]

theorem spotsInValue_of_leaf {v : Json} (h : ¬holdsObjects v) :
    spotsInValue v = [([], .leaf v)] := by
  cases v <;> simp_all [spotsInValue, holdsObjects]

theorem ends_iff_of_leaf {v : Json} (h : ¬holdsObjects v) :
    Ends v trail spot ↔ trail = [] ∧ spot = .leaf v := by
  constructor
  . rintro (_ | ⟨hstart, -, -, -⟩)
    . exact ⟨rfl, rfl⟩
    . exact absurd hstart h
  . rintro ⟨rfl, rfl⟩
    exact .leaf h

theorem ends_arr_iff {items : List Json} (hstart : startsWithObject items) :
    Ends (.arr items) trail spot
      ↔
    ∃ j v, items[j]? = some v ∧ (∀ members, v ≠ .obj members) ∧ ¬v.isNull ∧ trail = [.item j]
      ∧ spot = .fault := by
  constructor
  . rintro (⟨hleaf⟩ | ⟨-, hitem, hobj, hnull⟩)
    . exact absurd hstart hleaf
    . exact ⟨_, _, hitem, hobj, hnull, rfl, rfl⟩
  . rintro ⟨j, v, hitem, hobj, hnull, rfl, rfl⟩
    exact .fault hstart hitem hobj hnull

theorem mem_spotsInValue_iff {v : Json} :
    (trail, spot) ∈ spotsInValue v
      ↔
    Ends v trail spot
      ∨ (∃ inner, v = .obj inner ∧ (trail, spot) ∈ spotsInMembers 0 inner)
      ∨ ∃ items j inner below, v = .arr items ∧ startsWithObject items
        ∧ items[j]? = some (.obj inner) ∧ trail = .item j :: below
        ∧ (below, spot) ∈ spotsInMembers 0 inner := by
  by_cases hleaf : holdsObjects v
  . cases v with
    | obj inner =>
      have hnot : ¬Ends (.obj inner) trail spot := by
        rintro ⟨h⟩
        exact h rfl
      simp [spotsInValue, hnot]
    | arr items =>
      have hstart : startsWithObject items := hleaf
      simp only [spotsInValue, if_pos hstart, mem_spotsInItems_iff, mem_spotsInItem_iff,
        ends_arr_iff hstart, Nat.zero_add]
      constructor
      . rintro ⟨j, v, below, hitem, rfl, ⟨inner, rfl, hmem⟩ | ⟨hobj, hnull, rfl, rfl⟩⟩
        . exact .inr (.inr ⟨items, j, inner, below, rfl, hstart, hitem, rfl, hmem⟩)
        . exact .inl ⟨j, v, hitem, hobj, hnull, rfl, rfl⟩
      . rintro (⟨j, v, hitem, hobj, hnull, rfl, rfl⟩ | ⟨_, ⟨⟩, _⟩ |
          ⟨_, j, inner, below, ⟨⟩, -, hitem, rfl, hmem⟩)
        . exact ⟨j, v, [], hitem, rfl, .inr ⟨hobj, hnull, rfl, rfl⟩⟩
        . exact ⟨j, .obj inner, below, hitem, rfl, .inl ⟨inner, rfl, hmem⟩⟩
    | _ => simp [holdsObjects] at hleaf
  . have hobj : ∀ inner, v ≠ .obj inner := by
      rintro inner rfl
      exact hleaf rfl
    have harr : ∀ items, v = .arr items → ¬startsWithObject items := by
      rintro items rfl
      exact hleaf
    rw [spotsInValue_of_leaf hleaf, ends_iff_of_leaf hleaf, List.mem_singleton, Prod.mk.injEq]
    constructor
    . exact .inl
    . rintro (h | ⟨inner, hv, -⟩ | ⟨items, _, _, _, hv, hstart, -⟩)
      . exact h
      . exact absurd hv (hobj inner)
      . exact absurd hstart (harr items hv)

theorem mem_spotsInMembers_zero_iff :
    (trail, spot) ∈ spotsInMembers 0 members ↔ SpotAt members trail spot := by
  induction hlength : trail.length using Nat.strongRecOn generalizing members trail with
  | ind length ih =>
    subst hlength
    have hbelow : ∀ (below : Trail) (inner : List (String × Json)), below.length < trail.length →
        ((below, spot) ∈ spotsInMembers 0 inner ↔ SpotAt inner below spot) :=
      fun below inner hlt => ih below.length hlt rfl
    rw [spotAt_iff, mem_spotsInMembers_iff]
    simp only [Nat.zero_add, mem_spotsInValue_iff]
    constructor
    . rintro ⟨i, key, v, rest, hfield, rfl, hends | ⟨inner, rfl, h⟩ |
        ⟨items, j, inner, below, rfl, hstart, hitem, rfl, h⟩⟩
      . exact ⟨i, key, v, rest, hfield, rfl, .inl hends⟩
      . exact ⟨i, key, _, rest, hfield, rfl, .inr (.inl ⟨inner, rfl, (hbelow _ _ (by simp)).1 h⟩)⟩
      . have h := (hbelow below inner (by simp +arith)).1 h
        exact ⟨i, key, _, _, hfield, rfl,
          .inr (.inr ⟨items, j, inner, below, rfl, hstart, hitem, rfl, h⟩)⟩
    . rintro ⟨i, key, v, rest, hfield, rfl, hends | ⟨inner, rfl, h⟩ |
        ⟨items, j, inner, below, rfl, hstart, hitem, rfl, h⟩⟩
      . exact ⟨i, key, v, rest, hfield, rfl, .inl hends⟩
      . exact ⟨i, key, _, rest, hfield, rfl, .inr (.inl ⟨inner, rfl, (hbelow _ _ (by simp)).2 h⟩)⟩
      . have h := (hbelow below inner (by simp +arith)).2 h
        exact ⟨i, key, _, _, hfield, rfl,
          .inr (.inr ⟨items, j, inner, below, rfl, hstart, hitem, rfl, h⟩)⟩

end Membership

section Order

theorem pairwise_map_cons {s : Step} {spots : List (Trail × Spot)}
    (h : spots.Pairwise fun a b => Trail.Before a.1 b.1) :
    (spots.map fun (trail, spot) => (s :: trail, spot)).Pairwise
      fun a b => Trail.Before a.1 b.1 := by
  rw [List.pairwise_map]
  exact h.imp fun hab => Trail.before_cons_iff.2 (.inr ⟨rfl, hab⟩)

mutual

theorem pairwise_spotsInMembers (i : Nat) (members : List (String × Json)) :
    (spotsInMembers i members).Pairwise fun a b => Trail.Before a.1 b.1 := by
  match members with
  | [] => exact List.Pairwise.nil
  | (key, v) :: rest =>
    rw [spotsInMembers, List.pairwise_append]
    refine ⟨pairwise_map_cons (pairwise_spotsInValue v), pairwise_spotsInMembers (i + 1) rest, ?_⟩
    rintro _ ha ⟨_, spot⟩ hb
    obtain ⟨a, -, rfl⟩ := List.mem_map.1 ha
    obtain ⟨k, key', _, below, -, rfl, -⟩ := (mem_spotsInMembers_iff (i + 1)).1 hb
    apply Trail.before_cons_iff.2
    left
    simp only [Step.index]
    omega

theorem pairwise_spotsInValue (v : Json) :
    (spotsInValue v).Pairwise fun a b => Trail.Before a.1 b.1 := by
  match v with
  | .obj members => exact pairwise_spotsInMembers 0 members
  | .arr items =>
    rw [spotsInValue]
    split
    . exact pairwise_spotsInItems 0 items
    . exact List.pairwise_singleton _ _
  | .null => exact List.pairwise_singleton _ _
  | .bool _ => exact List.pairwise_singleton _ _
  | .int _ => exact List.pairwise_singleton _ _
  | .float _ => exact List.pairwise_singleton _ _
  | .str _ => exact List.pairwise_singleton _ _

theorem pairwise_spotsInItems (j : Nat) (items : List Json) :
    (spotsInItems j items).Pairwise fun a b => Trail.Before a.1 b.1 := by
  match items with
  | [] => exact List.Pairwise.nil
  | v :: rest =>
    rw [spotsInItems, List.pairwise_append]
    refine ⟨pairwise_map_cons (pairwise_spotsInItem v), pairwise_spotsInItems (j + 1) rest, ?_⟩
    rintro _ ha ⟨_, spot⟩ hb
    obtain ⟨a, -, rfl⟩ := List.mem_map.1 ha
    obtain ⟨k, _, below, -, rfl, -⟩ := (mem_spotsInItems_iff (j + 1)).1 hb
    apply Trail.before_cons_iff.2
    left
    simp only [Step.index]
    omega

theorem pairwise_spotsInItem (v : Json) :
    (spotsInItem v).Pairwise fun a b => Trail.Before a.1 b.1 := by
  match v with
  | .obj members => exact pairwise_spotsInMembers 0 members
  | .null => exact List.Pairwise.nil
  | .arr _ => exact List.pairwise_singleton _ _
  | .bool _ => exact List.pairwise_singleton _ _
  | .int _ => exact List.pairwise_singleton _ _
  | .float _ => exact List.pairwise_singleton _ _
  | .str _ => exact List.pairwise_singleton _ _

end

end Order

def Finding.spot? : Finding → Option (String × Option String)
  | .leaf place f => some (place, some f.typeName)
  | .complete _ => none
  | .fault place => some (place, none)

def Spot.typeName? : Spot → Option String
  | .leaf v => some (kindOf v).name
  | .fault => none

def spelled (path : String) (spots : List (Trail × Spot)) : List (String × Option String) :=
  spots.map fun (trail, spot) => (trail.pathFrom path, spot.typeName?)

theorem spelled_map_cons (path : String) (s : Step) (spots : List (Trail × Spot)) :
    spelled path (spots.map fun (trail, spot) => (s :: trail, spot))
      =
    spelled (s.extend path) spots := by
  rw [spelled, List.map_map]
  rfl

theorem Field.typeName_of_objectName {f : Field} (h : f.objectName = none) :
    f.typeName = f.kind.name := by
  unfold typeName
  rw [h]
  cases f.kind <;> rfl

mutual

theorem spots_findInMembers (type path : String) (fields : List Field) (i : Nat)
    (members : List (String × Json)) :
    (findInMembers type path fields members).filterMap Finding.spot?
      =
    spelled path (spotsInMembers i members) := by
  match members with
  | [] => rfl
  | (key, v) :: rest =>
    have hplace : memberPath path key = (Step.member i key).extend path := by
      simp [memberPath, Step.extend]
    simp only [findInMembers, spotsInMembers, List.filterMap_append]
    rw [spots_findInValue _ key v, spots_findInMembers type path _ (i + 1) rest, hplace,
      ← spelled_map_cons]
    simp [spelled]

theorem spots_findInValue (place key : String) (v : Json) :
    (findInValue place (Field.ofSample key v) v).filterMap Finding.spot?
      =
    spelled place (spotsInValue v) := by
  match v with
  | .obj members =>
    simp only [findInValue, spotsInValue, objectName_ofSample_obj]
    exact spots_findInMembers _ place [] 0 members
  | .arr items =>
    simp only [findInValue, spotsInValue, objectName_ofSample_arr]
    by_cases hstart : startsWithObject items
    . simp only [hstart, if_true]
      exact spots_findInItems _ place 0 items
    . have htype := Field.typeName_of_objectName (f := .ofSample key (.arr items))
        (by rw [objectName_ofSample_arr, if_neg hstart])
      rw [if_neg hstart, if_neg hstart, List.filterMap_cons_some (by rfl), htype]
      rfl
  | .null => rfl
  | .bool _ => rfl
  | .int _ => rfl
  | .float _ => rfl
  | .str _ => rfl

theorem spots_findInItems (type path : String) (i : Nat) (items : List Json) :
    (findInItems type path i items).filterMap Finding.spot?
      =
    spelled path (spotsInItems i items) := by
  match items with
  | [] => rfl
  | .obj members :: rest =>
    have hplace : itemPath path i = (Step.item i).extend path := rfl
    simp only [findInItems, spotsInItems, spotsInItem, List.filterMap_append]
    rw [spots_findInMembers _ _ _ 0 members, spots_findInItems type path (i + 1) rest, hplace,
      ← spelled_map_cons]
    simp [spelled]
  | .null :: rest => exact spots_findInItems type path (i + 1) rest
  | .bool _ :: rest =>
    exact congrArg ((itemPath path i, none) :: ·) (spots_findInItems type path (i + 1) rest)
  | .int _ :: rest =>
    exact congrArg ((itemPath path i, none) :: ·) (spots_findInItems type path (i + 1) rest)
  | .float _ :: rest =>
    exact congrArg ((itemPath path i, none) :: ·) (spots_findInItems type path (i + 1) rest)
  | .str _ :: rest =>
    exact congrArg ((itemPath path i, none) :: ·) (spots_findInItems type path (i + 1) rest)
  | .arr _ :: rest =>
    exact congrArg ((itemPath path i, none) :: ·) (spots_findInItems type path (i + 1) rest)

end

end Schema
end FixtureLab

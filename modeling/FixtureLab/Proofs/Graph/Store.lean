import FixtureLab.Graph.Store
import FixtureLab.Proofs.Table

/-!
This module contains what a store holds after several records were stored one after the other, and
the graph of uses between the stored records.
-/

namespace FixtureLab
namespace Graph
namespace Store

def Uses (s : Store) (id target : String) : Prop :=
  ∃ r, s.find? id = some r ∧ target ∈ r.targets

def Closed (s : Store) : Prop := ∀ id target, s.Uses id target → (s.find? target).isSome

def Keyed (s : Store) : Prop := ∀ entry ∈ s.table, entry.2.id = entry.1

@[simp]
theorem insertAll_nil (s : Store) : s.insertAll [] = s := rfl

@[simp]
theorem insertAll_append (s : Store) (rs rs' : List Record) :
    s.insertAll (rs ++ rs') = (s.insertAll rs).insertAll rs' := by
  unfold insertAll
  rw [List.foldl_append]

theorem find?_insertAll (s : Store) (rs : List Record) (id : String) :
    (s.insertAll rs).find? id = ((rs.filter (·.id = id)).getLast?).or (s.find? id) := by
  induction rs generalizing s with
  | nil => simp
  | cons r rs ih =>
    have hcons : s.insertAll (r :: rs) = (s.insert r).insertAll rs := rfl
    rw [hcons, ih, find?_insert, List.filter_cons]
    by_cases h : r.id = id
    . simp only [h, decide_true, if_true, List.getLast?_cons]
      cases (rs.filter (·.id = id)).getLast? <;> simp
    . simp [h]

theorem find?_insertAll_eq_some {s : Store} {rs : List Record} {id : String} {r : Record}
    (h : (s.insertAll rs).find? id = some r) : (r ∈ rs ∧ r.id = id) ∨ s.find? id = some r := by
  rw [find?_insertAll, Option.or_eq_some_iff] at h
  rcases h with h | ⟨_, h⟩
  . have hmem := List.mem_filter.1 (List.mem_of_getLast? h)
    exact Or.inl (by simpa using hmem)
  . exact Or.inr h

theorem isSome_find?_insertAll {s : Store} {rs : List Record} {id : String} :
    ((s.insertAll rs).find? id).isSome ↔ id ∈ rs.map (·.id) ∨ (s.find? id).isSome := by
  rw [find?_insertAll, Option.isSome_or, Bool.or_eq_true, List.getLast?_isSome]
  simp

theorem sorted_insertAll {s : Store} (h : Table.Sorted s.table) (rs : List Record) :
    Table.Sorted (s.insertAll rs).table := by
  induction rs generalizing s with
  | nil => exact h
  | cons r rs ih => exact ih (s := s.insert r) (Table.sorted_insert h r.id r)

theorem insertAll_eq_self {s : Store} (h : Table.Sorted s.table) {rs : List Record}
    (hrs : ∀ r ∈ rs, s.find? r.id = some r) : s.insertAll rs = s := by
  induction rs with
  | nil => rfl
  | cons r rs ih =>
    have hself : s.insert r = s :=
      congrArg Store.mk (Table.insert_eq_self h (hrs r List.mem_cons_self))
    have hcons : s.insertAll (r :: rs) = (s.insert r).insertAll rs := rfl
    rw [hcons, hself]
    exact ih fun r' hr' => hrs r' (List.mem_cons_of_mem r hr')

theorem insertAll_comm {s : Store} (h : Table.Sorted s.table) {rs rs' : List Record}
    (hagree : ∀ r ∈ rs, ∀ r' ∈ rs', r.id = r'.id → r = r') :
    (s.insertAll rs).insertAll rs' = (s.insertAll rs').insertAll rs := by
  apply congrArg Store.mk
  apply Table.eq_of_find?_eq
  . exact sorted_insertAll (sorted_insertAll h rs) rs'
  . exact sorted_insertAll (sorted_insertAll h rs') rs
  intro id
  change ((s.insertAll rs).insertAll rs').find? id = ((s.insertAll rs').insertAll rs).find? id
  simp only [find?_insertAll]
  cases hlast : (rs.filter (·.id = id)).getLast? with
  | none => simp
  | some r =>
    cases hlast' : (rs'.filter (·.id = id)).getLast? with
    | none => simp
    | some r' =>
      have hr := List.mem_filter.1 (List.mem_of_getLast? hlast)
      have hr' := List.mem_filter.1 (List.mem_of_getLast? hlast')
      simp only [decide_eq_true_eq] at hr hr'
      have heq : r = r' := hagree r hr.1 r' hr'.1 (hr.2.trans hr'.2.symm)
      simp [heq]

theorem Keyed.insertAll {s : Store} (h : s.Keyed) (rs : List Record) : (s.insertAll rs).Keyed := by
  induction rs generalizing s with
  | nil => exact h
  | cons r rs ih =>
    apply ih (s := s.insert r)
    intro entry hentry
    rcases Table.mem_insert hentry with rfl | hentry
    . rfl
    . exact h entry hentry

theorem Keyed.id_eq {s : Store} (h : s.Keyed) {id : String} {r : Record}
    (hr : s.find? id = some r) : r.id = id :=
  h (id, r) (Table.mem_of_find?_eq_some hr)

theorem Keyed.ids_eq {s : Store} (h : s.Keyed) : s.ids = s.table.keys := by
  unfold ids toList Table.values Table.keys
  rw [List.map_map]
  exact List.map_congr_left h

theorem isSome_find?_iff {s : Store} {id : String} : (s.find? id).isSome ↔ id ∈ s.table.keys :=
  Table.find?_isSome_iff

theorem Closed.insertAll {s : Store} (h : s.Closed) {rs : List Record}
    (hrs : ∀ r ∈ rs, ∀ id ∈ r.targets, id ∈ rs.map (·.id)) : (s.insertAll rs).Closed := by
  intro id target hused
  obtain ⟨r, hr, htarget⟩ := hused
  rw [isSome_find?_insertAll]
  rcases find?_insertAll_eq_some hr with ⟨hr, _⟩ | hr
  . exact Or.inl (hrs r hr target htarget)
  . exact Or.inr (h id target ⟨r, hr, htarget⟩)

end Store
end Graph
end FixtureLab

import FixtureLab.Schema.Infer
import Mathlib.Data.List.Basic

/-!
This module contains that a type table's index finds the place of each type, so that putting a type
into the table merges it into the type with its name, or appends it.
-/

namespace FixtureLab
namespace Schema

def putType (types : List RecordType) (type : RecordType) : List RecordType :=
  if type.name ∈ types.map (·.name) then
    types.map fun t => if t.name = type.name then t.merge type else t
  else types ++ [type]

@[simp]
theorem RecordType.merge_name (t other : RecordType) : (t.merge other).name = t.name := rfl

namespace TypeTable

def Indexed (t : TypeTable) : Prop :=
  ∀ name i, Table.find? name t.index = some i ↔ (t.types[i]?).map (·.name) = some name

theorem indexed_empty : Indexed {} := by
  intro name i
  simp

theorem Indexed.find?_eq_none_iff {t : TypeTable} (h : t.Indexed) (name : String) :
    Table.find? name t.index = none ↔ name ∉ t.types.map (·.name) := by
  rw [Option.eq_none_iff_forall_ne_some, List.mem_iff_getElem?]
  simp only [List.getElem?_map, ← h name, not_exists, ne_eq]

theorem Indexed.put {t : TypeTable} (h : t.Indexed) (type : RecordType) :
    (t.put type).Indexed := by
  intro name i
  unfold TypeTable.put
  split
  . next j hj =>
    rw [h name i, List.getElem?_modify]
    by_cases hij : j = i
    . simp [hij, Option.map_map, Function.comp_def]
    . simp [hij]
  . next hnone =>
    have hnew : type.name ∉ t.types.map (·.name) := (h.find?_eq_none_iff type.name).1 hnone
    have hget : ((t.types ++ [type])[i]?).map (·.name)
        = if i = t.types.length then some type.name else (t.types[i]?).map (·.name) := by grind
    rw [hget]
    by_cases hname : type.name = name
    . subst hname
      have hold : (t.types[i]?).map (·.name) ≠ some type.name := by
        rw [← List.getElem?_map]
        exact fun hi => hnew (List.mem_of_getElem? hi)
      rw [Table.find?_insert_self, Option.some.injEq, eq_comm]
      by_cases hi : i = t.types.length <;> simp [hi, hold]
    . rw [Table.find?_insert_of_ne hname, h name i]
      by_cases hi : i = t.types.length <;> simp [hi, hname]

theorem Indexed.types_put {t : TypeTable} (h : t.Indexed) (type : RecordType) :
    (t.put type).types = putType t.types type := by
  unfold TypeTable.put
  split
  . next i hi =>
    have hmem : type.name ∈ t.types.map (·.name) := by
      by_contra hnot
      simp [(h.find?_eq_none_iff type.name).2 hnot] at hi
    rw [putType, if_pos hmem]
    apply List.ext_getElem?
    intro j
    rw [List.getElem?_modify, List.getElem?_map]
    apply Option.map_congr
    intro t' ht'
    have hj : t'.name = type.name ↔ i = j := by
      have hiff := h type.name j
      rw [hi, Option.mem_def.1 ht'] at hiff
      simpa [eq_comm] using hiff.symm
    simp only [hj]
  . next hnone => rw [putType, if_neg ((h.find?_eq_none_iff type.name).1 hnone)]

theorem Indexed.types_foldl_put {t : TypeTable} (h : t.Indexed) (types : List RecordType) :
    (types.foldl .put t).types = types.foldl putType t.types := by
  induction types generalizing t with
  | nil => rfl
  | cons type types ih =>
    rw [List.foldl_cons, List.foldl_cons, ih (h.put type), h.types_put]

end TypeTable
end Schema
end FixtureLab

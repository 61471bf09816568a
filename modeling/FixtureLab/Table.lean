/-!
This module contains finite maps from strings. A map is an association list in ascending key order,
so that listing its entries needs no sorting and two maps with the same entries are equal.
-/

namespace FixtureLab

/-- A finite map from strings, kept as an association list in ascending key order. -/
abbrev Table (α : Type) := List (String × α)

namespace Table

variable {α : Type}

def Sorted (t : Table α) : Prop := t.Pairwise (·.1 < ·.1)

def keys (t : Table α) : List String := t.map (·.1)

def values (t : Table α) : List α := t.map (·.2)

def find? (key : String) : Table α → Option α
  | [] => none
  | (k, v) :: rest => if k = key then some v else find? key rest

def contains (key : String) (t : Table α) : Bool := (find? key t).isSome

def insert (key : String) (value : α) : Table α → Table α
  | [] => [(key, value)]
  | (k, v) :: rest =>
    if key < k then (key, value) :: (k, v) :: rest
    else if key = k then (key, value) :: rest
    else (k, v) :: insert key value rest

def erase (key : String) (t : Table α) : Table α := t.filter (·.1 ≠ key)

def ofList (entries : List (String × α)) : Table α :=
  entries.foldl (fun t entry => insert entry.1 entry.2 t) []

@[simp]
theorem find?_nil (key : String) : find? key ([] : Table α) = none := rfl

@[simp]
theorem find?_insert_self (key : String) (value : α) (t : Table α) :
    find? key (insert key value t) = some value := by
  induction t with
  | nil => simp [insert, find?]
  | cons entry rest ih =>
    simp only [insert]
    split
    . simp [find?]
    . split
      . simp [find?]
      . next h =>
        simp [find?, Ne.symm h, ih]

theorem find?_insert_of_ne {key other : String} (h : key ≠ other) (value : α) (t : Table α) :
    find? other (insert key value t) = find? other t := by
  induction t with
  | nil => simp [insert, find?, h]
  | cons entry rest ih =>
    simp only [insert]
    split
    . simp [find?, h]
    . split
      . next hk =>
        simp [find?, ← hk, h]
      . simp [find?, ih]

theorem mem_keys_insert {key other : String} {value : α} {t : Table α} :
    other ∈ keys (insert key value t) ↔ other = key ∨ other ∈ keys t := by
  induction t with
  | nil => simp [insert, keys]
  | cons entry rest ih =>
    simp only [insert]
    unfold keys at ih ⊢
    split
    . simp
    . split
      . next hk =>
        simp [hk]
      . simp only [List.map_cons, List.mem_cons, ih]
        grind

theorem find?_isSome_iff {key : String} {t : Table α} : (find? key t).isSome ↔ key ∈ keys t := by
  induction t with
  | nil => simp [find?, keys]
  | cons entry rest ih =>
    unfold keys at ih ⊢
    simp only [find?]
    split
    . next h =>
      simp [h]
    . next h =>
      simp [ih, Ne.symm h]

theorem sorted_nil : Sorted ([] : Table α) := List.Pairwise.nil

theorem sorted_insert {t : Table α} (h : Sorted t) (key : String) (value : α) :
    Sorted (insert key value t) := by
  unfold Sorted at h ⊢
  induction t with
  | nil => simp [insert]
  | cons entry rest ih =>
    obtain ⟨hhead, hrest⟩ := List.pairwise_cons.1 h
    simp only [insert]
    split
    . next hlt =>
      refine List.pairwise_cons.2 ⟨?_, h⟩
      intro e he
      rcases List.mem_cons.1 he with rfl | he
      . exact hlt
      . exact String.lt_trans hlt (hhead e he)
    . split
      . next heq =>
        exact List.pairwise_cons.2 ⟨fun e he => heq ▸ hhead e he, hrest⟩
      . next hlt hne =>
        refine List.pairwise_cons.2 ⟨fun e he => ?_, ih hrest⟩
        have hmem : e.1 ∈ keys (insert key value rest) := List.mem_map_of_mem he
        rcases mem_keys_insert.1 hmem with hk | hk
        . rw [hk]
          exact Decidable.byContradiction fun hn =>
            hne (String.le_antisymm (String.not_lt.1 hn) (String.not_lt.1 hlt))
        . obtain ⟨e', he', hek⟩ := List.mem_map.1 hk
          rw [← hek]
          exact hhead e' he'

theorem sorted_ofList (entries : List (String × α)) : Sorted (ofList entries) := by
  unfold ofList
  suffices ∀ t : Table α, Sorted t →
      Sorted (entries.foldl (fun t entry => insert entry.1 entry.2 t) t) from this [] sorted_nil
  induction entries with
  | nil => exact fun t h => h
  | cons entry rest ih => exact fun t h => ih _ (sorted_insert h _ _)

end Table

end FixtureLab

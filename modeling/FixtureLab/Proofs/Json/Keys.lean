import FixtureLab.Json.Raw
import FixtureLab.Proofs.Table

/-!
This module contains JSON values in which no object has a key twice. All values that are read from a
text are such values.
-/

namespace FixtureLab
namespace Json

mutual

def keysDistinct : Json → Bool
  | .arr items => keysDistinctItems items
  | .obj members => (members.map (·.1)).Nodup && keysDistinctMembers members
  | _ => true

def keysDistinctItems : List Json → Bool
  | [] => true
  | v :: rest => keysDistinct v && keysDistinctItems rest

def keysDistinctMembers : List (String × Json) → Bool
  | [] => true
  | (_, v) :: rest => keysDistinct v && keysDistinctMembers rest

end

theorem keysDistinctItems_iff {items : List Json} :
    keysDistinctItems items ↔ ∀ v ∈ items, v.keysDistinct := by
  induction items with
  | nil => simp [keysDistinctItems]
  | cons v rest ih => simp [keysDistinctItems, ih]

theorem keysDistinctMembers_iff {members : List (String × Json)} :
    keysDistinctMembers members ↔ ∀ m ∈ members, m.2.keysDistinct := by
  induction members with
  | nil => simp [keysDistinctMembers]
  | cons m rest ih => simp [keysDistinctMembers, ih]

theorem keysDistinct_obj {members : List (String × Json)} :
    (obj members).keysDistinct
      ↔
    (members.map (·.1)).Nodup ∧ ∀ m ∈ members, m.2.keysDistinct := by
  simp [keysDistinct, keysDistinctMembers_iff]

theorem keysDistinct_ofList {entries : List (String × Json)}
    (h : ∀ m ∈ entries, m.2.keysDistinct) : (obj (Table.ofList entries)).keysDistinct :=
  keysDistinct_obj.2
    ⟨Table.nodup_keys (Table.sorted_ofList entries), fun m hm => h m (Table.mem_ofList hm)⟩

namespace Raw

mutual

theorem keysDistinct_of_value? {room : Nat} {raw : Raw} {v : Json}
    (h : value? room raw = some v) : v.keysDistinct := by
  match raw with
  | .null =>
    cases h
    rfl
  | .bool b =>
    cases h
    rfl
  | .number l =>
    simp only [value?] at h
    split at h <;> cases h <;> rfl
  | .str s =>
    obtain ⟨text, -, rfl⟩ := Option.map_eq_some_iff.1 h
    rfl
  | .arr items =>
    cases room with
    | zero => cases h
    | succ room =>
      obtain ⟨vs, hvs, rfl⟩ := Option.map_eq_some_iff.1 h
      exact keysDistinctItems_iff.2 (keysDistinct_of_values? hvs)
  | .obj members =>
    cases room with
    | zero => cases h
    | succ room =>
      obtain ⟨entries, hentries, rfl⟩ := Option.map_eq_some_iff.1 h
      exact keysDistinct_ofList (keysDistinct_of_table? hentries)

theorem keysDistinct_of_values? {room : Nat} {items : List Raw} {vs : List Json}
    (h : values? room items = some vs) : ∀ v ∈ vs, v.keysDistinct := by
  match items with
  | [] =>
    cases h
    simp
  | item :: rest =>
    simp only [values?] at h
    split at h
    . next v rest' hv hrest =>
      cases h
      exact List.forall_mem_cons.2 ⟨keysDistinct_of_value? hv, keysDistinct_of_values? hrest⟩
    . cases h

theorem keysDistinct_of_table? {room : Nat} {members : List (List Piece × Raw)}
    {entries : List (String × Json)} (h : table? room members = some entries) :
    ∀ m ∈ entries, m.2.keysDistinct := by
  match members with
  | [] =>
    cases h
    simp
  | (key, item) :: rest =>
    simp only [table?] at h
    split at h
    . next k v rest' _ hv hrest =>
      cases h
      exact List.forall_mem_cons.2 ⟨keysDistinct_of_value? hv, keysDistinct_of_table? hrest⟩
    . cases h

end

end Raw

theorem keysDistinct_of_ofString? {s : String} {v : Json} (h : ofString? s = some v) :
    v.keysDistinct := by
  obtain ⟨raw, -, hv⟩ := Option.bind_eq_some_iff.1 h
  exact Raw.keysDistinct_of_value? hv

end Json
end FixtureLab

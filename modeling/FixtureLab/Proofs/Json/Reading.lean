import FixtureLab.Proofs.Json.Scanning
import FixtureLab.Proofs.Table

/-!
This module contains that values without doubles are read from their text as they were, and which
values are read from texts.
-/

namespace FixtureLab

instance (n : Int) : Decidable (Literal.FitsWord n) := inferInstanceAs (Decidable (_ ∧ _))

instance {α : Type} (t : Table α) : Decidable (Table.Sorted t) :=
  inferInstanceAs (Decidable (List.Pairwise _ _))

namespace Json

theorem depthItems_le_iff {items : List Json} {n : Nat} :
    depthItems items ≤ n ↔ ∀ v ∈ items, v.depth ≤ n := by
  induction items with
  | nil => simp [depthItems]
  | cons v rest ih => rw [depthItems, Nat.max_le, ih, List.forall_mem_cons]

theorem depthMembers_le_iff {members : List (String × Json)} {n : Nat} :
    depthMembers members ≤ n ↔ ∀ m ∈ members, m.2.depth ≤ n := by
  induction members with
  | nil => simp [depthMembers]
  | cons m rest ih => rw [depthMembers, Nat.max_le, ih, List.forall_mem_cons]

mutual

def wellFormed : Json → Bool
  | .int n => decide (Literal.FitsWord n)
  | .arr items => wellFormedItems items
  | .obj members => decide (Table.Sorted members) && wellFormedMembers members
  | _ => true

def wellFormedItems : List Json → Bool
  | [] => true
  | v :: rest => wellFormed v && wellFormedItems rest

def wellFormedMembers : List (String × Json) → Bool
  | [] => true
  | (_, v) :: rest => wellFormed v && wellFormedMembers rest

end

theorem wellFormedItems_iff {items : List Json} :
    wellFormedItems items ↔ ∀ v ∈ items, v.wellFormed := by
  induction items with
  | nil => simp [wellFormedItems]
  | cons v rest ih => simp [wellFormedItems, ih]

theorem wellFormedMembers_iff {members : List (String × Json)} :
    wellFormedMembers members ↔ ∀ m ∈ members, m.2.wellFormed := by
  induction members with
  | nil => simp [wellFormedMembers]
  | cons m rest ih => simp [wellFormedMembers, ih]

namespace Raw

mutual

def floatFree : Raw → Bool
  | .number l =>
    match l.number? with
    | some (.float _) => false
    | _ => true
  | .arr items => floatFreeItems items
  | .obj members => floatFreeMembers members
  | _ => true

def floatFreeItems : List Raw → Bool
  | [] => true
  | v :: rest => floatFree v && floatFreeItems rest

def floatFreeMembers : List (List Piece × Raw) → Bool
  | [] => true
  | (_, v) :: rest => floatFree v && floatFreeMembers rest

end

theorem floatFreeItems_iff {items : List Raw} :
    floatFreeItems items ↔ ∀ v ∈ items, v.floatFree := by
  induction items with
  | nil => simp [floatFreeItems]
  | cons v rest ih => simp [floatFreeItems, ih]

theorem floatFreeMembers_iff {members : List (List Piece × Raw)} :
    floatFreeMembers members ↔ ∀ m ∈ members, m.2.floatFree := by
  induction members with
  | nil => simp [floatFreeMembers]
  | cons m rest ih => simp [floatFreeMembers, ih]

structure Known (room : Nat) (free : Bool) (v : Json) : Prop where
  wellFormed : v.wellFormed
  depth_le : v.depth ≤ room
  floatFree : free → v.floatFree

theorem Known.mono {room : Nat} {free free' : Bool} {v : Json} (h : Known room free v)
    (hfree : free' → free) : Known room free' v :=
  ⟨h.wellFormed, h.depth_le, fun hf => h.floatFree (hfree hf)⟩

theorem known_arr {room : Nat} {free : Bool} {vs : List Json} (h : ∀ v ∈ vs, Known room free v) :
    Known (room + 1) free (.arr vs) where
  wellFormed := wellFormedItems_iff.2 fun v hv => (h v hv).wellFormed
  depth_le := Nat.succ_le_succ (depthItems_le_iff.2 fun v hv => (h v hv).depth_le)
  floatFree := fun hfree => Json.floatFreeItems_iff.2 fun v hv => (h v hv).floatFree hfree

theorem known_obj {room : Nat} {free : Bool} {entries : List (String × Json)}
    (h : ∀ m ∈ entries, Known room free m.2) :
    Known (room + 1) free (.obj (Table.ofList entries)) := by
  have hmem := fun m (hm : m ∈ Table.ofList entries) => h m (Table.mem_ofList hm)
  refine ⟨?_, ?_, fun hfree => ?_⟩
  . simp only [wellFormed, Bool.and_eq_true, decide_eq_true_eq]
    exact ⟨Table.sorted_ofList entries, wellFormedMembers_iff.2 fun m hm => (hmem m hm).wellFormed⟩
  . exact Nat.succ_le_succ (depthMembers_le_iff.2 fun m hm => (hmem m hm).depth_le)
  . exact Json.floatFreeMembers_iff.2 fun m hm => (hmem m hm).floatFree hfree

mutual

theorem known_of_value? {room : Nat} {raw : Raw} {v : Json} (h : value? room raw = some v) :
    Known room raw.floatFree v := by
  match raw with
  | .null | .bool _ =>
    cases h
    exact ⟨rfl, Nat.zero_le _, fun _ => rfl⟩
  | .number l =>
    simp only [value?] at h
    split at h
    . next n hn =>
      cases h
      exact ⟨decide_eq_true (Literal.fitsWord_of_number? hn), Nat.zero_le _, fun _ => rfl⟩
    . next x hx =>
      cases h
      exact ⟨rfl, Nat.zero_le _, by simp [floatFree, hx]⟩
    . cases h
  | .str s =>
    obtain ⟨text, -, rfl⟩ := Option.map_eq_some_iff.1 h
    exact ⟨rfl, Nat.zero_le _, fun _ => rfl⟩
  | .arr items =>
    cases room with
    | zero => cases h
    | succ room =>
      obtain ⟨vs, hvs, rfl⟩ := Option.map_eq_some_iff.1 h
      exact known_arr (known_of_values? hvs)
  | .obj members =>
    cases room with
    | zero => cases h
    | succ room =>
      obtain ⟨entries, hentries, rfl⟩ := Option.map_eq_some_iff.1 h
      exact known_obj (known_of_table? hentries)

theorem known_of_values? {room : Nat} {items : List Raw} {vs : List Json}
    (h : values? room items = some vs) : ∀ v ∈ vs, Known room (floatFreeItems items) v := by
  match items with
  | [] =>
    cases h
    simp
  | item :: rest =>
    simp only [values?] at h
    split at h
    . next v rest' hv hrest =>
      cases h
      refine List.forall_mem_cons.2 ⟨(known_of_value? hv).mono ?_, fun w hw =>
        (known_of_values? hrest w hw).mono ?_⟩
      . exact fun h => (Bool.and_eq_true _ _ ▸ h).1
      . exact fun h => (Bool.and_eq_true _ _ ▸ h).2
    . cases h

theorem known_of_table? {room : Nat} {members : List (List Piece × Raw)}
    {entries : List (String × Json)} (h : table? room members = some entries) :
    ∀ m ∈ entries, Known room (floatFreeMembers members) m.2 := by
  match members with
  | [] =>
    cases h
    simp
  | (key, item) :: rest =>
    simp only [table?] at h
    split at h
    . next k v rest' _ hv hrest =>
      cases h
      refine List.forall_mem_cons.2 ⟨(known_of_value? hv).mono ?_, fun w hw =>
        (known_of_table? hrest w hw).mono ?_⟩
      . exact fun h => (Bool.and_eq_true _ _ ▸ h).1
      . exact fun h => (Bool.and_eq_true _ _ ▸ h).2
    . cases h

end

mutual

theorem value?_toRaw {room : Nat} (v : Json) (hfree : v.floatFree) (hformed : v.wellFormed)
    (hdepth : v.depth ≤ room) : value? room v.toRaw = some v := by
  match v with
  | .null | .bool _ => rfl
  | .float _ => cases hfree
  | .int n =>
    have hn : Literal.FitsWord n := of_decide_eq_true hformed
    simp [toRaw, value?, Literal.number?_ofInt hn]
  | .str s => simp [toRaw, value?]
  | .arr items =>
    cases room with
    | zero => cases hdepth
    | succ room =>
      simp [toRaw, value?, values?_rawItems items hfree hformed (Nat.le_of_succ_le_succ hdepth)]
  | .obj members =>
    cases room with
    | zero => cases hdepth
    | succ room =>
      obtain ⟨hsorted, hmembers⟩ := (Bool.and_eq_true _ _).mp hformed
      have htable := table?_rawMembers members hfree hmembers (Nat.le_of_succ_le_succ hdepth)
      simp [toRaw, value?, htable, Table.ofList_eq_self (of_decide_eq_true hsorted)]

theorem values?_rawItems {room : Nat} (items : List Json) (hfree : Json.floatFreeItems items)
    (hformed : wellFormedItems items) (hdepth : depthItems items ≤ room) :
    values? room (rawItems items) = some items := by
  match items with
  | [] => rfl
  | v :: rest =>
    simp only [Json.floatFreeItems, wellFormedItems, Bool.and_eq_true] at hfree hformed
    obtain ⟨hv, hrest⟩ := Nat.max_le.1 hdepth
    simp [rawItems, values?, value?_toRaw v hfree.1 hformed.1 hv,
      values?_rawItems rest hfree.2 hformed.2 hrest]

theorem table?_rawMembers {room : Nat} (members : List (String × Json))
    (hfree : Json.floatFreeMembers members) (hformed : wellFormedMembers members)
    (hdepth : depthMembers members ≤ room) : table? room (rawMembers members) = some members := by
  match members with
  | [] => rfl
  | (k, v) :: rest =>
    simp only [Json.floatFreeMembers, wellFormedMembers, Bool.and_eq_true] at hfree hformed
    obtain ⟨hv, hrest⟩ := Nat.max_le.1 hdepth
    simp [rawMembers, table?, value?_toRaw v hfree.1 hformed.1 hv,
      table?_rawMembers rest hfree.2 hformed.2 hrest]

end

end Raw
end Json
end FixtureLab

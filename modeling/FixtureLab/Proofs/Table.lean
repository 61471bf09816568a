import FixtureLab.Table
import Mathlib.Data.List.Induction
import Mathlib.Data.List.Nodup

/-!
This module contains how bindings of a table take the place of each other, that a sorted table is
determined by what it holds, and how keys are listed where they come first.
-/

namespace FixtureLab
namespace Table

variable {α β : Type}

theorem insert_insert (key : String) (v w : α) (t : Table α) :
    insert key v (insert key w t) = insert key v t := by
  have hirrefl : ¬ key < key := String.lt_irrefl key
  induction t with
  | nil => simp only [insert, hirrefl, if_false, if_true]
  | cons entry rest ih =>
    by_cases hlt : key < entry.1
    . simp only [insert, hlt, hirrefl, if_false, if_true]
    . by_cases heq : key = entry.1
      . subst heq
        simp only [insert, hirrefl, if_false, if_true]
      . simp [insert, hlt, heq, ih]

theorem insert_eq_self {key : String} {v : α} {t : Table α} (ht : Sorted t)
    (h : find? key t = some v) : insert key v t = t := by
  unfold Sorted at ht
  induction t with
  | nil => simp at h
  | cons entry rest ih =>
    obtain ⟨hhead, hrest⟩ := List.pairwise_cons.1 ht
    simp only [find?] at h
    split at h
    . next heq =>
      injection h with h
      subst heq h
      simp only [insert, String.lt_irrefl, if_false, if_true]
    . next hne =>
      have hmem : key ∈ keys rest := find?_isSome_iff.1 (by simp [h])
      obtain ⟨e, he, hkey⟩ := List.mem_map.1 hmem
      have hlt : entry.1 < key := hkey ▸ hhead e he
      simp [insert, String.lt_asymm hlt, Ne.symm hne, ih hrest h]

theorem erase_eq_self {key : String} {t : Table α} (h : find? key t = none) : erase key t = t := by
  unfold erase
  apply List.filter_eq_self.2
  intro e he
  have hmem : key ∉ keys t := by
    rw [← find?_isSome_iff, h]
    simp
  have hne : e.1 ≠ key := fun heq => hmem (List.mem_map.2 ⟨e, he, heq⟩)
  simp [hne]

theorem erase_insert {key : String} (v : α) {t : Table α} (h : find? key t = none) :
    erase key (insert key v t) = t := by
  induction t with
  | nil => simp [insert, erase]
  | cons entry rest ih =>
    have hrest : find? key rest = none := by
      simp only [find?] at h
      split at h
      . simp at h
      . exact h
    have hself : erase key (entry :: rest) = entry :: rest := erase_eq_self h
    have hne : ¬ key = entry.1 := by
      intro heq
      simp [find?, heq] at h
    simp only [insert, if_neg hne]
    split
    . unfold erase at hself ⊢
      rw [List.filter_cons_of_neg (by simp), hself]
    . unfold erase at ih ⊢
      rw [List.filter_cons_of_pos (by simp [Ne.symm hne]), ih hrest]

theorem mem_insert {key : String} {v : α} {t : Table α} {entry : String × α}
    (h : entry ∈ insert key v t) : entry = (key, v) ∨ entry ∈ t := by
  induction t with
  | nil =>
    simp only [insert, List.mem_singleton] at h
    exact Or.inl h
  | cons e rest ih =>
    simp only [insert] at h
    split at h
    . exact List.mem_cons.1 h
    . split at h
      . rcases List.mem_cons.1 h with h | h
        . exact Or.inl h
        . exact Or.inr (List.mem_cons_of_mem e h)
      . rcases List.mem_cons.1 h with h | h
        . exact Or.inr (h ▸ List.mem_cons_self)
        . exact (ih h).imp_right (List.mem_cons_of_mem e)

theorem mem_of_find?_eq_some {key : String} {v : α} {t : Table α} (h : find? key t = some v) :
    (key, v) ∈ t := by
  induction t with
  | nil => simp at h
  | cons entry rest ih =>
    simp only [find?] at h
    split at h
    . next heq =>
      injection h with h
      subst heq h
      exact List.mem_cons_self
    . exact List.mem_cons_of_mem entry (ih h)

theorem find?_eq_some_of_mem {t : Table α} (h : Sorted t) {entry : String × α}
    (hentry : entry ∈ t) :
    find? entry.1 t = some entry.2 := by
  induction t with
  | nil => cases hentry
  | cons e rest ih =>
    obtain ⟨hhead, hrest⟩ := List.pairwise_cons.1 h
    rcases List.mem_cons.1 hentry with rfl | hentry
    . simp [find?]
    . have hne : e.1 ≠ entry.1 := fun heq => String.lt_irrefl e.1 (heq ▸ hhead entry hentry)
      simp [find?, hne, ih hrest hentry]

theorem keys_eq_of_mem_iff {t : Table α} {u : Table β} (ht : Sorted t) (hu : Sorted u)
    (h : ∀ key, key ∈ keys t ↔ key ∈ keys u) : keys t = keys u := by
  have ht' : (keys t).Pairwise (· < ·) := List.pairwise_map.2 ht
  have hu' : (keys u).Pairwise (· < ·) := List.pairwise_map.2 hu
  have hnodup : ∀ {l : List String}, l.Pairwise (· < ·) → l.Nodup := by
    intro l hl
    apply hl.imp
    intro a b hlt heq
    exact String.lt_irrefl b (heq ▸ hlt)
  have hperm : (keys t).Perm (keys u) :=
    (List.perm_ext_iff_of_nodup (hnodup ht') (hnodup hu')).2 h
  apply hperm.eq_of_pairwise _ ht' hu'
  intro a b _ _ hab hba
  exact absurd hba (String.lt_asymm hab)

theorem insert_comm {key other : String} (h : key ≠ other) (v w : α) (t : Table α) :
    insert key v (insert other w t) = insert other w (insert key v t) := by
  have hasymm : ∀ {a b : String}, a < b → ¬b < a := String.lt_asymm
  have htrans : ∀ {a b c : String}, a < b → b < c → a < c := String.lt_trans
  have hantisymm : ∀ {a b : String}, ¬a < b → ¬b < a → a = b :=
    fun hab hba => String.le_antisymm (String.not_lt.1 hba) (String.not_lt.1 hab)
  induction t with
  | nil =>
    simp only [insert]
    grind
  | cons entry rest ih =>
    simp only [insert]
    grind [insert]

theorem find?_eq_none_of_sorted {entry : String × α} {rest : Table α}
    (h : Sorted (entry :: rest)) : find? entry.1 rest = none := by
  have hhead := (List.pairwise_cons.1 h).1
  rw [← Option.not_isSome_iff_eq_none, find?_isSome_iff]
  intro hmem
  obtain ⟨e, he, hkey⟩ := List.mem_map.1 hmem
  exact String.lt_irrefl e.1 (hkey ▸ hhead e he)

theorem eq_of_find?_eq {t u : Table α} (ht : Sorted t) (hu : Sorted u)
    (h : ∀ key, find? key t = find? key u) : t = u := by
  have hkeys : keys t = keys u := by
    apply keys_eq_of_mem_iff ht hu
    intro key
    rw [← find?_isSome_iff, ← find?_isSome_iff, h key]
  induction t generalizing u with
  | nil => exact (List.map_eq_nil_iff.1 hkeys.symm).symm
  | cons entry rest ih =>
    cases u with
    | nil => cases hkeys
    | cons entry' rest' =>
      obtain ⟨k, v⟩ := entry
      obtain ⟨k', v'⟩ := entry'
      obtain ⟨rfl, hkeys'⟩ := List.cons.inj hkeys
      have hvalue : v = v' := by simpa [find?] using h k
      have hrest : rest = rest' := by
        apply ih (List.pairwise_cons.1 ht).2 (List.pairwise_cons.1 hu).2 _ hkeys'
        intro key
        by_cases hkey : k = key
        . subst hkey
          rw [find?_eq_none_of_sorted ht, find?_eq_none_of_sorted hu]
        . simpa [find?, hkey] using h key
      rw [hvalue, hrest]

theorem nodup_keys {t : Table α} (h : Sorted t) : (t.map (·.1)).Nodup := by
  apply List.pairwise_map.2
  apply List.Pairwise.imp _ h
  intro e e' hlt heq
  exact String.lt_irrefl e'.1 (heq ▸ hlt)

theorem mem_ofList {entries : List (String × α)} {e : String × α} (h : e ∈ ofList entries) :
    e ∈ entries := by
  unfold ofList at h
  suffices ∀ t : Table α, e ∈ entries.foldl (fun t entry => insert entry.1 entry.2 t) t →
      e ∈ t ∨ e ∈ entries from (this [] h).resolve_left List.not_mem_nil
  clear h
  induction entries with
  | nil => exact fun t h => Or.inl h
  | cons entry rest ih =>
    intro t h
    rcases ih _ h with h | h
    . exact (mem_insert h).elim (fun h => Or.inr (h ▸ List.mem_cons_self)) Or.inl
    . exact Or.inr (List.mem_cons_of_mem entry h)

theorem insert_eq_append {key : String} {t : Table α} (h : ∀ e ∈ t, e.1 < key) (v : α) :
    insert key v t = t ++ [(key, v)] := by
  induction t with
  | nil => rfl
  | cons entry rest ih =>
    have hlt := h entry List.mem_cons_self
    have hne : key ≠ entry.1 := fun heq => String.lt_irrefl key (heq ▸ hlt)
    simp [insert, String.lt_asymm hlt, hne, ih fun e he => h e (List.mem_cons_of_mem entry he)]

theorem ofList_eq_self {t : Table α} (h : Sorted t) : ofList t = t := by
  suffices ∀ t u : Table α, Sorted (t ++ u) →
      u.foldl (fun t entry => insert entry.1 entry.2 t) t = t ++ u from this [] t h
  intro t u
  induction u generalizing t with
  | nil => exact fun _ => (List.append_nil t).symm
  | cons entry rest ih =>
    intro h
    have hlt : ∀ e ∈ t, e.1 < entry.1 := fun e he =>
      (List.pairwise_append.1 h).2.2 e he entry List.mem_cons_self
    rw [List.foldl_cons, insert_eq_append hlt, ih _ (by simpa using h), List.append_assoc]
    rfl

theorem eraseDups_concat (keys : List String) (key : String) :
    (keys ++ [key]).eraseDups = if key ∈ keys then keys.eraseDups else keys.eraseDups ++ [key] := by
  rw [List.eraseDups_append]
  by_cases h : key ∈ keys <;> simp [List.removeAll, List.eraseDups_cons, h]

theorem exists_eraseDups_split {before : List String} {key : String} (h : key ∉ before)
    (after : List String) :
    ∃ rest, (before ++ key :: after).eraseDups = before.eraseDups ++ key :: rest := by
  rw [List.eraseDups_append, List.removeAll, List.filter_cons_of_pos (by simpa using h),
    List.eraseDups_cons]
  exact ⟨_, rfl⟩

theorem nodup_eraseDups (keys : List String) : keys.eraseDups.Nodup := by
  induction keys using List.reverseRecOn with
  | nil => exact List.nodup_nil
  | append_singleton keys key ih =>
    rw [eraseDups_concat]
    split
    . exact ih
    . next h =>
      rw [← List.concat_eq_append]
      exact ih.concat (mt List.mem_eraseDups.1 h)

end Table
end FixtureLab

import FixtureLab.Text.Normalize

/-!
This module contains which texts are sure to be in Normalization Form C.
-/

namespace FixtureLab
namespace Text

theorem decompose_of_lt {n : Nat} (h : n < 0xC0) : decompose n = [n] := by
  have hall : ∀ n < 0xC0, decompose n = [n] := by decide +kernel
  exact hall n h

theorem combiningClass_of_lt {n : Nat} (h : n < 0xC0) : combiningClass n = 0 := by
  have hall : ∀ n < 0xC0, combiningClass n = 0 := by decide +kernel
  exact hall n h

theorem composite?_of_lt {b : Nat} (h : b < 0xC0) (a : Nat) : composite? a b = none := by
  rw [composite?, if_pos (by omega)]

theorem foldr_insertMark_of_lt {ns : List Nat} (h : ∀ n ∈ ns, n < 0xC0) :
    ns.foldr insertMark [] = ns := by
  induction ns with
  | nil => rfl
  | cons n rest ih =>
    obtain ⟨hn, hrest⟩ := List.forall_mem_cons.1 h
    rw [List.foldr_cons, ih hrest]
    cases rest with
    | nil => rfl
    | cons m rest => simp [insertMark, combiningClass_of_lt hn]

theorem composeFrom_of_lt {n : Nat} {rest : List Nat} (h : ∀ m ∈ rest, m < 0xC0) :
    composeFrom n [] rest = n :: rest := by
  induction rest generalizing n with
  | nil => rfl
  | cons m rest ih =>
    obtain ⟨hm, hrest⟩ := List.forall_mem_cons.1 h
    simp [composeFrom, composite?_of_lt hm, combiningClass_of_lt hm, ih hrest]

theorem nfc_eq_self {s : String} (h : ∀ c ∈ s.toList, c.toNat < 0xC0) : nfc s = s := by
  have hletters : s.toList.flatMap (fun c => decompose c.toNat) = s.toList.map Char.toNat := by
    have hsingle : s.toList.map (fun c => decompose c.toNat) = s.toList.map fun c => [c.toNat] :=
      List.map_congr_left fun c hc => decompose_of_lt (h c hc)
    rw [List.flatMap_def, hsingle, ← List.flatMap_def, ← List.map_eq_flatMap]
  have hlt : ∀ n ∈ s.toList.map Char.toNat, n < 0xC0 := List.forall_mem_map.2 h
  have hcompose : compose (s.toList.map Char.toNat) = s.toList.map Char.toNat := by
    cases hcs : s.toList.map Char.toNat with
    | nil => rfl
    | cons n rest =>
      rw [hcs] at hlt
      obtain ⟨hn, hrest⟩ := List.forall_mem_cons.1 hlt
      rw [compose, if_pos (combiningClass_of_lt hn), composeFrom_of_lt hrest]
  rw [nfc, hletters, foldr_insertMark_of_lt hlt, hcompose, List.map_map]
  simp [Function.comp_def]

-- A replaced ideograph, a letter that stays apart, Hangul letters, and marks out of order.
example :
    ["\uf900", "\u0958", "\u1112\u1161\u11ab", "a\u0301\u0323b"].map nfc
      = ["\u8c48", "\u0915\u093c", "\ud55c", "\u1ea1\u0301b"] := by
  decide +kernel

end Text
end FixtureLab

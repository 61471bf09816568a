import FixtureLab.Text.Words
import Mathlib.Data.List.Basic

/-!
This module contains which characters a converted name is made of. The words of a name hold all of
its alphanumeric characters. In the other case these become characters from the letters on.
-/

namespace FixtureLab
namespace Text

variable {c : Char} {cs : List Char}

theorem flatten_splitCase (mode : Mode) (seen cs : List Char) :
    (splitCase mode seen cs).flatten = seen.reverse ++ cs := by
  fun_induction splitCase mode seen cs <;> simp_all

theorem flatten_alphanumericRuns (seen cs : List Char) :
    (alphanumericRuns seen cs).flatten = seen.reverse ++ cs.filter isAlphanumeric := by
  fun_induction alphanumericRuns seen cs <;> simp_all

theorem flatten_words (cs : List Char) : (words cs).flatten = cs.filter isAlphanumeric := by
  have hsplit : ∀ runs : List (List Char),
      (runs.flatMap (splitCase .boundary [])).flatten = runs.flatten := by
    intro runs
    induction runs with
    | nil => rfl
    | cons run runs ih => simp [ih, flatten_splitCase]
  rw [words, hsplit, flatten_alphanumericRuns, List.reverse_nil, List.nil_append]

theorem mem_of_mem_words {w : List Char} (h : w ∈ words cs) (hc : c ∈ w) : c ∈ cs := by
  have hmem : c ∈ (words cs).flatten := List.mem_flatten.2 ⟨w, h, hc⟩
  rw [flatten_words] at hmem
  exact (List.mem_filter.1 hmem).1

theorem isAlphanumeric_of_mem_words {w : List Char} (h : w ∈ words cs) :
    ∀ c ∈ w, isAlphanumeric c := by
  intro c hc
  have hmem : c ∈ (words cs).flatten := List.mem_flatten.2 ⟨w, h, hc⟩
  rw [flatten_words] at hmem
  exact (List.mem_filter.1 hmem).2

theorem ne_nil_of_mem_splitCase {mode : Mode} {seen : List Char}
    (hmode : mode = .uppercase → seen ≠ []) {w : List Char} (h : w ∈ splitCase mode seen cs) :
    w ≠ [] := by
  fun_induction splitCase mode seen cs with
  | case1 => cases h
  | case2 mode seen hseen =>
    rw [List.mem_singleton.1 h]
    simpa using hseen
  | case3 => simp [List.mem_singleton.1 h]
  | case4 mode seen c next rest _ ih =>
    rcases List.mem_cons.1 h with rfl | h
    . simp
    . exact ih (by simp) h
  | case5 mode seen c next rest _ hsplit ih =>
    rcases List.mem_cons.1 h with rfl | h
    . simpa using hmode (by simp_all)
    . exact ih (by simp) h
  | case6 mode seen c next rest _ _ ih => exact ih (by simp) h

theorem ne_nil_of_mem_words {w : List Char} (h : w ∈ words cs) : w ≠ [] := by
  obtain ⟨run, -, hw⟩ := List.mem_flatMap.1 h
  exact ne_nil_of_mem_splitCase (by simp) hw

theorem exists_cons_of_mem_words {w : List Char} (h : w ∈ words cs) :
    ∃ d rest, w = d :: rest ∧ isAlphanumeric d := by
  obtain ⟨d, rest, rfl⟩ := List.exists_cons_of_ne_nil (ne_nil_of_mem_words h)
  exact ⟨d, rest, rfl, isAlphanumeric_of_mem_words h d List.mem_cons_self⟩

theorem mem_of_mem_lowercase (h : c ∈ lowercase cs) : c = 'ς' ∨ ∃ d ∈ cs, c ∈ toLower d := by
  fun_induction lowercase cs with
  | case1 => cases h
  | case2 => exact .inl (List.mem_singleton.1 h)
  | case3 d => exact .inr ⟨d, List.mem_cons_self, h⟩
  | case4 d rest _ ih =>
    rcases List.mem_append.1 h with h | h
    . exact .inr ⟨d, List.mem_cons_self, h⟩
    . exact (ih h).imp_right fun ⟨e, he, hc⟩ => ⟨e, List.mem_cons_of_mem d he, hc⟩

theorem mem_of_mem_intercalate {s : List Char} {ws : List (List Char)}
    (h : c ∈ s.intercalate ws) : c ∈ s ∨ c ∈ ws.flatten := by
  induction ws with
  | nil => cases h
  | cons w ws ih =>
    cases ws with
    | nil => exact .inr (by simpa using h)
    | cons w' ws =>
      rw [List.intercalate_cons_cons, List.append_assoc, List.mem_append, List.mem_append] at h
      rw [List.flatten_cons, List.mem_append]
      rcases h with h | h | h
      . exact .inr (.inl h)
      . exact .inl h
      . exact (ih h).imp_right .inr

theorem append_cons_inj {c : Char} {k l s t : List Char} (hs : c ∉ s) (ht : c ∉ t)
    (h : k ++ c :: s = l ++ c :: t) : k = l ∧ s = t := by
  rcases List.append_eq_append_iff.1 h with ⟨_ | ⟨x, m⟩, rfl, heq⟩ | ⟨_ | ⟨x, m⟩, rfl, heq⟩
  . simp_all
  . cases heq
    simp at hs
  . simp_all
  . cases heq
    simp at ht

theorem toNat_ofNat_of_valid {n : Nat} (h : n.isValidChar) : (Char.ofNat n).toNat = n := by
  rw [Char.ofNat, dif_pos h]
  rfl

def IdentChar (c : Char) : Prop := isAlphanumeric c ∨ 'A'.toNat ≤ c.toNat

instance (c : Char) : Decidable (IdentChar c) :=
  inferInstanceAs (Decidable (isAlphanumeric c ∨ 'A'.toNat ≤ c.toNat))

theorem IdentChar.of_isDigit (h : c.isDigit) : IdentChar c := by
  -- The digits are the first range of the table.
  have hfirst : ∀ n rest, 48 ≤ n → n ≤ 57 → inRanges n ((48, 57) :: rest) = true := by
    intro n rest hlow hhigh
    rw [inRanges, if_neg (Nat.not_lt.2 hlow), if_pos hhigh]
  obtain ⟨hlow, hhigh⟩ := Char.isDigit_iff_toNat.1 h
  exact .inl (hfirst _ _ hlow hhigh)

def ShiftsToLetters (shifts : List (Stride × Int)) : Prop :=
  ∀ e ∈ shifts, 'A'.toNat ≤ e.1.first + e.2
    ∧ (e.1.last + e.2 < 0xD800 ∨ 0xDFFF < e.1.first + e.2 ∧ e.1.last + e.2 < 0x110000)

instance (shifts : List (Stride × Int)) : Decidable (ShiftsToLetters shifts) :=
  inferInstanceAs (Decidable (∀ e ∈ shifts, _ ∧ _))

theorem shift_cases {shifts : List (Stride × Int)} (h : ShiftsToLetters shifts) (c : Char) :
    (∀ e ∈ shifts, e.1.contains c.toNat = false) ∧ shift shifts c = c
      ∨ ∃ e ∈ shifts, e.1.contains c.toNat ∧ ((shift shifts c).toNat : Int) = c.toNat + e.2 := by
  unfold Text.shift
  split
  . next e distance hfind =>
    have hcontains := List.find?_some hfind
    have hmem := List.mem_of_find?_eq_some hfind
    refine .inr ⟨_, hmem, hcontains, ?_⟩
    obtain ⟨hlow, hranges⟩ := h _ hmem
    simp only [Stride.contains, Bool.and_eq_true, decide_eq_true_eq] at hcontains hlow hranges
    have hvalid : (c.toNat + distance).toNat.isValidChar := by
      rcases hranges with h | h
      . exact .inl (by omega)
      . exact .inr (by omega)
    rw [toNat_ofNat_of_valid hvalid]
    omega
  . next hnone =>
    rw [List.find?_eq_none] at hnone
    exact .inl ⟨fun e he => by simpa using hnone e he, rfl⟩

theorem IdentChar.shift {shifts : List (Stride × Int)} (h : ShiftsToLetters shifts)
    (hc : isAlphanumeric c) : IdentChar (shift shifts c) := by
  rcases shift_cases h c with ⟨-, hstays⟩ | ⟨e, he, hcontains, hmoved⟩
  . rw [hstays]
    exact .inl hc
  . have hlow := (h e he).1
    simp only [Stride.contains, Bool.and_eq_true, decide_eq_true_eq] at hcontains
    right
    omega

theorem IdentChar.of_mem_toLower {d : Char} (hd : isAlphanumeric d) (h : c ∈ toLower d) :
    IdentChar c := by
  have hshifts : ShiftsToLetters lowerShifts := by decide +kernel
  unfold toLower at h
  split at h
  . simp only [List.mem_cons, List.not_mem_nil, or_false] at h
    rcases h with rfl | rfl <;> exact .inr (by decide)
  . rw [List.mem_singleton] at h
    exact h ▸ .shift hshifts hd

theorem toUpper_cases (d : Char) :
    (∃ ns, (d.toNat, ns) ∈ upperExpansions ∧ toUpper d = ns.map Char.ofNat)
      ∨ toUpper d = [shift upperShifts d] := by
  unfold toUpper
  split
  . next ns hns =>
    obtain ⟨before, after, heq, -⟩ := List.lookup_eq_some_iff.1 hns
    exact .inl ⟨ns, by simp [heq], rfl⟩
  . exact .inr rfl

theorem IdentChar.of_mem_toUpper {d : Char} (hd : isAlphanumeric d) (h : c ∈ toUpper d) :
    IdentChar c := by
  have hshifts : ShiftsToLetters upperShifts := by decide +kernel
  have hexpansions : ∀ e ∈ upperExpansions, ∀ n ∈ e.2, 'A'.toNat ≤ (Char.ofNat n).toNat := by
    decide +kernel
  rcases toUpper_cases d with ⟨ns, hns, heq⟩ | heq <;> rw [heq] at h
  . obtain ⟨n, hn, rfl⟩ := List.mem_map.1 h
    exact .inr (hexpansions _ hns n hn)
  . rw [List.mem_singleton] at h
    exact h ▸ .shift hshifts hd

theorem IdentChar.of_mem_lowercase (hcs : ∀ d ∈ cs, isAlphanumeric d) (h : c ∈ lowercase cs) :
    IdentChar c := by
  rcases mem_of_mem_lowercase h with rfl | ⟨d, hd, hc⟩
  . exact .inr (by decide)
  . exact .of_mem_toLower (hcs d hd) hc

theorem IdentChar.of_mem_snakeCase {name : String} (h : c ∈ (snakeCase name).toList) :
    IdentChar c := by
  rw [snakeCase, String.toList_ofList] at h
  rcases mem_of_mem_intercalate h with h | h
  . rw [List.mem_singleton.1 h]
    exact .inr (by decide)
  . obtain ⟨_, hword, hc⟩ := List.mem_flatten.1 h
    obtain ⟨w, hw, rfl⟩ := List.mem_map.1 hword
    exact .of_mem_lowercase (isAlphanumeric_of_mem_words hw) hc

theorem IdentChar.of_mem_upperCamelCase {name : String} (h : c ∈ (upperCamelCase name).toList) :
    IdentChar c := by
  rw [upperCamelCase, String.toList_ofList] at h
  obtain ⟨w, hw, hc⟩ := List.mem_flatMap.1 h
  have halnum := isAlphanumeric_of_mem_words hw
  cases w with
  | nil => cases hc
  | cons d rest =>
    obtain ⟨hd, hrest⟩ := List.forall_mem_cons.1 halnum
    rcases List.mem_append.1 hc with hc | hc
    . exact .of_mem_toUpper hd hc
    . exact .of_mem_lowercase hrest hc

end Text
end FixtureLab

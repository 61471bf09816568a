import FixtureLab.Proofs.Text.Words

/-!
This module contains what the conversion of names does to ASCII characters: the tables of Unicode
agree with what letters and digits are in ASCII, and with their forms in lower and upper case.
-/

namespace FixtureLab
namespace Text

def AsciiChar (c : Char) : Prop := c.toNat < 128

instance (c : Char) : Decidable (AsciiChar c) := inferInstanceAs (Decidable (c.toNat < 128))

def AsciiText (cs : List Char) : Prop := ∀ c ∈ cs, AsciiChar c

instance (cs : List Char) : Decidable (AsciiText cs) := List.decidableBAll AsciiChar cs

section Tables

variable {c : Char}

theorem forall_ascii {P : Char → Prop} (h : ∀ n < 128, P (Char.ofNat n)) :
    ∀ c, AsciiChar c → P c :=
  fun c hc => c.ofNat_toNat ▸ h c.toNat hc

theorem Stride.not_contains_of_ascii {s : Stride} (hs : 128 ≤ s.first) (hc : AsciiChar c) :
    s.contains c.toNat = false := by
  have hlt : ¬s.first ≤ c.toNat := Nat.not_le.2 (Nat.lt_of_lt_of_le hc hs)
  simp [Stride.contains, hlt]

theorem shift_eq {head : Stride} {distance : Int} {rest : List (Stride × Int)}
    (hrest : ∀ e ∈ rest, 128 ≤ e.1.first) (hc : AsciiChar c) :
    shift ((head, distance) :: rest) c
      =
    if head.contains c.toNat then Char.ofNat (c.toNat + distance).toNat else c := by
  have hnone : rest.find? (·.1.contains c.toNat) = none := by
    rw [List.find?_eq_none]
    intro e he
    simp [Stride.not_contains_of_ascii (hrest e he) hc]
  rw [shift, List.find?_cons]
  cases head.contains c.toNat <;> simp [hnone]

theorem isLower_iff_toNat : c.isLower ↔ 'a'.toNat ≤ c.toNat ∧ c.toNat ≤ 'z'.toNat :=
  Bool.and_eq_true_iff.trans (and_congr decide_eq_true_iff decide_eq_true_iff)

namespace AsciiChar

theorem of_isAlphanum (h : c.isAlphanum) : AsciiChar c := by
  rcases Bool.or_eq_true_iff.1 h with halpha | hdigit
  . rcases Bool.or_eq_true_iff.1 halpha with hupper | hlower
    . have hle : c.toNat ≤ 'Z'.toNat := (of_decide_eq_true hupper).2
      exact Nat.lt_of_le_of_lt hle (by decide)
    . exact Nat.lt_of_le_of_lt (isLower_iff_toNat.1 hlower).2 (by decide)
  . have hle : c.toNat ≤ '9'.toNat := of_decide_eq_true (Bool.and_eq_true_iff.1 hdigit).2
    exact Nat.lt_of_le_of_lt hle (by decide)

theorem isAlphanumeric_eq (hc : AsciiChar c) : isAlphanumeric c = c.isAlphanum := by
  have hchar : ∀ c, AsciiChar c → isAlphanumeric c = c.isAlphanum :=
    forall_ascii (by decide +kernel)
  exact hchar c hc

theorem toLower_eq (hc : AsciiChar c) : toLower c = [c.toLower] := by
  have hrest : ∀ e ∈ lowerShifts.tail, 128 ≤ e.1.first := by decide +kernel
  have hchar : ∀ c, AsciiChar c →
      (if Stride.contains ⟨65, 90, 1⟩ c.toNat then Char.ofNat (c.toNat + 32 : Int).toNat else c)
        = c.toLower :=
    forall_ascii (by decide +kernel)
  have hsingle : c.toNat ≠ 0x130 := Nat.ne_of_lt (Nat.lt_trans hc (by decide))
  rw [toLower, if_neg hsingle, ← hchar c hc]
  exact congrArg (fun c => [c]) (shift_eq hrest hc)

theorem toUpper_eq (hc : AsciiChar c) : toUpper c = [c.toUpper] := by
  have hrest : ∀ e ∈ upperShifts.tail, 128 ≤ e.1.first := by decide +kernel
  have hchar : ∀ c, AsciiChar c →
      (if Stride.contains ⟨97, 122, 1⟩ c.toNat then Char.ofNat (c.toNat + (-32) : Int).toNat else c)
        = c.toUpper :=
    forall_ascii (by decide +kernel)
  have hexpansions : ∀ e ∈ upperExpansions, 128 ≤ e.1 := by decide +kernel
  have hsingle : upperExpansions.lookup c.toNat = none := by
    rw [List.lookup_eq_none_iff]
    intro e he
    simpa using Nat.ne_of_lt (Nat.lt_of_lt_of_le hc (hexpansions e he))
  rw [toUpper, hsingle, ← hchar c hc]
  exact congrArg (fun c => [c]) (shift_eq hrest hc)

end AsciiChar

end Tables

section Conversion

variable {c : Char} {cs : List Char} {name : String}

theorem lowercase_eq (hcs : AsciiText cs) : lowercase cs = cs.map Char.toLower := by
  induction cs with
  | nil => rfl
  | cons c rest ih =>
    obtain ⟨hc, hrest⟩ := List.forall_mem_cons.1 hcs
    cases rest with
    | nil =>
      have hsigma : c ≠ 'Σ' := by
        rintro rfl
        exact absurd hc (by decide)
      rw [lowercase, if_neg hsigma, hc.toLower_eq, List.map_singleton]
    | cons d rest =>
      rw [lowercase, hc.toLower_eq, ih hrest]
      . rfl
      . simp

theorem capitalize_eq (hc : AsciiChar c) (hcs : AsciiText cs) :
    capitalize (c :: cs) = c.toUpper :: cs.map Char.toLower := by
  rw [capitalize, hc.toUpper_eq, lowercase_eq hcs, List.singleton_append]

theorem AsciiText.of_mem_words (h : AsciiText cs) {w : List Char} (hw : w ∈ words cs) :
    AsciiText w :=
  fun c hc => h c (mem_of_mem_words hw hc)

theorem AsciiText.isAlphanum_of_mem_words (h : AsciiText cs) {w : List Char}
    (hw : w ∈ words cs) : ∀ d ∈ w, d.isAlphanum :=
  fun d hd => (h.of_mem_words hw d hd).isAlphanumeric_eq ▸ isAlphanumeric_of_mem_words hw d hd

theorem isAlphanum_toLower : ∀ c, AsciiChar c → c.isAlphanum → c.toLower.isAlphanum :=
  forall_ascii (by decide +kernel)

theorem isAlphanum_of_mem_lowercase (h : AsciiText cs) {w : List Char} (hw : w ∈ words cs)
    (hc : c ∈ lowercase w) : c.isAlphanum := by
  have htext := h.of_mem_words hw
  rw [lowercase_eq htext] at hc
  obtain ⟨d, hd, rfl⟩ := List.mem_map.1 hc
  exact isAlphanum_toLower d (htext d hd) (h.isAlphanum_of_mem_words hw d hd)

theorem isAlphanum_of_mem_snakeCase (h : AsciiText name.toList)
    (hc : c ∈ (snakeCase name).toList) : c.isAlphanum ∨ c = '_' := by
  rw [snakeCase, String.toList_ofList] at hc
  rcases mem_of_mem_intercalate hc with hc | hc
  . exact .inr (List.mem_singleton.1 hc)
  . obtain ⟨_, hword, hc⟩ := List.mem_flatten.1 hc
    obtain ⟨w, hw, rfl⟩ := List.mem_map.1 hword
    exact .inl (isAlphanum_of_mem_lowercase h hw hc)

theorem isAlphanum_of_head?_snakeCase (h : AsciiText name.toList)
    (hc : (snakeCase name).toList.head? = some c) : c.isAlphanum := by
  rw [snakeCase, String.toList_ofList] at hc
  cases hwords : words name.toList with
  | nil => simp [hwords] at hc
  | cons w ws =>
    have hw : w ∈ words name.toList := hwords ▸ List.mem_cons_self
    apply isAlphanum_of_mem_lowercase h hw
    obtain ⟨d, rest, rfl⟩ := List.exists_cons_of_ne_nil (ne_nil_of_mem_words hw)
    have hlower := lowercase_eq (h.of_mem_words hw)
    have hhead : (lowercase (d :: rest)).head? = some c := by
      rw [hwords] at hc
      cases ws <;> simpa [hlower, List.intercalate_cons_cons] using hc
    exact List.mem_of_head? hhead

end Conversion

end Text
end FixtureLab

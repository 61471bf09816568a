import FixtureLab.Proofs.Text.Ascii

/-!
This module contains what names look like in camel case. They hold something alphanumeric if the
names before do, begin with no small letter, and keep letters and digits apart from their case.
-/

namespace FixtureLab
namespace Text

section Tables

variable {c d : Char}

def covers (first last : Nat) : List (Nat × Nat) → Bool
  | [] => false
  | (low, high) :: rest =>
    bif first.ble high then low.ble first && last.ble high else covers first last rest

theorem inRanges_of_covers {first last n : Nat} {ranges : List (Nat × Nat)}
    (hranges : ∀ r ∈ ranges, r.1 ≤ r.2) (h : covers first last ranges) (hfirst : first ≤ n)
    (hlast : n ≤ last) : inRanges n ranges := by
  induction ranges with
  | nil => cases h
  | cons range rest ih =>
    obtain ⟨low, high⟩ := range
    obtain ⟨hle, hrest⟩ := List.forall_mem_cons.1 hranges
    rw [covers] at h
    cases hhigh : first.ble high with
    | true =>
      rw [hhigh, cond_true, Bool.and_eq_true, Nat.ble_eq, Nat.ble_eq] at h
      rw [inRanges, if_neg (by omega), if_pos (by omega)]
    | false =>
      rw [hhigh, cond_false] at h
      rw [← Bool.not_eq_true, Nat.ble_eq] at hhigh
      rw [inRanges, if_neg (by omega), if_neg (by omega)]
      exact ih hrest h

def moved (distance : Int) (n : Nat) : Nat := (n + distance).toNat

def MovesInto (ranges : List (Nat × Nat)) (e : Stride × Int) : Prop :=
  covers (moved e.2 e.1.first) (moved e.2 e.1.last) ranges
    ∨ ∀ i ≤ (e.1.last - e.1.first) / e.1.step,
      let n := e.1.first + e.1.step * i
      covers (moved e.2 n) (moved e.2 n) ranges

instance (ranges : List (Nat × Nat)) (e : Stride × Int) : Decidable (MovesInto ranges e) :=
  inferInstanceAs (Decidable (_ ∨ _))

theorem isAlphanumeric_shift {shifts : List (Stride × Int)} (hletters : ShiftsToLetters shifts)
    (h : ∀ e ∈ shifts, MovesInto alphanumericRanges e) (hc : isAlphanumeric c) :
    isAlphanumeric (shift shifts c) := by
  have hranges : ∀ r ∈ alphanumericRanges, r.1 ≤ r.2 := by decide +kernel
  rcases shift_cases hletters c with ⟨-, hstays⟩ | ⟨e, he, hcontains, hshift⟩
  . rwa [hstays]
  . simp only [Stride.contains, Bool.and_eq_true, decide_eq_true_eq] at hcontains
    obtain ⟨⟨hfirst, hlast⟩, hstep⟩ := hcontains
    have hmoved : (shift shifts c).toNat = moved e.2 c.toNat := by
      unfold moved
      omega
    rw [isAlphanumeric, hmoved]
    rcases h e he with hall | heach
    . unfold moved at *
      exact inRanges_of_covers hranges hall (by omega) (by omega)
    . have hplace := heach ((c.toNat - e.1.first) / e.1.step) (Nat.div_le_div_right (by omega))
      rw [Nat.mul_div_cancel' (Nat.dvd_of_mod_eq_zero hstep), Nat.add_sub_cancel' hfirst] at hplace
      exact inRanges_of_covers hranges hplace (Nat.le_refl _) (Nat.le_refl _)

theorem exists_isAlphanumeric_toUpper (hd : isAlphanumeric d) :
    ∃ c ∈ toUpper d, isAlphanumeric c := by
  have hletters : ShiftsToLetters upperShifts := by decide +kernel
  have hshifts : ∀ e ∈ upperShifts, MovesInto alphanumericRanges e := by decide +kernel
  have hexpansions : ∀ e ∈ upperExpansions, ∃ n ∈ e.2, isAlphanumeric (Char.ofNat n) := by
    decide +kernel
  rcases toUpper_cases d with ⟨ns, hns, heq⟩ | heq <;> rw [heq]
  . obtain ⟨n, hn, halnum⟩ := hexpansions _ hns
    exact ⟨_, List.mem_map_of_mem hn, halnum⟩
  . exact ⟨_, List.mem_singleton_self _, isAlphanumeric_shift hletters hshifts hd⟩

theorem isLower_of_mem_toUpper (h : c ∈ toUpper d) : c.isLower = false := by
  have hletters : ShiftsToLetters upperShifts := by decide +kernel
  have hshifts : ∀ e ∈ upperShifts, e.1.last + e.2 < 'a'.toNat ∨ 'z'.toNat < e.1.first + e.2 := by
    decide +kernel
  have hexpansions : ∀ e ∈ upperExpansions, ∀ n ∈ e.2, (Char.ofNat n).isLower = false := by
    decide +kernel
  rcases toUpper_cases d with ⟨ns, hns, heq⟩ | heq <;> rw [heq] at h
  . obtain ⟨n, hn, rfl⟩ := List.mem_map.1 h
    exact hexpansions _ hns n hn
  . rw [List.mem_singleton] at h
    subst h
    rw [Bool.eq_false_iff, Ne, isLower_iff_toNat]
    rcases shift_cases hletters d with ⟨hnone, hstays⟩ | ⟨e, he, hcontains, hshift⟩
    . have hsmall : ¬(97 ≤ d.toNat ∧ d.toNat ≤ 122) := by
        simpa [Stride.contains, Nat.mod_one] using hnone (⟨97, 122, 1⟩, -32) List.mem_cons_self
      rw [hstays]
      exact hsmall
    . have hrange := hshifts e he
      simp only [Stride.contains, Bool.and_eq_true, decide_eq_true_eq] at hcontains
      omega

end Tables

section Conversion

variable {c : Char} {cs : List Char} {name : String}

theorem exists_isAlphanumeric_upperCamelCase (h : ∃ c ∈ name.toList, isAlphanumeric c) :
    ∃ c ∈ (upperCamelCase name).toList, isAlphanumeric c := by
  obtain ⟨c, hc, halnum⟩ := h
  have hmem : c ∈ (words name.toList).flatten := by
    rw [flatten_words]
    exact List.mem_filter.2 ⟨hc, halnum⟩
  obtain ⟨w, hw, -⟩ := List.mem_flatten.1 hmem
  obtain ⟨d, rest, rfl, hd⟩ := exists_cons_of_mem_words hw
  obtain ⟨c', hc', halnum'⟩ := exists_isAlphanumeric_toUpper hd
  rw [upperCamelCase, String.toList_ofList]
  exact ⟨c', List.mem_flatMap.2 ⟨_, hw, List.mem_append_left _ hc'⟩, halnum'⟩

theorem upperCamelCase_eq_empty_iff :
    upperCamelCase name = "" ↔ ∀ c ∈ name.toList, ¬isAlphanumeric c := by
  constructor
  . intro hempty c hc halnum
    obtain ⟨c', hc', -⟩ := exists_isAlphanumeric_upperCamelCase ⟨c, hc, halnum⟩
    simp [hempty] at hc'
  . intro hnone
    have hwords : words name.toList = [] := by
      rw [List.eq_nil_iff_forall_not_mem]
      intro w hw
      obtain ⟨d, rest, rfl, hd⟩ := exists_cons_of_mem_words hw
      exact hnone d (mem_of_mem_words hw List.mem_cons_self) hd
    simp [upperCamelCase, hwords]

theorem upperCamelCase_upperCamelCase_eq_empty_iff :
    upperCamelCase (upperCamelCase name) = "" ↔ upperCamelCase name = "" := by
  constructor
  . intro hempty
    rw [upperCamelCase_eq_empty_iff] at hempty ⊢
    intro c hc halnum
    obtain ⟨c', hc', halnum'⟩ := exists_isAlphanumeric_upperCamelCase ⟨c, hc, halnum⟩
    exact hempty c' hc' halnum'
  . intro hempty
    rw [hempty]
    rfl

theorem isLower_of_head?_upperCamelCase (hc : (upperCamelCase name).toList.head? = some c) :
    c.isLower = false := by
  rw [upperCamelCase, String.toList_ofList] at hc
  cases hwords : words name.toList with
  | nil => simp [hwords] at hc
  | cons w ws =>
    have hw : w ∈ words name.toList := hwords ▸ List.mem_cons_self
    obtain ⟨d, rest, rfl, hd⟩ := exists_cons_of_mem_words hw
    obtain ⟨c', hc', -⟩ := exists_isAlphanumeric_toUpper hd
    obtain ⟨first, more, hupper⟩ := List.exists_cons_of_ne_nil (List.ne_nil_of_mem hc')
    have hfirst : first = c := by simpa [hwords, capitalize, hupper] using hc
    apply isLower_of_mem_toUpper (d := d)
    simp [hupper, hfirst]

def letters (name : String) : List Char := (name.toList.filter Char.isAlphanum).map Char.toLower

theorem map_toLower_capitalize (h : AsciiText cs) :
    (capitalize cs).map Char.toLower = cs.map Char.toLower := by
  have hupper : ∀ c, AsciiChar c → c.toUpper.toLower = c.toLower := forall_ascii (by decide +kernel)
  have hlower : ∀ c, AsciiChar c → c.toLower.toLower = c.toLower := forall_ascii (by decide +kernel)
  cases cs with
  | nil => rfl
  | cons c rest =>
    obtain ⟨hc, hrest⟩ := List.forall_mem_cons.1 h
    rw [capitalize_eq hc hrest, List.map_cons, List.map_cons, hupper c hc, List.map_map]
    congr 1
    exact List.map_congr_left fun d hd => hlower d (hrest d hd)

theorem map_toLower_upperCamelCase (h : AsciiText name.toList) :
    (upperCamelCase name).toList.map Char.toLower = letters name := by
  have hfilter : name.toList.filter isAlphanumeric = name.toList.filter Char.isAlphanum :=
    List.filter_congr fun c hc => (h c hc).isAlphanumeric_eq
  have hwords : ∀ w ∈ words name.toList, (capitalize w).map Char.toLower = w.map Char.toLower :=
    fun w hw => map_toLower_capitalize (h.of_mem_words hw)
  rw [letters, ← hfilter, ← flatten_words, upperCamelCase, String.toList_ofList, List.map_flatMap,
    List.flatMap_congr hwords, List.map_flatten, List.flatMap_def]

theorem isAlphanum_of_mem_upperCamelCase (h : AsciiText name.toList)
    (hc : c ∈ (upperCamelCase name).toList) : c.isAlphanum := by
  have hupper : ∀ c, AsciiChar c → c.isAlphanum → c.toUpper.isAlphanum :=
    forall_ascii (by decide +kernel)
  rw [upperCamelCase, String.toList_ofList] at hc
  obtain ⟨w, hw, hc⟩ := List.mem_flatMap.1 hc
  have htext := h.of_mem_words hw
  have halnum := h.isAlphanum_of_mem_words hw
  cases w with
  | nil => cases hc
  | cons d rest =>
    obtain ⟨hd, hrest⟩ := List.forall_mem_cons.1 htext
    rw [capitalize_eq hd hrest] at hc
    rcases List.mem_cons.1 hc with rfl | hc
    . exact hupper d hd (halnum d List.mem_cons_self)
    . obtain ⟨e, he, rfl⟩ := List.mem_map.1 hc
      exact isAlphanum_toLower e (hrest e he) (halnum e (List.mem_cons_of_mem d he))

theorem asciiText_upperCamelCase (h : AsciiText name.toList) :
    AsciiText (upperCamelCase name).toList :=
  fun _ hc => .of_isAlphanum (isAlphanum_of_mem_upperCamelCase h hc)

theorem letters_upperCamelCase (h : AsciiText name.toList) :
    letters (upperCamelCase name) = letters name := by
  have hall : (upperCamelCase name).toList.filter Char.isAlphanum = (upperCamelCase name).toList :=
    List.filter_eq_self.2 fun _ => isAlphanum_of_mem_upperCamelCase h
  rw [← map_toLower_upperCamelCase h, letters, hall]

end Conversion

end Text
end FixtureLab

import FixtureLab.Decimal.Literal
import FixtureLab.Json.Printer
import Mathlib.Algebra.Group.Int.Defs
import Mathlib.Data.List.TakeWhile

/-!
This module contains that integers are read from their decimal text, and which integers a literal
can denote.
-/

namespace FixtureLab
namespace Literal

def ofInt (n : Int) : Literal where
  negative := n < 0
  whole := Nat.toDigits 10 n.natAbs
  fraction := none
  exponent := none

def FitsWord (n : Int) : Prop := -2 ^ 63 ≤ n ∧ n < 2 ^ 64

theorem head?_toDigits_ne_zero {n : Nat} (h : 0 < n) : (Nat.toDigits 10 n).head? ≠ some '0' := by
  induction n using Nat.strongRecOn with
  | ind n ih =>
    rw [Nat.toDigits_eq_if (by decide)]
    split
    . simp [Nat.digitChar_eq_zero]
      omega
    . have hhead := ih (n / 10) (by omega) (by omega)
      cases hdigits : Nat.toDigits 10 (n / 10) with
      | nil => exact absurd hdigits Nat.toDigits_ne_nil
      | cons c cs => simpa [hdigits] using hhead

theorem ofChars?_digits {digits : List Char} (hne : digits ≠ [])
    (hdigit : ∀ c ∈ digits, c.isDigit) (hzero : digits.head? = some '0' → digits.length = 1)
    (negative : Bool) :
    ofChars? ((if negative then ['-'] else []) ++ digits)
      = some { negative, whole := digits, fraction := none, exponent := none } := by
  have htake : digits.takeWhile Char.isDigit = digits := List.takeWhile_eq_self_iff.2 hdigit
  have hdrop : digits.dropWhile Char.isDigit = [] := List.dropWhile_eq_nil_iff.2 hdigit
  cases negative with
  | true =>
    simp [ofChars?, htake, hdrop, ofChars?.fractionPart, ofChars?.exponentPart]
    exact ⟨hne, hzero⟩
  | false =>
    cases digits with
    | nil => exact absurd rfl hne
    | cons c cs =>
      have hc : c ≠ '-' := by
        rintro rfl
        exact absurd (hdigit '-' List.mem_cons_self) (by decide)
      simp [ofChars?, hc, htake, hdrop, ofChars?.fractionPart, ofChars?.exponentPart]
      simpa using hzero

theorem intText_eq (n : Int) :
    Json.intText n = (if (ofInt n).negative then ['-'] else []) ++ (ofInt n).whole := by
  cases n with
  | ofNat n => simp [Json.intText, ofInt]
  | negSucc n => simp [Json.intText, ofInt, Int.negSucc_lt_zero]

theorem isDigit_of_mem_digits {n : Nat} {c : Char} (h : c ∈ Nat.toDigits 10 n) : c.isDigit :=
  Nat.isDigit_of_mem_toDigits (by decide) (by decide) h

theorem not_mem_digits (n : Nat) {c : Char} (hc : c.isDigit = false) : c ∉ Nat.toDigits 10 n := by
  intro h
  rw [isDigit_of_mem_digits h] at hc
  cases hc

theorem mem_intText {n : Int} {c : Char} (h : c ∈ Json.intText n) : c.isDigit ∨ c = '-' := by
  rw [intText_eq, List.mem_append] at h
  rcases h with h | h
  . split at h
    . exact .inr (List.mem_singleton.1 h)
    . cases h
  . exact .inl (isDigit_of_mem_digits h)

theorem ofChars?_intText (n : Int) : ofChars? (Json.intText n) = some (ofInt n) := by
  rw [intText_eq]
  apply ofChars?_digits
  . exact Nat.toDigits_ne_nil
  . exact fun c => isDigit_of_mem_digits
  . intro hhead
    have hzero : n.natAbs = 0 := by
      by_contra hpos
      exact head?_toDigits_ne_zero (Nat.pos_of_ne_zero hpos) hhead
    simp [ofInt, hzero, Nat.toDigits_zero]

theorem digitsValue_toDigits (n : Nat) : digitsValue 0 (Nat.toDigits 10 n) = n :=
  Nat.ofDigitChars_ten_toDigits

theorem number?_ofInt {n : Int} (h : FitsWord n) : (ofInt n).number? = some (.int n) := by
  obtain ⟨hlow, hhigh⟩ := h
  unfold number? ofInt
  simp only [digitsValue_toDigits, Option.isNone_none, Bool.true_and]
  by_cases hneg : n < 0
  . have hvalue : -(n.natAbs : Int) = n := by omega
    have hfits : (decide (0 < n.natAbs) && decide (n.natAbs ≤ 1 <<< 63)) = true := by
      rw [Bool.and_eq_true, decide_eq_true_eq, decide_eq_true_eq]
      omega
    simp only [hneg, decide_true, if_true, hfits, hvalue]
  . have hvalue : (n.natAbs : Int) = n := by omega
    have hfits : decide (n.natAbs < 1 <<< 64) = true := by
      rw [decide_eq_true_eq]
      omega
    simp only [hneg, decide_false, Bool.false_eq_true, if_false, hfits, if_true, hvalue]

theorem fitsWord_of_number? {l : Literal} {n : Int} (h : l.number? = some (.int n)) :
    FitsWord n := by
  have hfloat : l.magnitude?.map (fun rank => Number.float { negative := l.negative, rank })
      ≠ some (.int n) := by
    cases l.magnitude? <;> simp
  unfold number? at h
  unfold FitsWord
  cases hneg : l.negative
  all_goals
    simp only [hneg, if_true, if_false, Bool.false_eq_true] at h hfloat
    split at h
    . next hint =>
      cases h
      simp at hint
      omega
    . exact absurd h hfloat

end Literal
end FixtureLab

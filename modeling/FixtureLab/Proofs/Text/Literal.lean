import FixtureLab.Json.Token
import FixtureLab.Text.StringLiteral

/-!
This module contains that a string literal denotes the text that it was written for, by Rust's rules
for string literals, and that it is written on one line.
-/

namespace FixtureLab
namespace Text

open Json.Scan (hexValue?)

inductive LiteralState where
  | text
  | escape
  | ascii (high : Option Nat)
  | brace
  | code (digits value : Nat)
  | gap
deriving DecidableEq, Repr

namespace LiteralState

def plain (c : Char) : Option (LiteralState × List Char) :=
  if c = '\\' then some (.escape, [])
  else if c = '\r' then none
  else some (.text, [c])

def step : LiteralState → Char → Option (LiteralState × List Char)
  | .text, c => plain c
  | .escape, c =>
    match c with
    | '0' => some (.text, ['\x00'])
    | 't' => some (.text, ['\t'])
    | 'r' => some (.text, ['\r'])
    | 'n' => some (.text, ['\n'])
    | '\'' => some (.text, ['\''])
    | '"' => some (.text, ['"'])
    | '\\' => some (.text, ['\\'])
    | 'x' => some (.ascii none, [])
    | 'u' => some (.brace, [])
    | '\n' => some (.gap, [])
    | _ => none
  | .ascii none, c =>
    (hexValue? c).bind fun d => if d < 8 then some (.ascii (some d), []) else none
  | .ascii (some high), c => (hexValue? c).map fun d => (.text, [Char.ofNat (16 * high + d)])
  | .brace, c => if c = '\x7b' then some (.code 0 0, []) else none
  | .code digits value, c =>
    if c = '\x7d' then
      if 0 < digits ∧ value.isValidChar then some (.text, [Char.ofNat value]) else none
    else if c = '_' then if 0 < digits then some (.code digits value, []) else none
    else (hexValue? c).bind fun d =>
      if digits < 6 then some (.code (digits + 1) (16 * value + d), []) else none
  | .gap, c => if c ∈ [' ', '\t', '\n', '\r'] then some (.gap, []) else plain c

def canClose (s : LiteralState) : Bool := s = .text || s = .gap

end LiteralState

def readFrom (s : LiteralState) : List Char → Option (List Char × List Char)
  | [] => none
  | c :: rest =>
    if c = '"' && s.canClose then some ([], rest)
    else (s.step c).bind fun (s, done) =>
      (readFrom s rest).map fun (cs, rest) => (done ++ cs, rest)

def readLiteral? : List Char → Option (List Char × List Char)
  | '"' :: rest => readFrom .text rest
  | _ => none

theorem readFrom_plain {c : Char} (hquote : c ≠ '"') (hslash : c ≠ '\\') (hreturn : c ≠ '\r')
    (rest : List Char) :
    readFrom .text (c :: rest) = (readFrom .text rest).map fun (cs, rest) => (c :: cs, rest) := by
  simp [readFrom, LiteralState.step, LiteralState.plain, hquote, hslash, hreturn]

theorem readFrom_digit {digits value d : Nat} (hdigits : digits < 6) (hd : d < 16)
    (rest : List Char) :
    readFrom (.code digits value) (Nat.digitChar d :: rest)
      =
    readFrom (.code (digits + 1) (16 * value + d)) rest := by
  have hdigit : ∀ d < 16, hexValue? (Nat.digitChar d) = some d ∧ Nat.digitChar d ≠ '\x7d'
      ∧ Nat.digitChar d ≠ '_' := by decide
  obtain ⟨hvalue, hclose, hunder⟩ := hdigit d hd
  simp [readFrom, LiteralState.canClose, LiteralState.step, hvalue, hclose, hunder, hdigits]

theorem readFrom_toDigits {n : Nat} (h : (Nat.toDigits 16 n).length ≤ 6) (rest : List Char) :
    readFrom (.code 0 0) (Nat.toDigits 16 n ++ rest)
      =
    readFrom (.code (Nat.toDigits 16 n).length n) rest := by
  induction n using Nat.strongRecOn generalizing rest with
  | ind n ih =>
    by_cases hn : n < 16
    . rw [Nat.toDigits_of_lt_base hn, List.singleton_append, readFrom_digit (by decide) hn]
      simp
    . have hdigits := Nat.toDigits_of_base_le (b := 16) (by decide) (Nat.le_of_not_lt hn)
      rw [hdigits, List.length_append, List.length_singleton] at h
      rw [hdigits, List.append_assoc, ih (n / 16) (by omega) (by omega), List.singleton_append,
        readFrom_digit (by omega) (Nat.mod_lt n (by decide)), Nat.div_add_mod, List.length_append]
      rfl

theorem readFrom_codePointEscape (c : Char) (rest : List Char) :
    readFrom .text (codePointEscape c ++ rest)
      =
    (readFrom .text rest).map fun (cs, rest) => (c :: cs, rest) := by
  have hvalid : c.toNat.isValidChar := c.valid
  have hlength : (Nat.toDigits 16 c.toNat).length ≤ 6 := by
    rw [Nat.length_toDigits_le_iff (by decide) (by decide)]
    rcases hvalid with hlow | ⟨-, hhigh⟩ <;> omega
  have hopen : readFrom .text (codePointEscape c ++ rest)
      = readFrom (.code 0 0) (Nat.toDigits 16 c.toNat ++ '\x7d' :: rest) := by
    simp [codePointEscape, readFrom, LiteralState.step, LiteralState.plain, LiteralState.canClose,
      Function.comp_def]
  rw [hopen, readFrom_toDigits hlength, readFrom]
  simp [LiteralState.step, LiteralState.canClose, hvalid, Char.ofNat_toNat,
    Nat.length_toDigits_pos]

theorem readFrom_literalChar (c : Char) (rest : List Char) :
    readFrom .text (literalChar c ++ rest)
      =
    (readFrom .text rest).map fun (cs, rest) => (c :: cs, rest) := by
  unfold literalChar
  split
  case h_7 =>
    split
    . exact readFrom_codePointEscape c rest
    . exact readFrom_plain ‹_› ‹_› ‹_› rest
  all_goals
    simp [readFrom, LiteralState.step, LiteralState.plain, LiteralState.canClose, Function.comp_def]

theorem readLiteral?_literal (cs rest : List Char) :
    readLiteral? (literal cs ++ rest) = some (cs, rest) := by
  have hbody : ∀ cs, readFrom .text (cs.flatMap literalChar ++ '"' :: rest) = some (cs, rest) := by
    intro cs
    induction cs with
    | nil => rfl
    | cons c cs ih => rw [List.flatMap_cons, List.append_assoc, readFrom_literalChar, ih]; rfl
  simpa [literal, readLiteral?] using hbody cs

theorem exists_of_mem_toDigits {n : Nat} {c : Char} (h : c ∈ Nat.toDigits 16 n) :
    ∃ d < 16, c = Nat.digitChar d := by
  induction n using Nat.strongRecOn with
  | ind n ih =>
    by_cases hn : n < 16
    . rw [Nat.toDigits_of_lt_base hn, List.mem_singleton] at h
      exact ⟨n, hn, h⟩
    . rw [Nat.toDigits_of_base_le (by decide) (Nat.le_of_not_lt hn), List.mem_append,
        List.mem_singleton] at h
      rcases h with h | h
      . exact ih (n / 16) (by omega) h
      . exact ⟨n % 16, Nat.mod_lt n (by decide), h⟩

theorem newline_not_mem_literal (cs : List Char) : '\n' ∉ literal cs := by
  have hdigit : ∀ d < 16, '\n' ≠ Nat.digitChar d := by decide
  have hchar : ∀ c, '\n' ∉ literalChar c := by
    intro c hmem
    unfold literalChar at hmem
    split at hmem
    case h_7 =>
      split at hmem
      . have hcode : '\n' ∈ Nat.toDigits 16 c.toNat := by simpa [codePointEscape] using hmem
        obtain ⟨d, hd, heq⟩ := exists_of_mem_toDigits hcode
        exact hdigit d hd heq
      . exact ‹¬c = '\n'› (List.mem_singleton.1 hmem).symm
    all_goals simp at hmem
  simp [literal, hchar]

end Text
end FixtureLab

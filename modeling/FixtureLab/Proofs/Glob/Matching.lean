import FixtureLab.Glob.Match
import FixtureLab.Proofs.Glob.Reading
import FixtureLab.Proofs.Text.ByteOrder
import Mathlib.Data.Char

/-!
This module contains what matched texts have in common with their patterns: a start of plain
characters, and no more slashes than the elements of the pattern spell, if nothing in it stands for
directories and no set matches a slash that it does not spell.
-/

namespace FixtureLab
namespace Glob

section Bytes

theorem toList_loop (b : ByteArray) (i : Nat) (bytes : List UInt8) :
    ByteArray.toList.loop b i bytes = bytes.reverse ++ b.data.toList.drop i := by
  fun_induction ByteArray.toList.loop b i bytes with
  | case1 i bytes h ih =>
    have hi : i < b.data.toList.length := h
    have hget : b.get! i = b.data.toList[i] := getElem!_pos b.data i h
    rw [ih, hget, List.drop_eq_getElem_cons hi, List.reverse_cons, List.append_assoc]
    rfl
  | case2 i bytes h =>
    have hi : b.data.toList.length ≤ i := Nat.not_lt.1 h
    rw [List.drop_eq_nil_iff.2 hi, List.append_nil]

theorem toList_toUTF8 (s : String) : s.toUTF8.toList = s.toList.flatMap String.utf8EncodeChar := by
  rw [← Text.utf8_eq_flatMap, ByteArray.toList, toList_loop]
  rfl

theorem charBytes_eq (c : Char) : charBytes c = String.utf8EncodeChar c := by
  rw [charBytes, toList_toUTF8]
  simp

theorem charBytes_ne_nil (c : Char) : charBytes c ≠ [] := by
  rw [charBytes_eq, ← List.length_pos_iff, String.length_utf8EncodeChar]
  exact c.utf8Size_pos

theorem le_of_mem_utf8EncodeChar {c : Char} (hc : 127 < c.val.toNat) :
    ∀ b ∈ String.utf8EncodeChar c, 128 ≤ b.toNat := by
  unfold String.utf8EncodeChar
  generalize c.val.toNat = n at *
  dsimp only
  rw [if_neg (by omega)]
  repeat' split
  all_goals
    simp only [List.forall_mem_cons, UInt8.toNat_ofNat', List.not_mem_nil, false_implies,
      implies_true, and_true]
    omega

theorem count_slash_charBytes (c : Char) :
    (charBytes c).count slash = if c = '/' then 1 else 0 := by
  have hslash : c = '/' ↔ c.val.toNat = 47 := by
    rw [← Char.toNat_inj]
    rfl
  rw [charBytes_eq]
  by_cases hc : 127 < c.val.toNat
  . have hne : c ≠ '/' := fun heq => by
      rw [hslash.1 heq] at hc
      omega
    have hmem : slash ∉ String.utf8EncodeChar c := fun hmem => by
      have hle := le_of_mem_utf8EncodeChar hc slash hmem
      simp [slash] at hle
    rw [if_neg hne, List.count_eq_zero.2 hmem]
  . have hencode : String.utf8EncodeChar c = [UInt8.ofNat c.val.toNat] := by
      unfold String.utf8EncodeChar
      exact if_pos (by omega)
    have hbyte : UInt8.ofNat c.val.toNat = slash ↔ c = '/' := by
      rw [hslash, ← UInt8.toNat_inj, UInt8.toNat_ofNat', Nat.mod_eq_of_lt (by omega)]
      rfl
    rw [hencode, List.count_singleton]
    simp only [beq_iff_eq, hbyte]

theorem charBytes_append_inj {c d : Char} {x y : List UInt8}
    (h : charBytes c ++ x = charBytes d ++ y) : c = d ∧ x = y := by
  rw [charBytes_eq, charBytes_eq] at h
  rcases lt_trichotomy c d with hlt | rfl | hlt
  . exact absurd (h ▸ Text.utf8EncodeChar_append_lt hlt x y) (List.lt_irrefl _)
  . exact ⟨rfl, List.append_cancel_left h⟩
  . exact absurd (h ▸ Text.utf8EncodeChar_append_lt hlt y x) (List.lt_irrefl _)

theorem prefix_of_flatMap_charBytes {cs ds : List Char} {x : List UInt8}
    (h : ds.flatMap charBytes = cs.flatMap charBytes ++ x) : cs <+: ds := by
  induction cs generalizing ds with
  | nil => exact List.nil_prefix
  | cons c cs ih =>
    cases ds with
    | nil =>
      rw [List.flatMap_cons, List.flatMap_nil, List.append_assoc] at h
      exact absurd (List.append_eq_nil_iff.1 h.symm).1 (charBytes_ne_nil c)
    | cons d ds =>
      rw [List.flatMap_cons, List.flatMap_cons, List.append_assoc] at h
      obtain ⟨rfl, hrest⟩ := charBytes_append_inj h
      exact List.cons_prefix_cons.2 ⟨rfl, ih hrest⟩

theorem toList_toUTF8_eq (s : String) : s.toUTF8.toList = s.toList.flatMap charBytes := by
  rw [toList_toUTF8]
  congr 1
  funext c
  exact (charBytes_eq c).symm

theorem count_slash_toUTF8 (s : String) : s.toUTF8.toList.count slash = s.toList.count '/' := by
  rw [toList_toUTF8_eq]
  induction s.toList with
  | nil => rfl
  | cons c cs ih =>
    rw [List.flatMap_cons, List.count_append, ih, count_slash_charBytes, List.count_cons,
      Nat.add_comm]
    simp

end Bytes

section After

theorem mem_afterSeq_iff {seq : List Token} {texts : List (List UInt8)} {u : List UInt8} :
    u ∈ afterSeq seq texts ↔ ∃ text ∈ texts, u ∈ afterSeq seq [text] := by
  induction seq generalizing texts with
  | nil => simp [afterSeq]
  | cons t rest ih =>
    simp only [afterSeq]
    rw [ih]
    constructor
    . rintro ⟨v, hv, hu⟩
      obtain ⟨text, htext, hv⟩ := List.mem_flatMap.1 (List.mem_eraseDups.1 hv)
      exact ⟨text, htext, ih.2 ⟨v, List.mem_eraseDups.2 (by simpa using hv), hu⟩⟩
    . rintro ⟨text, htext, hu⟩
      obtain ⟨v, hv, hu⟩ := ih.1 hu
      have hv' := List.mem_eraseDups.1 hv
      exact ⟨v, List.mem_eraseDups.2 (List.mem_flatMap.2 ⟨text, htext, by simpa using hv'⟩), hu⟩

theorem mem_afterSeq_cons {t : Token} {rest : List Token} {text u : List UInt8} :
    u ∈ afterSeq (t :: rest) [text] ↔ ∃ v ∈ t.after text, u ∈ afterSeq rest [v] := by
  rw [afterSeq, mem_afterSeq_iff]
  simp [distinct, List.mem_eraseDups]

theorem mem_after_char {c : Char} {text u : List UInt8} (h : u ∈ (Token.char c).after text) :
    text = charBytes c ++ u := by
  rw [Token.after] at h
  split at h
  . next hprefix =>
    obtain ⟨v, rfl⟩ := List.isPrefixOf_iff_prefix.1 hprefix
    rw [List.mem_singleton, List.drop_left] at h
    rw [h]
  . cases h

theorem mem_afterSeq_chars {chars : List Char} {seq : List Token} {text u : List UInt8}
    (h : u ∈ afterSeq (chars.map Token.char ++ seq) [text]) :
    ∃ v, text = chars.flatMap charBytes ++ v ∧ u ∈ afterSeq seq [v] := by
  induction chars generalizing text with
  | nil => exact ⟨text, rfl, h⟩
  | cons c chars ih =>
    obtain ⟨v, hv, hrest⟩ := mem_afterSeq_cons.1 h
    obtain ⟨w, rfl, hu⟩ := ih hrest
    refine ⟨w, ?_, hu⟩
    rw [mem_after_char hv, List.flatMap_cons, List.append_assoc]

theorem Token.BeginsWithSlash.exists_rest {t : Token} (ht : t.BeginsWithSlash)
    {text u : List UInt8} (h : u ∈ t.after text) : ∃ rest, text = slash :: rest := by
  rcases ht with rfl | rfl | rfl
  . refine ⟨u, (mem_after_char h).trans ?_⟩
    rw [charBytes_eq]
    rfl
  all_goals
    cases text with
    | nil => simp [Token.after] at h
    | cons b rest =>
      simp only [Token.after] at h
      split at h
      . next hb => exact ⟨rest, hb ▸ rfl⟩
      . cases h

theorem exists_rest_of_isMatch {chars : List Char} {t : Token} {seq : List Token}
    {text : List UInt8} (ht : t.BeginsWithSlash)
    (h : isMatch (chars.map Token.char ++ t :: seq) text) :
    ∃ rest, text = chars.flatMap charBytes ++ slash :: rest := by
  have hsome : ¬isEverything (chars.map Token.char ++ t :: seq) := by
    cases chars with
    | nil => rcases ht with rfl | rfl | rfl <;> simp [isEverything]
    | cons c chars => simp [isEverything]
  rw [isMatch, Bool.or_eq_true, or_iff_right hsome, List.any_eq_true] at h
  obtain ⟨u, hu, -⟩ := h
  obtain ⟨v, rfl, hv⟩ := mem_afterSeq_chars hu
  obtain ⟨w, hw, -⟩ := mem_afterSeq_cons.1 hv
  obtain ⟨rest, rfl⟩ := ht.exists_rest hw
  exact ⟨rest, rfl⟩

def Token.SlashSpelled : Token → Prop
  | .set negated ranges => inSet ranges slash ≠ negated → Glob.SpellsSlash ranges
  | _ => True

instance : DecidablePred Token.SlashSpelled
  | .set negated ranges =>
    inferInstanceAs (Decidable (inSet ranges slash ≠ negated → Glob.SpellsSlash ranges))
  | .char _ | .any | .star | .leadingDirs | .trailingDirs | .innerDirs | .oneOf _ => .isTrue trivial

/-- What the element matches has no slash that it does not spell. -/
def Token.Confined (t : Token) : Prop := ¬t.IsDirectories ∧ t.SlashSpelled

theorem exists_used_of_afterRun {text u : List UInt8} (h : u ∈ afterRun (· != slash) text) :
    ∃ used, text = used ++ u ∧ used.count slash = 0 := by
  induction text with
  | nil => exact ⟨[], by simpa [afterRun, eq_comm] using h, rfl⟩
  | cons b rest ih =>
    rw [afterRun, List.mem_cons] at h
    rcases h with rfl | h
    . exact ⟨[], rfl, rfl⟩
    . split at h
      . next hb =>
        obtain ⟨used, rfl, hcount⟩ := ih h
        exact ⟨b :: used, rfl, by simpa [List.count_cons, hcount] using hb⟩
      . cases h

theorem exists_used_byte {t : Token} {b : UInt8} {u : List UInt8} (hleaf : t.leaves = [t])
    (hb : b = slash → t.SpellsSlash) :
    ∃ used, b :: u = used ++ u ∧ used.count slash ≤ t.leaves.countP Token.SpellsSlash := by
  refine ⟨[b], rfl, ?_⟩
  rw [hleaf]
  by_cases hslash : b = slash
  . simp [hslash, hb hslash]
  . simp [hslash]

mutual

theorem Token.exists_used (t : Token) (h : ∀ l ∈ t.leaves, l.Confined) {text u : List UInt8}
    (hu : u ∈ t.after text) :
    ∃ used, text = used ++ u ∧ used.count slash ≤ t.leaves.countP Token.SpellsSlash := by
  cases t with
  | char c =>
    refine ⟨charBytes c, mem_after_char hu, ?_⟩
    rw [count_slash_charBytes]
    by_cases hc : c = '/' <;> simp [Token.leaves, Token.SpellsSlash, hc]
  | any =>
    cases text with
    | nil => simp [Token.after] at hu
    | cons b rest =>
      simp only [Token.after] at hu
      split at hu
      . next hb =>
        cases List.mem_singleton.1 hu
        exact exists_used_byte (by simp [Token.leaves]) fun hslash => by simp [hslash] at hb
      . cases hu
  | set negated ranges =>
    have hspelled := (h (.set negated ranges) (by simp [Token.leaves])).2
    cases text with
    | nil => simp [Token.after] at hu
    | cons b rest =>
      simp only [Token.after] at hu
      split at hu
      . next hb =>
        cases List.mem_singleton.1 hu
        refine exists_used_byte (by simp [Token.leaves]) fun hslash => hspelled ?_
        simpa [hslash] using hb
      . cases hu
  | star =>
    rw [Token.after] at hu
    obtain ⟨used, htext, hcount⟩ := exists_used_of_afterRun hu
    exact ⟨used, htext, by omega⟩
  | leadingDirs => exact absurd (.inl rfl) (h _ (by simp [Token.leaves])).1
  | trailingDirs => exact absurd (.inr (.inr rfl)) (h _ (by simp [Token.leaves])).1
  | innerDirs => exact absurd (.inr (.inl rfl)) (h _ (by simp [Token.leaves])).1
  | oneOf alternatives =>
    rw [Token.leaves] at h
    rw [Token.after] at hu
    split at hu
    . exact ⟨[], (List.mem_singleton.1 hu).symm, by simp⟩
    . exact exists_used_of_afterAny alternatives h hu

theorem exists_used_of_afterSeq (seq : List Token) (h : ∀ l ∈ seqLeaves seq, l.Confined)
    {text u : List UInt8} (hu : u ∈ afterSeq seq [text]) :
    ∃ used, text = used ++ u ∧ used.count slash ≤ (seqLeaves seq).countP Token.SpellsSlash := by
  cases seq with
  | nil =>
    rw [afterSeq] at hu
    exact ⟨[], (List.mem_singleton.1 hu).symm, by simp⟩
  | cons t rest =>
    rw [seqLeaves, List.forall_mem_append] at h
    obtain ⟨v, hv, hu⟩ := mem_afterSeq_cons.1 hu
    obtain ⟨used, htext, hcount⟩ := t.exists_used h.1 hv
    obtain ⟨used', hrest, hcount'⟩ := exists_used_of_afterSeq rest h.2 hu
    refine ⟨used ++ used', by rw [htext, hrest, List.append_assoc], ?_⟩
    rw [List.count_append, seqLeaves, List.countP_append]
    omega

theorem exists_used_of_afterAny (alternatives : List (List Token))
    (h : ∀ l ∈ altLeaves alternatives, l.Confined) {text u : List UInt8}
    (hu : u ∈ afterAny alternatives text) :
    ∃ used, text = used ++ u
      ∧ used.count slash ≤ (altLeaves alternatives).countP Token.SpellsSlash := by
  cases alternatives with
  | nil => simp [afterAny] at hu
  | cons seq rest =>
    rw [altLeaves, List.forall_mem_append] at h
    rw [afterAny, List.mem_append] at hu
    rw [altLeaves, List.countP_append]
    rcases hu with hu | hu
    . split at hu
      . cases hu
      . obtain ⟨used, htext, hcount⟩ := exists_used_of_afterSeq seq h.1 hu
        exact ⟨used, htext, by omega⟩
    . obtain ⟨used, htext, hcount⟩ := exists_used_of_afterAny rest h.2 hu
      exact ⟨used, htext, by omega⟩

end

theorem count_slash_le_of_isMatch {seq : List Token} {text : List UInt8}
    (hconfined : ∀ l ∈ seqLeaves seq, l.Confined) (h : isMatch seq text) :
    text.count slash ≤ (seqLeaves seq).countP Token.SpellsSlash := by
  have hsome : ¬isEverything seq := by
    intro heverything
    unfold isEverything at heverything
    split at heverything
    . exact absurd (.inl rfl) (hconfined .leadingDirs (by simp [seqLeaves, Token.leaves])).1
    . cases heverything
  rw [isMatch, Bool.or_eq_true, or_iff_right hsome, List.any_eq_true] at h
  obtain ⟨u, hu, hempty⟩ := h
  obtain ⟨used, rfl, hcount⟩ := exists_used_of_afterSeq seq hconfined hu
  rw [List.isEmpty_iff.1 hempty, List.append_nil]
  exact hcount

end After

end Glob
end FixtureLab

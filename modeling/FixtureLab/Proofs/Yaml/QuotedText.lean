import FixtureLab.Proofs.Yaml.Place
import FixtureLab.Yaml.FlowScalar
import Mathlib.Algebra.Group.Nat.Defs

/-!
This module contains that quoted scalars are read as they are written, up to the closing quote.
-/

namespace FixtureLab
namespace Yaml

namespace Text

variable {p q : Char → Bool} {c : Char} {cs : List Char}

theorem hasPair_cons (h : hasPair p q (c :: cs) = false) :
    (∀ d, cs.head? = some d → p c = true → q d = false) ∧ hasPair p q cs = false := by
  cases cs with
  | nil => simp [hasPair]
  | cons d cs =>
    simp only [hasPair, Bool.or_eq_false_iff, Bool.and_eq_false_iff] at h
    refine ⟨?_, h.2⟩
    rintro _ ⟨⟩ hp
    simpa [hp] using h.1

structure SingleQuoted (cs : List Char) : Prop where
  noBreakSpace : hasPair isBreak isSpace cs = false
  noSpaceBreak : hasPair isSpace isBreak cs = false
  printable : Printable cs
  noNewline : '\n' ∉ cs

theorem SingleQuoted.tail (h : SingleQuoted (c :: cs)) : SingleQuoted cs where
  noBreakSpace := (hasPair_cons h.noBreakSpace).2
  noSpaceBreak := (hasPair_cons h.noSpaceBreak).2
  printable := fun d hd => h.printable d (List.mem_cons_of_mem _ hd)
  noNewline := fun hmem => h.noNewline (List.mem_cons_of_mem _ hmem)

def quoteChar (c : Char) : List Char := (if c = '\'' then ['\''] else []) ++ [c]

theorem hasBreak_quoteChar (h : isBreak c = false) : hasBreak (quoteChar c) = false := by
  unfold quoteChar
  split <;> simp_all [hasBreak]

theorem singleBody_of_noBreak {indent : Nat} (h : hasBreak cs = false) :
    singleBody indent false cs = cs.flatMap quoteChar := by
  induction cs with
  | nil => rfl
  | cons c cs ih =>
    have hc : isBreak c = false ∧ hasBreak cs = false := Bool.or_eq_false_iff.1 h
    rw [List.flatMap_cons, singleBody, ih hc.2]
    by_cases hspace : c = ' '
    . subst hspace
      rfl
    . simp [isSpace, hspace, hc.1, quoteChar]

theorem hasBreak_flatMap_quoteChar (h : hasBreak cs = false) :
    hasBreak (cs.flatMap quoteChar) = false := by
  induction cs with
  | nil => rfl
  | cons c cs ih =>
    have hc : isBreak c = false ∧ hasBreak cs = false := Bool.or_eq_false_iff.1 h
    have hquote := hasBreak_quoteChar hc.1
    have hrest := ih hc.2
    unfold hasBreak at hquote hrest ⊢
    rw [List.flatMap_cons, List.any_append, hquote, hrest]
    rfl

theorem length_quoteChar_le (c : Char) : (quoteChar c).length ≤ 2 := by
  unfold quoteChar
  split <;> simp

theorem length_escapeChar_le (c : Char) : (escapeChar c).length ≤ 6 := by
  unfold escapeChar
  split
  . simp
  . next h =>
    split
    case h_15 =>
      split
      . simp [hexDigits]
      . split
        . simp [hexDigits]
        . next hlarge =>
          -- Characters beyond the basic plane are written as they are.
          have hprintable : isPrintable c = true := isPrintable_iff.2 (by omega)
          have hbreak : isBreak c = false := by
            have hnewline : c ≠ '\n' := by rintro rfl; exact hlarge (by decide)
            have hreturn : c ≠ '\r' := by rintro rfl; exact hlarge (by decide)
            simp [isBreak, hnewline, hreturn]
            omega
          have hquote : c ≠ '"' := by rintro rfl; exact hlarge (by decide)
          have hslash : c ≠ '\\' := by rintro rfl; exact hlarge (by decide)
          simp [hprintable, hbreak, hquote, hslash] at h
    all_goals simp

end Text

namespace Gap

theorem text_breaks {c : Char} {others : List Char} (h : c ≠ '\n') :
    (Gap.breaks (some c) others).text = c :: others := by
  unfold text
  split <;> simp_all

end Gap

namespace Source

open FixtureLab.Yaml.Text

variable {line column indent : Nat} {cs rest : List Char} {gap : Gap} {c : Char}

theorem singleQuoted_gap {p : Placed} {s : Source} (h : (isBlank p.char || isBreak p.char) = true) :
    singleQuoted gap (p :: s) = singleQuoted (gap.add p.char) s := by
  rw [singleQuoted.eq_def]
  simp only [h, if_true]

theorem singleQuoted_twice {p q : Placed} {s : Source} (hp : p.char = '\'') (hq : q.char = '\'')
    (hcolumn : 0 < p.column) :
    singleQuoted gap (p :: q :: s)
      = (singleQuoted .empty s).map fun (text, rest) => (gap.text ++ '\'' :: text, rest) := by
  rw [singleQuoted]
  simp [hp, hq, isBlank, isBreak, atDocumentEdge_of_pos hcolumn]

theorem singleQuoted_other {p : Placed} {s : Source} (hp : p.char ≠ '\'') (hcolumn : 0 < p.column)
    (h : (isBlank p.char || isBreak p.char) = false) :
    singleQuoted gap (p :: s)
      = (singleQuoted .empty s).map fun (text, rest) => (gap.text ++ p.char :: text, rest) := by
  rw [singleQuoted.eq_def]
  simp only [h, hp, atDocumentEdge_of_pos hcolumn, Bool.false_eq_true, if_false]

theorem singleQuoted_char (hcolumn : 0 < column) (hblank : isBlank c = false)
    (hbreak : isBreak c = false) :
    singleQuoted gap (place line column (quoteChar c ++ rest))
      = (singleQuoted .empty (place line (columnAfter column (quoteChar c)) rest)).map
          fun (text, rest) => (gap.text ++ c :: text, rest) := by
  by_cases hc : c = '\''
  . subst hc
    exact singleQuoted_twice rfl rfl hcolumn
  . rw [quoteChar, if_neg hc, List.nil_append, List.singleton_append, place_of_not_isBreak hbreak,
      singleQuoted_other hc hcolumn (by rw [hblank, hbreak]; rfl)]
    simp [columnAfter, hbreak]

theorem singleQuoted_close (hcolumn : 0 < column) (hrest : rest.head? ≠ some '\'') :
    singleQuoted gap (place line column ('\'' :: rest))
      = some (gap.text, place line (column + 1) rest) := by
  have hedge := @atDocumentEdge_of_pos ⟨'\'', line, column⟩
  match rest with
  | [] => simp [singleQuoted, place_cons, isBlank, isBreak, hedge hcolumn]
  | d :: rest =>
    have hd : d ≠ '\'' := by simpa using hrest
    rw [place_of_not_isBreak rfl, place_cons, singleQuoted]
    simp [isBlank, isBreak, hedge hcolumn, hd]

theorem singleQuoted_pad {first : Option Char} {others : List Char} (n : Nat) :
    singleQuoted (.breaks first others) (place line column (pad n ++ rest))
      = singleQuoted (.breaks first others) (place line (column + n) rest) := by
  induction n generalizing column with
  | zero => rfl
  | succ n ih =>
    rw [pad_succ, List.cons_append, place_space, singleQuoted_gap rfl, Nat.add_comm n,
      ← Nat.add_assoc, ← ih]
    rfl

/-- What was read of a gap, of which the emitter has written the part before `cs`. -/
inductive Waits : Gap → Bool → List Char → Prop where
  | blanks {spaces cs : List Char} (h : spaces ≠ [] → ∀ c, cs.head? = some c → isBreak c = false) :
      Waits (.blanks spaces) false cs
  | breaks {c : Char} {others cs : List Char} (hc : c ≠ '\n')
      (h : ∀ d, cs.head? = some d → isSpace d = false) : Waits (.breaks (some c) others) true cs

theorem Waits.space {afterBreak : Bool} (h : Waits gap afterBreak (' ' :: cs))
    (hnext : ∀ d, cs.head? = some d → isBreak d = false) :
    afterBreak = false ∧ Waits (gap.add ' ') false cs ∧ (gap.add ' ').text = gap.text ++ [' '] := by
  cases h with
  | breaks _ h => cases h ' ' rfl
  | @blanks spaces _ h =>
    have hadd : Gap.add ' ' (.blanks spaces) = .blanks (spaces ++ [' ']) := rfl
    rw [hadd]
    exact ⟨rfl, .blanks fun _ => hnext, rfl⟩

theorem Waits.newLine {afterBreak : Bool} (h : Waits gap afterBreak (c :: cs))
    (hbreak : isBreak c = true) (hc : c ≠ '\n')
    (hnext : ∀ d, cs.head? = some d → isSpace d = false) :
    Waits (gap.add c) true cs ∧ (gap.add c).text = gap.text ++ [c] := by
  cases h with
  | @blanks spaces _ h =>
    have hnil : spaces = [] := by
      cases spaces with
      | nil => rfl
      | cons => simp [h (List.cons_ne_nil _ _) c rfl] at hbreak
    have hadd : Gap.add c (.blanks spaces) = .breaks (some c) [] := by simp [Gap.add, hbreak]
    rw [hadd, hnil, Gap.text_breaks hc]
    exact ⟨.breaks hc hnext, rfl⟩
  | @breaks b others _ hb _ =>
    have hadd : Gap.add c (.breaks (some b) others) = .breaks (some b) (others ++ [c]) := by
      simp [Gap.add, hbreak]
    rw [hadd, Gap.text_breaks hb, Gap.text_breaks hb]
    exact ⟨.breaks hb hnext, rfl⟩

theorem singleQuoted_body {afterBreak : Bool} (hcs : SingleQuoted cs)
    (hwaits : Waits gap afterBreak cs) (hindent : 0 < indent)
    (hcolumn : afterBreak = false → 0 < column) (hrest : rest.head? ≠ some '\'') :
    singleQuoted gap (place line column (singleBody indent afterBreak cs ++ '\'' :: rest))
      = some (gap.text ++ cs,
          place (lineAfter line (singleBody indent afterBreak cs))
            (columnAfter column (singleBody indent afterBreak cs) + 1) rest) := by
  induction cs generalizing line column gap afterBreak with
  | nil =>
    cases hwaits with
    | blanks =>
      simp [singleBody, singleQuoted_close (hcolumn rfl) hrest, lineAfter, columnAfter]
    | breaks hc h =>
      simp [singleBody, singleQuoted_pad,
        singleQuoted_close (Nat.lt_of_lt_of_le hindent (Nat.le_add_left _ _)) hrest]
  | cons c cs ih =>
    have hbreakSpace := (hasPair_cons hcs.noBreakSpace).1
    have hspaceBreak := (hasPair_cons hcs.noSpaceBreak).1
    cases hspace : isSpace c with
    | true =>
      have hc : c = ' ' := by simpa [isSpace] using hspace
      subst hc
      obtain ⟨rfl, hwaits', htext⟩ := hwaits.space fun d hd => hspaceBreak d hd rfl
      simp only [singleBody, hspace, if_true, List.cons_append, place_space, lineAfter, columnAfter]
      rw [singleQuoted_gap rfl, ih hcs.tail hwaits' fun _ => Nat.succ_pos column, htext,
        List.append_assoc]
      rfl
    | false =>
      cases hbreak : isBreak c with
      | true =>
        have hnewline : c ≠ '\n' := by
          rintro rfl
          exact hcs.noNewline List.mem_cons_self
        obtain ⟨hwaits', htext⟩ :=
          hwaits.newLine hbreak hnewline fun d hd => hbreakSpace d hd hbreak
        simp only [singleBody, hspace, hbreak, Bool.false_eq_true, if_false, if_true,
          List.cons_append, place_of_isBreak, lineAfter, columnAfter]
        rw [singleQuoted_gap (by rw [hbreak, Bool.or_true]), ih hcs.tail hwaits' (by simp), htext,
          List.append_assoc]
        rfl
      | false =>
        have hblank : isBlank c = false := by
          rw [isBlank_of_printable (hcs.printable c List.mem_cons_self)]
          exact hspace
        have hbody : singleBody indent afterBreak (c :: cs)
            = (if afterBreak then pad indent else []) ++
              (quoteChar c ++ singleBody indent false cs) := by
          simp [singleBody, hspace, hbreak, quoteChar]
        have hwaits' : Waits .empty false cs := .blanks (absurd rfl)
        have hchar : ∀ column, 0 < column →
            singleQuoted gap (place line column
                (quoteChar c ++ singleBody indent false cs ++ '\'' :: rest))
              = some (gap.text ++ c :: cs,
                  place (lineAfter line (quoteChar c ++ singleBody indent false cs))
                    (columnAfter column (quoteChar c ++ singleBody indent false cs) + 1) rest) := by
          intro column hcolumn
          have hafter : 0 < columnAfter column (quoteChar c) := by
            rw [columnAfter_of_noBreak (hasBreak_quoteChar hbreak)]
            omega
          rw [List.append_assoc, singleQuoted_char hcolumn hblank hbreak,
            ih hcs.tail hwaits' fun _ => hafter, lineAfter_append, columnAfter_append,
            lineAfter_of_noBreak (hasBreak_quoteChar hbreak)]
          rfl
        rw [hbody]
        cases hwaits with
        | blanks => exact hchar column (hcolumn rfl)
        | breaks =>
          rw [if_pos rfl, List.append_assoc, singleQuoted_pad, hchar _ (by omega),
            lineAfter_append (pad indent), columnAfter_append (pad indent), lineAfter_pad,
            columnAfter_pad]

/-! Double quotes -/

theorem doubleQuoted_letter {letter : Char} (hcolumn : 0 < column) (hbreak : isBreak letter = false)
    (h : escape? letter = some c) :
    doubleQuoted (.text gap) (place line column ('\\' :: letter :: rest))
      = (doubleQuoted (.text .empty) (place line (column + 2) rest)).map
          fun (text, rest) => (gap.text ++ c :: text, rest) := by
  have hplace : place line column ('\\' :: letter :: rest)
      = ⟨'\\', line, column⟩ :: ⟨letter, line, column + 1⟩ :: place line (column + 2) rest := by
    rw [place_of_not_isBreak rfl, place_of_not_isBreak hbreak]
  have hletter : doubleQuoted .escape (⟨letter, line, column + 1⟩ :: place line (column + 2) rest)
      = (doubleQuoted (.text .empty) (place line (column + 2) rest)).map
          fun (text, rest) => (c :: text, rest) := by
    simp [doubleQuoted, hbreak, h]
  rw [hplace, doubleQuoted, hletter]
  simp [isBlank, isBreak, atDocumentEdge_of_pos, hcolumn, Function.comp_def]

theorem digitValue?_hexDigit (n : Nat) : Scalar.digitValue? (hexDigit n) = some (n % 16) := by
  have hdigit : ∀ d < 16, Scalar.digitValue? (Nat.digitChar d).toUpper = some d := by decide
  exact hdigit _ (Nat.mod_lt n (by decide))

theorem isBreak_hexDigit (n : Nat) : isBreak (hexDigit n) = false := by
  have hdigit : ∀ d < 16, isBreak (Nat.digitChar d).toUpper = false := by decide
  exact hdigit _ (Nat.mod_lt n (by decide))

theorem doubleQuoted_digits (width more value n : Nat) (rest : List Char) :
    doubleQuoted (.code (width + (more + 1)) value) (place line column (hexDigits width n ++ rest))
      = doubleQuoted (.code (more + 1) (value * 16 ^ width + n % 16 ^ width))
          (place line (column + width) rest) := by
  induction width generalizing more n rest with
  | zero => simp [hexDigits, Nat.mod_one]
  | succ width ih =>
    have hmod : n % 16 ^ (width + 1) = n % 16 + 16 * (n / 16 % 16 ^ width) := by
      rw [Nat.pow_succ, Nat.mul_comm, Nat.mod_mul]
    have hvalue : (value * 16 ^ width + n / 16 % 16 ^ width) * 16 + n % 16
        = value * 16 ^ (width + 1) + n % 16 ^ (width + 1) := by
      rw [hmod, Nat.pow_succ, Nat.add_mul, Nat.mul_assoc]
      omega
    have hdigits : width + 1 + (more + 1) = width + (more + 1 + 1) := by omega
    rw [hexDigits, List.append_assoc, hdigits, ih, List.singleton_append,
      place_of_not_isBreak (isBreak_hexDigit n), doubleQuoted]
    simp [digitValue?_hexDigit, hvalue, Nat.add_assoc]

theorem doubleQuoted_code {letter : Char} {width : Nat} (hcolumn : 0 < column)
    (hbreak : isBreak letter = false) (hescape : escape? letter = none)
    (hletter : codeLength? letter = some (width + 1)) (hc : c.toNat < 16 ^ (width + 1)) :
    doubleQuoted (.text gap)
        (place line column ('\\' :: letter :: (hexDigits (width + 1) c.toNat ++ rest)))
      = (doubleQuoted (.text .empty) (place line (column + (width + 3)) rest)).map
          fun (text, rest) => (gap.text ++ c :: text, rest) := by
  have hdigits : ∀ column, doubleQuoted (.code (width + 1) 0)
      (place line column (hexDigits (width + 1) c.toNat ++ rest))
      = (doubleQuoted (.text .empty) (place line (column + (width + 1)) rest)).map
          fun (text, rest) => (c :: text, rest) := by
    intro column
    have hhigh : c.toNat / 16 % 16 ^ width = c.toNat / 16 := by
      rw [Nat.pow_succ] at hc
      exact Nat.mod_eq_of_lt (by omega)
    have hvalue : (0 * 16 ^ width + c.toNat / 16 % 16 ^ width) * 16 + c.toNat % 16 = c.toNat := by
      rw [hhigh]
      omega
    have hvalid : charOfCode? c.toNat = some c := by
      have hlt : c.toNat.isValidChar := c.valid
      simp [charOfCode?, hlt, Char.ofNat_toNat]
    rw [hexDigits, List.append_assoc, doubleQuoted_digits, List.singleton_append,
      place_of_not_isBreak (isBreak_hexDigit _), doubleQuoted]
    simp only [digitValue?_hexDigit, hvalue, hvalid]
    rfl
  have hplace : place line column ('\\' :: letter :: (hexDigits (width + 1) c.toNat ++ rest))
      = ⟨'\\', line, column⟩ :: ⟨letter, line, column + 1⟩
        :: place line (column + 2) (hexDigits (width + 1) c.toNat ++ rest) := by
    rw [place_of_not_isBreak rfl, place_of_not_isBreak hbreak]
  have hcode : doubleQuoted .escape (⟨letter, line, column + 1⟩
        :: place line (column + 2) (hexDigits (width + 1) c.toNat ++ rest))
      = (doubleQuoted (.text .empty) (place line (column + (width + 3)) rest)).map
          fun (text, rest) => (c :: text, rest) := by
    have hend : column + 2 + (width + 1) = column + (width + 3) := by omega
    rw [← hend, ← hdigits]
    simp [doubleQuoted, hbreak, hescape, hletter]
  rw [hplace, doubleQuoted, hcode]
  simp [isBlank, isBreak, atDocumentEdge_of_pos, hcolumn, Function.comp_def]

theorem doubleQuoted_char (hcolumn : 0 < column) (hspace : c ≠ ' ') :
    doubleQuoted (.text gap) (place line column (escapeChar c ++ rest))
      = (doubleQuoted (.text .empty) (place line (column + (escapeChar c).length) rest)).map
          fun (text, rest) => (gap.text ++ c :: text, rest) := by
  have hletter : ∀ {code : Nat} {letter : Char}, c.toNat = code → isBreak letter = false →
      escape? letter = some (Char.ofNat code) →
      doubleQuoted (.text gap) (place line column ('\\' :: letter :: rest))
        = (doubleQuoted (.text .empty) (place line (column + 2) rest)).map
            fun (text, rest) => (gap.text ++ c :: text, rest) := by
    rintro code letter rfl hbreak hescape
    exact doubleQuoted_letter hcolumn hbreak (by rw [hescape, Char.ofNat_toNat])
  unfold escapeChar
  split
  . next h =>
    simp only [Bool.and_eq_true, Bool.not_eq_true', bne_iff_ne] at h
    obtain ⟨⟨⟨hprintable, hbreak⟩, hquote⟩, hslash⟩ := h
    have hblank : isBlank c = false := by simp [isBlank_of_printable hprintable, hspace]
    rw [List.singleton_append, place_of_not_isBreak hbreak, doubleQuoted]
    simp [hblank, hbreak, atDocumentEdge_of_pos, hcolumn, hquote, hslash]
  . split
    case h_15 =>
      split
      . exact doubleQuoted_code hcolumn rfl rfl rfl (by omega)
      . split
        . exact doubleQuoted_code hcolumn rfl rfl rfl (by omega)
        . exact doubleQuoted_code hcolumn rfl rfl rfl c.val.toNat_lt
    all_goals exact hletter ‹_› rfl rfl

theorem doubleQuoted_text {spaces : List Char} (hcolumn : 0 < column) :
    doubleQuoted (.text (.blanks spaces))
        (place line column (cs.flatMap escapeChar ++ '"' :: rest))
      = some (spaces ++ cs, place line (column + (cs.flatMap escapeChar).length + 1) rest) := by
  induction cs generalizing column spaces with
  | nil =>
    rw [List.flatMap_nil, List.nil_append, place_of_not_isBreak rfl, doubleQuoted]
    simp [isBlank, isBreak, atDocumentEdge_of_pos, hcolumn, Gap.text]
  | cons c cs ih =>
    rw [List.flatMap_cons, List.append_assoc, List.length_append, ← Nat.add_assoc]
    by_cases hc : c = ' '
    . subst hc
      have hspace : escapeChar ' ' = [' '] := rfl
      have hread : doubleQuoted (.text (.blanks spaces))
          (place line column (' ' :: (cs.flatMap escapeChar ++ '"' :: rest)))
          = doubleQuoted (.text (.blanks (spaces ++ [' '])))
              (place line (column + 1) (cs.flatMap escapeChar ++ '"' :: rest)) := by
        simp [doubleQuoted, isBlank, Gap.add, isBreak]
      rw [hspace, List.singleton_append, hread, ih (Nat.succ_pos column), List.append_assoc]
      rfl
    . have hlt : 0 < column + (escapeChar c).length := Nat.lt_add_right _ hcolumn
      rw [doubleQuoted_char hcolumn hc, Gap.empty, ih hlt]
      rfl

end Source

end Yaml
end FixtureLab

import FixtureLab.Proofs.Yaml.Place
import FixtureLab.Yaml.BlockScalar

/-!
This module contains that literal blocks are read as they are written. The marks behind the bar
depend on how a text starts and on the number of line breaks that it ends in.
-/

namespace FixtureLab
namespace Yaml

def breaksAtEnd (n : Nat) : List Char → Nat
  | [] => n
  | c :: rest => breaksAtEnd (if isBreak c then n + 1 else 0) rest

theorem breaksAtEnd_append (n : Nat) (xs ys : List Char) :
    breaksAtEnd n (xs ++ ys) = breaksAtEnd (breaksAtEnd n xs) ys := by
  induction xs generalizing n with
  | nil => rfl
  | cons c rest ih => simp only [List.cons_append, breaksAtEnd, ih]

namespace Chomping

def keeping : Nat → Chomping
  | 0 => .strip
  | 1 => .clip
  | _ => .keep

def mark : Chomping → List Char
  | .strip => ['-']
  | .clip => []
  | .keep => ['+']

end Chomping

namespace Text

def hidesIndent (cs : List Char) : Bool := cs.head?.any fun c => isSpace c || isBreak c

theorem blockMarks_eq {cs : List Char} (hne : cs ≠ []) :
    blockMarks cs
      = (if hidesIndent cs then ['2'] else []) ++ (Chomping.keeping (breaksAtEnd 1 cs)).mark := by
  dsimp only [blockMarks]
  congr 1
  . cases cs <;> rfl
  . match hreverse : cs.reverse with
    | [] => exact absurd (List.reverse_eq_nil_iff.1 hreverse) hne
    | [c] =>
      have hcs : cs = [c] := by simpa using congrArg List.reverse hreverse
      simp only [hcs, breaksAtEnd]
      cases isBreak c <;> rfl
    | c :: d :: before =>
      have hcs : cs = before.reverse ++ [d, c] := by simpa using congrArg List.reverse hreverse
      simp only [hcs, breaksAtEnd_append, breaksAtEnd]
      cases isBreak c <;> cases isBreak d <;> rfl

end Text

namespace Source

open FixtureLab.Yaml.Text

variable {line column indent outer : Nat} {indents : List Nat} {cs rest tail : List Char}
  {chomping : Chomping} {startsBlank : Bool} {first others : List Char}

theorem blockHeader?_marks (marked : Bool) (chomping : Chomping) :
    blockHeader? (place line column
        ((if marked then ['2'] else []) ++ chomping.mark ++ '\n' :: rest))
      = some (⟨chomping, if marked then some 2 else none⟩, place (line + 1) 0 rest) := by
  cases marked <;> cases chomping <;> rfl

theorem detectIndent_pad {c : Char} (hspace : c ≠ ' ') (htab : c ≠ '\t')
    (hbreak : isBreak c = false) :
    detectIndent 0 (place line column (pad indent ++ c :: rest)) = some (column + indent) := by
  induction indent generalizing column with
  | zero => simp [place_cons, detectIndent, hspace, htab, hbreak]
  | succ n ih =>
    have hcolumn : column + 1 + n = column + (n + 1) := by omega
    rw [pad_succ, List.cons_append, place_space, detectIndent, if_pos rfl, ih, hcolumn]

theorem blockLines_pad (n : Nat) (h : column + n ≤ indent) :
    blockLines false chomping indent (.gap startsBlank first others)
        (place line column (pad n ++ rest))
      = blockLines false chomping indent (.gap startsBlank first others)
          (place line (column + n) rest) := by
  induction n generalizing column with
  | zero => rfl
  | succ n ih =>
    have hcolumn : column + 1 + n = column + (n + 1) := by omega
    have hlt : column < indent := by omega
    rw [pad_succ, List.cons_append, place_space, blockLines]
    simp [hlt, ih (hcolumn ▸ h), hcolumn]

theorem blockLines_ends (hindent : outer < indent) (htail : Ends (outer :: indents) tail) :
    blockLines false chomping indent (.gap startsBlank first others) (place line 0 tail)
      = some (lastBreaks chomping first others, firstToken line tail) := by
  cases htail with
  | text => rfl
  | @line column _ _ c rest hcolumn hc =>
    obtain ⟨hblank, hbreak, -⟩ := startsToken_iff.1 hc
    simp only [isBlank, Bool.or_eq_false_iff, decide_eq_false_iff_not] at hblank
    have hne : column ≠ indent := by omega
    rw [blockLines_pad column (by omega), firstToken_pad column hc, Nat.zero_add,
      place_of_not_isBreak hbreak, blockLines]
    simp [hblank, hbreak, hne]

section

variable {p : Placed} {s : Source}

theorem blockLines_break_in_line (h : isBreak p.char = true) :
    blockLines false chomping indent (.line startsBlank) (p :: s)
      = blockLines false chomping indent (.gap startsBlank [p.char] []) s := by
  rw [blockLines, if_pos h]

theorem blockLines_char_in_line (h : isBreak p.char = false) :
    blockLines false chomping indent (.line startsBlank) (p :: s)
      = (blockLines false chomping indent (.line startsBlank) s).map
          fun (text, rest) => (p.char :: text, rest) := by
  rw [blockLines, if_neg (by rw [h]; decide)]

theorem blockLines_break_in_gap (h : isBreak p.char = true) :
    blockLines false chomping indent (.gap startsBlank first others) (p :: s)
      = blockLines false chomping indent (.gap startsBlank first (others ++ [p.char])) s := by
  have hspace : p.char ≠ ' ' := fun hp => absurd h (by rw [hp]; decide)
  have htab : p.char ≠ '\t' := fun hp => absurd h (by rw [hp]; decide)
  simp [blockLines, hspace, htab, h]

theorem blockLines_char_in_gap {c : Char} (h : isBreak c = false) :
    blockLines false chomping indent (.gap startsBlank first others) (⟨c, line, indent⟩ :: s)
      = (blockLines false chomping indent (.line (isBlank c)) s).map
          fun (text, rest) => (first ++ others ++ c :: text, rest) := by
  simp [blockLines, h, joinLines]

end

/-- Where a block is read, with the line breaks there that count for its end, what was kept of them,
and the column. -/
inductive Stands : BlockPlace → Bool → Nat → List Char → Nat → Prop where
  | line (startsBlank : Bool) (column : Nat) : Stands (.line startsBlank) false 0 [] column
  | gap (startsBlank : Bool) (first others : List Char) :
      Stands (.gap startsBlank first others) true (others.length + 1) (first ++ others) 0

theorem blockLines_body {here : BlockPlace} {afterBreak : Bool} {n : Nat} {kept : List Char}
    (hindent : outer < indent) (htail : Ends (outer :: indents) tail)
    (h : Stands here afterBreak n kept column) :
    blockLines false (.keeping (breaksAtEnd n cs)) indent here
        (place line column (literalBody indent afterBreak cs ++ tail))
      = some (kept ++ cs, firstToken (lineAfter line (literalBody indent afterBreak cs)) tail) := by
  induction cs generalizing line column here afterBreak n kept with
  | nil =>
    cases h with
    | line startsBlank =>
      have hbody : literalBody indent false [] = ['\n'] := rfl
      rw [hbody, List.singleton_append, place_newline, blockLines_break_in_line rfl,
        blockLines_ends hindent htail]
      rfl
    | gap startsBlank first others =>
      have hbody : literalBody indent true [] = [] := rfl
      have hkept : lastBreaks (.keeping (others.length + 1)) first others = first ++ others := by
        cases others with
        | nil => exact (List.append_nil first).symm
        | cons => rfl
      rw [hbody, List.nil_append, breaksAtEnd, blockLines_ends hindent htail, hkept,
        List.append_nil]
      rfl
  | cons c cs ih =>
    cases hbreak : isBreak c with
    | true =>
      have hbody : literalBody indent afterBreak (c :: cs) = c :: literalBody indent true cs := by
        simp [literalBody, hbreak]
      have hcount : breaksAtEnd n (c :: cs) = breaksAtEnd (n + 1) cs := by
        simp [breaksAtEnd, hbreak]
      rw [hbody, hcount, List.cons_append, place_of_isBreak hbreak]
      simp only [lineAfter, hbreak, if_true]
      cases h with
      | line startsBlank =>
        rw [blockLines_break_in_line hbreak]
        exact ih (.gap startsBlank [c] [])
      | gap startsBlank first others =>
        have hread := @ih (line + 1) 0 _ _ _ _ (.gap startsBlank first (others ++ [c]))
        rw [List.length_append, List.length_singleton] at hread
        rw [blockLines_break_in_gap hbreak, hread]
        simp
    | false =>
      have hbody : literalBody indent afterBreak (c :: cs)
          = (if afterBreak then pad indent else []) ++ c :: literalBody indent false cs := by
        simp [literalBody, hbreak]
      have hcount : breaksAtEnd n (c :: cs) = breaksAtEnd 0 cs := by
        simp [breaksAtEnd, hbreak]
      have hline : ∀ xs, lineAfter line (c :: xs) = lineAfter line xs := by
        intro xs
        simp [lineAfter, hbreak]
      rw [hbody, hcount, List.append_assoc, List.cons_append]
      cases h with
      | line startsBlank =>
        have hnil : (if false = true then pad indent else []) = [] := rfl
        rw [hnil, List.nil_append, List.nil_append, List.nil_append, place_of_not_isBreak hbreak,
          blockLines_char_in_line hbreak, ih (.line startsBlank (column + 1)), hline]
        rfl
      | gap startsBlank first others =>
        rw [if_pos rfl, blockLines_pad indent (by omega), Nat.zero_add,
          place_of_not_isBreak hbreak, blockLines_char_in_gap hbreak,
          ih (.line (isBlank c) (indent + 1)), lineAfter_append, lineAfter_pad, hline]
        rfl

theorem blockScalar_literal (hne : cs ≠ []) (hprintable : Printable cs)
    (htail : Ends (outer :: indents) tail) :
    blockScalar false (some outer)
        (place line column (blockMarks cs ++ '\n' :: literalBody (outer + 2) true cs ++ tail))
      = some (cs, firstToken (lineAfter (line + 1) (literalBody (outer + 2) true cs)) tail) := by
  have hheader : blockHeader? (place line column
        (blockMarks cs ++ '\n' :: literalBody (outer + 2) true cs ++ tail))
      = some (⟨.keeping (breaksAtEnd 1 cs), if hidesIndent cs then some 2 else none⟩,
          place (line + 1) 0 (literalBody (outer + 2) true cs ++ tail)) := by
    rw [blockMarks_eq hne, List.append_assoc, List.cons_append, blockHeader?_marks]
  have hbody := @blockLines_body (line + 1) 0 (outer + 2) outer indents cs tail _ _ _ _
    (by omega) htail (.gap false [] [])
  cases hhides : hidesIndent cs with
  | true =>
    simp only [blockScalar, hheader, hhides]
    exact hbody
  | false =>
    have hdetect : detectIndent 0 (place (line + 1) 0 (literalBody (outer + 2) true cs ++ tail))
        = some (outer + 2) := by
      obtain ⟨c, rest, rfl⟩ := List.exists_cons_of_ne_nil hne
      simp only [hidesIndent, List.head?_cons, Option.any_some, Bool.or_eq_false_iff] at hhides
      have hblank : isBlank c = false := by
        rw [isBlank_of_printable (hprintable c List.mem_cons_self)]
        exact hhides.1
      simp only [isBlank, Bool.or_eq_false_iff, decide_eq_false_iff_not] at hblank
      have hlines : literalBody (outer + 2) true (c :: rest) ++ tail
          = pad (outer + 2) ++ c :: (literalBody (outer + 2) false rest ++ tail) := by
        simp [literalBody, hhides.2]
      rw [hlines, detectIndent_pad hblank.1 hblank.2 hhides.2, Nat.zero_add]
    have hmax : max (outer + 2) (max 1 (outer + 1)) = outer + 2 := by omega
    simp only [blockScalar, hheader, hhides]
    simpa [hdetect, hmax] using hbody

end Source

end Yaml
end FixtureLab

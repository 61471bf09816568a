import FixtureLab.Proofs.Yaml.Place
import FixtureLab.Yaml.FlowScalar

/-!
This module contains that plain scalars are read as they are written, up to the colon behind a key
or the line behind a value.
-/

namespace FixtureLab
namespace Yaml

namespace Text

theorem hasBreak_cons {c : Char} {cs : List Char} :
    hasBreak (c :: cs) = (isBreak c || hasBreak cs) := rfl

structure Plain (cs : List Char) : Prop where
  ne_nil : cs ≠ []
  noBreak : hasBreak cs = false
  printable : Printable cs
  startNotBlank : ∀ c, cs.head? = some c → isBlank c = false
  endNotBlank : ∀ c, cs.getLast? = some c → isBlank c = false
  noStart : hasStartIndicator cs = false
  noInner : hasInnerIndicator cs = false

theorem printable_of_not_hasSpecial {cs : List Char} (h : hasSpecial cs = false) :
    Printable cs := by
  simpa [hasSpecial, Printable] using h

theorem plain_of_plainable {cs : List Char} (hne : cs ≠ []) (h : plainable cs = true) :
    Plain cs := by
  simp only [plainable, singleQuotable, Bool.and_eq_true, Bool.not_eq_true'] at h
  obtain ⟨⟨⟨⟨hedge, hbreak⟩, ⟨-, hspecial⟩⟩, hstart⟩, hinner⟩ := h
  have hprintable := printable_of_not_hasSpecial hspecial
  simp only [hasEdge, Bool.or_eq_false_iff] at hedge
  have hblank : ∀ c ∈ cs, isSpace c = false → isBlank c = false := by
    intro c hc hspace
    rw [isBlank_of_printable (hprintable c hc)]
    exact hspace
  constructor
  case ne_nil => exact hne
  case noBreak => exact hbreak
  case printable => exact hprintable
  case startNotBlank =>
    intro c hc
    exact hblank c (List.mem_of_mem_head? hc) (by simpa [hc] using hedge.1)
  case endNotBlank =>
    intro c hc
    exact hblank c (List.mem_of_mem_getLast? hc) (by simpa [hc] using hedge.2)
  case noStart => exact hstart
  case noInner => exact hinner

theorem Plain.start {c : Char} {rest : List Char} (h : Plain (c :: rest)) :
    c ∉ startIndicators ∧ (c = '?' ∨ c = ':' ∨ c = '-' → blankNext rest = false) := by
  have hstart := h.noStart
  unfold hasStartIndicator at hstart
  split at hstart
  . cases hstart
  . cases hstart
  . next heq =>
    cases heq
    simpa [or_assoc] using hstart
  . next heq => cases heq

theorem Plain.startsToken {c : Char} {rest : List Char} (h : Plain (c :: rest)) :
    startsToken c = true := by
  have hbreak := h.noBreak
  rw [hasBreak_cons, Bool.or_eq_false_iff] at hbreak
  refine startsToken_iff.2 ⟨h.startNotBlank c rfl, hbreak.1, ?_⟩
  rintro rfl
  exact h.start.1 (by decide)

theorem Plain.noInner_cons {cs : List Char} (h : Plain cs) :
    hasInnerIndicator ('a' :: cs) = false := by
  match cs with
  | [] => rfl
  | c :: rest =>
    obtain ⟨-, hblank⟩ := h.start
    have hnumber : c ≠ '#' := (startsToken_iff.1 h.startsToken).2.2
    have hcolon : c = ':' → blankNext rest = false := fun hc => hblank (.inr (.inl hc))
    simpa [hasInnerIndicator, h.noInner, hnumber] using hcolon

end Text

namespace Source

open FixtureLab.Yaml.Text

variable {line column indent : Nat} {cs rest : List Char}

theorem atMarker_append {mark : Char} (hcs : ∀ more, cs ≠ mark :: mark :: mark :: more)
    (hrest : rest.head? ≠ some mark) : atMarker mark (place line column (cs ++ rest)) = false := by
  rw [← Bool.not_eq_true]
  intro h
  obtain ⟨more, hmore⟩ := chars_of_atMarker h
  rw [map_char_place] at hmore
  match cs with
  | [] => exact hrest (congrArg List.head? hmore)
  | [a] => exact hrest (by simp_all)
  | [a, b] => exact hrest (by simp_all)
  | a :: b :: c :: cs => exact hcs cs (by simp_all)

theorem atDocumentEdge_append (hstart : hasStartIndicator cs = false)
    (hrest : rest.head? ≠ some '-' ∧ rest.head? ≠ some '.') :
    atDocumentEdge (place line column (cs ++ rest)) = false := by
  have hdash : ∀ more, cs ≠ '-' :: '-' :: '-' :: more := by
    rintro more rfl
    cases hstart
  have hdot : ∀ more, cs ≠ '.' :: '.' :: '.' :: more := by
    rintro more rfl
    cases hstart
  rw [atDocumentEdge, atMarker_append hdash hrest.1, atMarker_append hdot hrest.2, Bool.or_false]

theorem atSpace_place_eq_false (h : blankNext cs = false) :
    atSpace (place line column (cs ++ rest)) = false := by
  match cs with
  | [] => cases h
  | c :: _ =>
    simp only [blankNext, Bool.or_eq_false_iff] at h
    simp [place_cons, atSpace, h.1]

theorem plain_append {before : Char} (blanks : List Char) (hne : cs ≠ [])
    (hbreak : hasBreak cs = false) (hend : ∀ c, cs.getLast? = some c → isBlank c = false)
    (hinner : hasInnerIndicator (before :: cs) = false)
    (hblanks : blanks ≠ [] → isBlank before = true)
    (hedge : atDocumentEdge (place line column (cs ++ rest)) = false) :
    plain false indent (.blanks blanks) (place line column (cs ++ rest))
      = (plain false indent .empty (place line (column + cs.length) rest)).map
          fun (text, broken, rest) => (blanks ++ cs ++ text, broken, rest) := by
  induction cs generalizing before blanks column with
  | nil => exact absurd rfl hne
  | cons c cs ih =>
    rw [hasBreak_cons, Bool.or_eq_false_iff] at hbreak
    simp only [hasInnerIndicator, Bool.or_eq_false_iff, Bool.and_eq_false_iff,
      decide_eq_false_iff_not] at hinner
    obtain ⟨⟨hcolon, hnumber⟩, hinner⟩ := hinner
    have hedge' : atDocumentEdge (place line (column + 1) (cs ++ rest)) = false :=
      atDocumentEdge_place_of_pos _ (Nat.succ_pos column)
    have hplace : place line column (c :: cs ++ rest)
        = ⟨c, line, column⟩ :: place line (column + 1) (cs ++ rest) :=
      place_of_not_isBreak hbreak.1 _
    have hend' : ∀ d, cs.getLast? = some d → isBlank d = false := by
      intro d hd
      exact hend d (by rw [List.getLast?_cons, hd]; rfl)
    rw [hplace] at hedge ⊢
    cases hc : isBlank c with
    | true =>
      have hcs : cs ≠ [] := by
        rintro rfl
        simp [hend c rfl] at hc
      have hread := ih (blanks ++ [c]) hcs hbreak.2 hend' hinner (fun _ => hc) hedge'
      simp [plain, hc, Gap.isBroken, Gap.add, hbreak.1, hread, Nat.add_assoc, Nat.add_comm 1]
    | false =>
      have hnumber' : (c = '#' && !(Gap.blanks blanks).isEmpty) = false := by
        rw [Bool.and_eq_false_iff, decide_eq_false_iff_not]
        refine hnumber.imp_right fun hbefore => ?_
        cases blanks with
        | nil => rfl
        | cons => simp [hblanks (List.cons_ne_nil _ _)] at hbefore
      have hcolon' : (c = ':' && atSpace (place line (column + 1) (cs ++ rest))) = false := by
        rw [Bool.and_eq_false_iff, decide_eq_false_iff_not]
        exact hcolon.imp_right atSpace_place_eq_false
      have hstep : plain false indent (.blanks blanks)
          (⟨c, line, column⟩ :: place line (column + 1) (cs ++ rest))
          = (plain false indent .empty (place line (column + 1) (cs ++ rest))).map
              fun (text, broken, rest) => (blanks ++ c :: text, broken, rest) := by
        rw [plain]
        simp only [hc, hbreak.1, hedge, hnumber', hcolon', Gap.isBroken]
        rfl
      rw [hstep]
      by_cases hcs : cs = []
      . simp [hcs]
      . have hread := ih [] hcs hbreak.2 hend' hinner (absurd rfl) hedge'
        rw [Gap.empty, hread]
        simp [Gap.empty, Function.comp_def, Nat.add_assoc, Nat.add_comm 1]

theorem plain_pad {first : Option Char} {others : List Char} (n : Nat) :
    plain false indent (.breaks first others) (place line column (pad n ++ rest))
      = plain false indent (.breaks first others) (place line (column + n) rest) := by
  induction n generalizing column with
  | zero => rfl
  | succ n ih =>
    have hstep : plain false indent (.breaks first others)
        (place line column (' ' :: (pad n ++ rest)))
        = plain false indent (.breaks first others) (place line (column + 1) (pad n ++ rest)) := by
      simp [plain, isBlank, Gap.add, isBreak]
    rw [pad_succ, List.cons_append, hstep, ih, Nat.add_assoc, Nat.add_comm 1]

theorem plain_ends {outer : Nat} {indents : List Nat} {first : Option Char}
    {others tail : List Char}
    (htail : Ends (outer :: indents) tail) :
    plain false (outer + 1) (.breaks first others) (place line 0 tail)
      = some ([], true, firstToken line tail) := by
  cases htail with
  | text => rfl
  | @line column _ _ c rest hcolumn hc =>
    have hlt : column < outer + 1 := Nat.lt_succ_of_le hcolumn
    obtain ⟨hblank, hbreak, -⟩ := startsToken_iff.1 hc
    rw [plain_pad, firstToken_pad column hc]
    simp [plain, place_cons, hblank, hbreak, Gap.isBroken, hlt]

theorem plain_of_key (h : Plain cs)
    (hrest : atSpace (place line (column + cs.length + 1) rest) = true) :
    plain false indent .empty (place line column (cs ++ ':' :: rest))
      = some (cs, false, place line (column + cs.length) (':' :: rest)) := by
  have hedge : ∀ cs column, hasStartIndicator cs = false →
      atDocumentEdge (place line column (cs ++ ':' :: rest)) = false :=
    fun cs column hstart => atDocumentEdge_append hstart (by simp)
  have hcolon : plain false indent .empty (place line (column + cs.length) (':' :: rest))
      = some ([], false, place line (column + cs.length) (':' :: rest)) := by
    have hcons : place line (column + cs.length) (':' :: rest)
        = ⟨':', line, column + cs.length⟩ :: place line (column + cs.length + 1) rest := rfl
    have hmarker := hedge [] (column + cs.length) rfl
    rw [List.nil_append, hcons] at hmarker
    simp [hcons, plain, isBlank, isBreak, Gap.empty, Gap.isBroken, hmarker, hrest]
  rw [Gap.empty, plain_append [] h.ne_nil h.noBreak h.endNotBlank h.noInner_cons (absurd rfl)
    (hedge cs column h.noStart), hcolon]
  simp

theorem plain_of_value {outer : Nat} {indents : List Nat} {tail : List Char} (h : Plain cs)
    (htail : Ends (outer :: indents) tail) :
    plain false (outer + 1) .empty (place line column (cs ++ '\n' :: tail))
      = some (cs, true, firstToken (line + 1) tail) := by
  have hedge : atDocumentEdge (place line column (cs ++ '\n' :: tail)) = false :=
    atDocumentEdge_append h.noStart (by simp)
  have hbreak : plain false (outer + 1) .empty (place line (column + cs.length) ('\n' :: tail))
      = some ([], true, firstToken (line + 1) tail) := by
    simp [plain, isBreak, Gap.add, Gap.empty, Gap.isBroken, plain_ends htail]
  rw [Gap.empty, plain_append [] h.ne_nil h.noBreak h.endNotBlank h.noInner_cons (absurd rfl) hedge,
    hbreak]
  simp

end Source

end Yaml
end FixtureLab

import FixtureLab.Proofs.Yaml.TextTokens

/-!
This module contains how the texts of collections are made up, and that they consist of printable
characters only, whatever characters are in the texts that a document holds.
-/

namespace FixtureLab
namespace Yaml

theorem block_seq (indent : Nat) (v : Value) (rest : List Value) :
    block indent (.seq (v :: rest))
      = '-' :: ' ' :: block (indent + step) v ++ blockItems indent rest :=
  rfl

theorem block_map (indent : Nat) (k : String) (v : Value) (rest : List (String × Value)) :
    block indent (.map ((k, v) :: rest))
      = Text.renderKey indent k.toList ++ blockAfterKey indent v ++ blockMembers indent rest :=
  rfl

theorem blockItems_cons (indent : Nat) (v : Value) (rest : List Value) :
    blockItems indent (v :: rest) = pad indent ++ block indent (.seq (v :: rest)) := by
  rw [block_seq]
  exact List.append_assoc _ _ _

theorem blockMembers_cons (indent : Nat) (k : String) (v : Value) (rest : List (String × Value)) :
    blockMembers indent ((k, v) :: rest) = pad indent ++ block indent (.map ((k, v) :: rest)) := by
  rw [block_map, ← List.append_assoc, ← List.append_assoc]
  rfl

theorem blockAfterKey_seq (indent : Nat) (v : Value) (rest : List Value) :
    blockAfterKey indent (.seq (v :: rest)) = '\n' :: blockItems indent (v :: rest) :=
  rfl

theorem blockAfterKey_map (indent : Nat) (m : String × Value) (rest : List (String × Value)) :
    blockAfterKey indent (.map (m :: rest)) = '\n' :: blockMembers (indent + step) (m :: rest) :=
  rfl

open Printable (cons_iff append_iff)

namespace Text

theorem printable_singleBody {cs : List Char} (indent : Nat) (afterBreak : Bool)
    (h : Printable cs) :
    Printable (singleBody indent afterBreak cs) := by
  have hpad := Printable.pad indent
  induction cs generalizing afterBreak with
  | nil =>
    cases afterBreak with
    | true => exact hpad
    | false => exact List.forall_mem_nil _
  | cons c cs ih =>
    obtain ⟨hc, hcs⟩ := cons_iff.1 h
    rw [singleBody]
    split
    . exact cons_iff.2 ⟨hc, ih _ hcs⟩
    . split
      . exact cons_iff.2 ⟨hc, ih _ hcs⟩
      . refine append_iff.2 ⟨append_iff.2 ⟨?_, ?_⟩, cons_iff.2 ⟨hc, ih _ hcs⟩⟩
        . split
          . exact hpad
          . decide
        . split <;> decide

theorem printable_literalBody {cs : List Char} (indent : Nat) (afterBreak : Bool)
    (h : Printable cs) :
    Printable (literalBody indent afterBreak cs) := by
  have hpad := Printable.pad indent
  induction cs generalizing afterBreak with
  | nil => cases afterBreak <;> exact of_decide_eq_true rfl
  | cons c cs ih =>
    obtain ⟨hc, hcs⟩ := cons_iff.1 h
    rw [literalBody]
    split
    . exact cons_iff.2 ⟨hc, ih _ hcs⟩
    . refine append_iff.2 ⟨?_, cons_iff.2 ⟨hc, ih _ hcs⟩⟩
      split
      . exact hpad
      . decide

theorem printable_hexDigits (width n : Nat) : Printable (hexDigits width n) := by
  induction width generalizing n with
  | zero => exact List.forall_mem_nil _
  | succ width ih =>
    have hdigit : ∀ d < 16, isPrintable (Nat.digitChar d).toUpper = true := by decide
    refine append_iff.2 ⟨ih _, cons_iff.2 ⟨hdigit _ (Nat.mod_lt n (by decide)), by decide⟩⟩

theorem printable_escapeChar (c : Char) : Printable (escapeChar c) := by
  unfold escapeChar
  split
  . next h =>
    simp only [Bool.and_eq_true] at h
    exact cons_iff.2 ⟨h.1.1.1, by decide⟩
  . refine cons_iff.2 ⟨rfl, ?_⟩
    split
    case h_15 =>
      split
      . exact cons_iff.2 ⟨rfl, printable_hexDigits _ _⟩
      . split <;> exact cons_iff.2 ⟨rfl, printable_hexDigits _ _⟩
    all_goals exact cons_iff.2 ⟨rfl, by decide⟩

theorem printable_blockMarks {cs : List Char} (hne : cs ≠ []) : Printable (blockMarks cs) := by
  rw [blockMarks_eq hne]
  refine append_iff.2 ⟨?_, ?_⟩
  . split <;> decide
  . cases Chomping.keeping (breaksAtEnd 1 cs) <;> decide

theorem printable_render (indent : Nat) (cs : List Char) : Printable (render indent cs) := by
  have hfits := fits_style cs
  cases hstyle : style cs with
  | plain =>
    rw [hstyle] at hfits
    simp only [render, hstyle]
    exact append_iff.2 ⟨hfits.1.printable, by decide⟩
  | singleQuoted =>
    rw [hstyle] at hfits
    simp only [render, hstyle]
    refine cons_iff.2 ⟨rfl, append_iff.2 ⟨?_, by decide⟩⟩
    exact printable_singleBody indent false hfits.printable
  | doubleQuoted =>
    simp only [render, hstyle]
    refine cons_iff.2 ⟨rfl, append_iff.2 ⟨?_, by decide⟩⟩
    intro d hd
    obtain ⟨c, -, hc⟩ := List.mem_flatMap.1 hd
    exact printable_escapeChar c d hc
  | literal =>
    rw [hstyle] at hfits
    simp only [render, hstyle]
    refine cons_iff.2 ⟨rfl, append_iff.2 ⟨printable_blockMarks (List.ne_nil_of_mem hfits.1), ?_⟩⟩
    exact cons_iff.2 ⟨rfl, printable_literalBody indent true hfits.2⟩
  | folded =>
    rw [hstyle] at hfits
    exact hfits.elim

theorem printable_renderKey (indent : Nat) (cs : List Char) : Printable (renderKey indent cs) := by
  have hcolon : Printable [':'] := by decide
  unfold renderKey
  split
  . refine append_iff.2 ⟨fun c hc => printable_render indent cs c ?_, hcolon⟩
    exact (List.dropLast_sublist _).subset hc
  . refine cons_iff.2 ⟨rfl, cons_iff.2 ⟨rfl, ?_⟩⟩
    exact append_iff.2 ⟨append_iff.2 ⟨printable_render _ cs, .pad indent⟩, hcolon⟩

end Text

mutual

theorem printable_block (indent : Nat) (v : Value) : Printable (block indent v) := by
  match v with
  | .null | .bool true | .bool false | .seq [] | .map [] => exact of_decide_eq_true rfl
  | .str s => exact Text.printable_render indent s.toList
  | .seq (v :: rest) =>
    rw [block_seq]
    refine append_iff.2 ⟨cons_iff.2 ⟨rfl, cons_iff.2 ⟨rfl, ?_⟩⟩, ?_⟩
    . exact printable_block (indent + step) v
    . exact printable_blockItems indent rest
  | .map ((k, v) :: rest) =>
    rw [block_map]
    refine append_iff.2 ⟨append_iff.2 ⟨Text.printable_renderKey indent k.toList, ?_⟩, ?_⟩
    . exact printable_blockAfterKey indent v
    . exact printable_blockMembers indent rest

theorem printable_blockItems (indent : Nat) (vs : List Value) :
    Printable (blockItems indent vs) := by
  match vs with
  | [] => exact of_decide_eq_true rfl
  | v :: rest =>
    rw [blockItems_cons, block_seq]
    refine append_iff.2 ⟨.pad indent, append_iff.2 ⟨cons_iff.2 ⟨rfl, cons_iff.2 ⟨rfl, ?_⟩⟩, ?_⟩⟩
    . exact printable_block (indent + step) v
    . exact printable_blockItems indent rest

theorem printable_blockMembers (indent : Nat) (ms : List (String × Value)) :
    Printable (blockMembers indent ms) := by
  match ms with
  | [] => exact of_decide_eq_true rfl
  | (k, v) :: rest =>
    rw [blockMembers_cons, block_map]
    refine append_iff.2 ⟨.pad indent, append_iff.2 ⟨append_iff.2 ⟨?_, ?_⟩, ?_⟩⟩
    . exact Text.printable_renderKey indent k.toList
    . exact printable_blockAfterKey indent v
    . exact printable_blockMembers indent rest

theorem printable_blockAfterKey (indent : Nat) (v : Value) :
    Printable (blockAfterKey indent v) := by
  match v with
  | .null | .bool true | .bool false | .seq [] | .map [] => exact of_decide_eq_true rfl
  | .str s => exact cons_iff.2 ⟨rfl, Text.printable_render _ s.toList⟩
  | .seq (v :: rest) =>
    rw [blockAfterKey_seq]
    exact cons_iff.2 ⟨rfl, printable_blockItems indent (v :: rest)⟩
  | .map (m :: rest) =>
    rw [blockAfterKey_map]
    exact cons_iff.2 ⟨rfl, printable_blockMembers (indent + step) (m :: rest)⟩

end

end Yaml
end FixtureLab

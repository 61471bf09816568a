import FixtureLab.Proofs.Yaml.Reading

/-!
This module contains how the marks of block collections are read: the hyphen of an item, and the
question mark and the colon of a key. The first one at a column opens a block there.
-/

namespace FixtureLab
namespace Yaml
namespace Lexer

open Source (place place_of_not_isBreak)

inductive Opens (column : Nat) (t : Token) :
    List Nat → List Token → List Nat → List Token → Prop where
  | before (indents : List Nat) (tokens : List Token) :
      Opens column t (column :: indents) tokens (column :: indents) tokens
  | here {indents : List Nat} (tokens : List Token) (h : indents.head?.all (· < column)) :
      Opens column t indents tokens (column :: indents) (t :: tokens)

variable {keyAllowed : Bool} {indents indents' : List Nat} {tokens tokens' : List Token} {t : Token}
  {line column : Nat} {c : Char} {cs : List Char} {p : Placed} {rest s : Source} {m : Lexer}

namespace Opens

theorem le (h : Opens column t indents tokens indents' tokens') :
    ∀ i, indents.head? = some i → i ≤ column := by
  rintro i hi
  cases h with
  | before => exact Nat.le_of_eq (Option.some.inj hi).symm
  | here _ h =>
    rw [hi] at h
    exact Nat.le_of_lt (by simpa using h)

theorem openBlock (h : Opens column t indents tokens indents' tokens') :
    (between keyAllowed indents tokens s).openBlock column tokens.length t
      = between keyAllowed indents' tokens' s := by
  cases h with
  | before => simp [Lexer.openBlock, between]
  | here _ h => simp [Lexer.openBlock, between, inFlow, h, insert]

end Opens

theorem head?_le_of_lt {outer : Nat} (h : outer < column) :
    ∀ i, (outer :: indents).head? = some i → i ≤ column := by
  rintro i ⟨⟩
  exact Nat.le_of_lt h

theorem atMarker_of_ne {mark : Char} (h : p.char ≠ mark) :
    Source.atMarker mark (p :: s) = false := by
  match s with
  | [] | [_] => rfl
  | _ :: _ :: _ => simp [Source.atMarker, h]

theorem Leads.of_read_between (hc : startsToken c = true)
    (hcolumn : ∀ i, indents.head? = some i → i ≤ column)
    (hread : (between keyAllowed indents tokens s).read ⟨c, line, column⟩
        (place line (column + 1) cs)
      = some m)
    (hs : s = place line column (c :: cs))
    (hlength : m.rest.length ≤ cs.length) : Leads (between keyAllowed indents tokens s) m := by
  subst hs
  have hplace : place line column (c :: cs) = ⟨c, line, column⟩ :: place line (column + 1) cs :=
    place_of_not_isBreak (startsToken_iff.1 hc).2.1 cs
  have hprepare := @prepare_between _ keyAllowed indents tokens
    (@skip_of_startsToken false keyAllowed line column c cs hc)
  rw [hplace, List.head?_cons, Option.map_some, closeBlocks_of_le hcolumn, ← hplace]
    at hprepare
  refine .of_read hprepare hplace hread ?_
  simp only [between, Source.length_place, List.length_cons]
  omega

theorem Leads.skip (hs : Lexer.skip false keyAllowed false s = (keyAllowed, rest))
    (hrest : Lexer.skip false keyAllowed false rest = (keyAllowed, rest))
    (hlength : rest.length ≤ s.length) :
    Leads (between keyAllowed indents tokens s) (between keyAllowed indents tokens rest) :=
  .settle rfl rfl (fun _ h => nomatch h) hs hrest hlength

theorem Leads.space (hc : startsToken c = true) :
    Leads (between keyAllowed indents tokens (place line column (' ' :: c :: cs)))
      (between keyAllowed indents tokens (place line (column + 1) (c :: cs))) :=
  .skip (skip_pad 1 hc) (skip_of_startsToken hc) (by simp)

theorem read_item (h : Opens column .blockSeq indents tokens indents' tokens')
    (hrest : rest.head?.map (·.char) = some ' ') :
    (between true indents tokens s).read ⟨'-', line, column⟩ rest
      = some (between true indents' (.item :: tokens') rest) := by
  obtain ⟨q, rest, rfl⟩ : ∃ q rest', rest = q :: rest' := by
    cases rest with
    | nil => cases hrest
    | cons q rest => exact ⟨q, rest, rfl⟩
  have hq : q.char = ' ' := by simpa using hrest
  have hmarker : Source.atMarker '-' (⟨'-', line, column⟩ :: q :: rest) = false := by
    cases rest <;> simp [Source.atMarker, hq]
  have hread : (between true indents tokens s).read ⟨'-', line, column⟩ (q :: rest)
      = (between true indents tokens s).readItem ⟨'-', line, column⟩ (q :: rest) := by
    simp [read, hmarker, atMarker_of_ne, Source.atSpace, isBlank, hq]
  rw [hread]
  change ((between true indents tokens s).openBlock column tokens.length .blockSeq).dropKey.map _
    = _
  rw [h.openBlock]
  rfl

theorem read_key (h : Opens column .blockMap indents tokens indents' tokens')
    (hrest : Source.atSpace rest = true) :
    (between true indents tokens s).read ⟨'?', line, column⟩ rest
      = some (between true indents' (.key :: tokens') rest) := by
  have hread : (between true indents tokens s).read ⟨'?', line, column⟩ rest
      = (between true indents tokens s).readKey ⟨'?', line, column⟩ rest := by
    simp [read, atMarker_of_ne, hrest]
  rw [hread]
  change ((between true indents tokens s).openBlock column tokens.length .blockMap).dropKey.map _
    = _
  rw [h.openBlock]
  rfl

theorem read_colon (hrest : Source.atSpace rest = true) (l : Lexer) :
    l.read ⟨':', line, column⟩ rest = l.readValue ⟨':', line, column⟩ rest := by
  simp [read, atMarker_of_ne, hrest]

theorem Leads.item (h : Opens column .blockSeq indents tokens indents' tokens')
    (hc : startsToken c = true) :
    Leads (between true indents tokens (place line column ('-' :: ' ' :: c :: cs)))
      (between true indents' (.item :: tokens') (place line (column + 2) (c :: cs))) :=
  .trans (.of_read_between rfl h.le (read_item h rfl) rfl (by simp [between])) (.space hc)

theorem Leads.key (h : Opens column .blockMap indents tokens indents' tokens')
    (hc : startsToken c = true) :
    Leads (between true indents tokens (place line column ('?' :: ' ' :: c :: cs)))
      (between true indents' (.key :: tokens') (place line (column + 2) (c :: cs))) :=
  .trans (.of_read_between rfl h.le (read_key h rfl) rfl (by simp [between])) (.space hc)

theorem Leads.value (hcs : Source.atSpace (place line (column + 1) cs) = true) :
    Leads (between true (column :: indents) tokens (place line column (':' :: cs)))
      (between true (column :: indents) (.value :: tokens) (place line (column + 1) cs)) := by
  have hopens := @Opens.before column .blockMap indents tokens
  refine .of_read_between rfl hopens.le ((read_colon hcs _).trans ?_) rfl (by simp [between])
  have hread : ∀ s,
      (between true (column :: indents) tokens s).openBlock column tokens.length .blockMap
        = between true (column :: indents) tokens s := fun s => hopens.openBlock
  simp only [readValue, between, inFlow] at hread ⊢
  rw [hread]
  rfl

def behindKey (indents : List Nat) (tokens : List Token) (line column : Nat) (t : Token)
    (s : Source) : Lexer :=
  { rest := s, indents, keyAllowed := false, tokens := t :: tokens, count := tokens.length + 1,
    key := some {
      required := indents.head? = some column
      index := tokens.length
      line
      column } }

theorem Leads.simpleKey {column' : Nat} (h : Opens column .blockMap indents tokens indents' tokens')
    (hcolumn : column ≤ column') (hlength : column' ≤ column + maxKeyLength)
    (hcs : Source.atSpace (place line (column' + 1) cs) = true) :
    Leads (behindKey indents tokens line column t (place line column' (':' :: cs)))
      (between false indents' (.value :: t :: .key :: tokens') (place line (column' + 1) cs)) := by
  have hplace : place line column' (':' :: cs)
      = ⟨':', line, column'⟩ :: place line (column' + 1) cs :=
    place_of_not_isBreak rfl cs
  have hnext : ¬column + maxKeyLength < column' := Nat.not_lt.2 hlength
  have hprepare : (behindKey indents tokens line column t (place line column' (':' :: cs))).prepare
      = some (behindKey indents tokens line column t (place line column' (':' :: cs))) := by
    have hskip := @skip_of_startsToken false false line column' ':' cs rfl
    have hread : ∀ s, (behindKey indents tokens line column t s).closeBlocks (some column')
        = behindKey indents tokens line column t s :=
      fun s => closeBlocks_of_le fun i hi => Nat.le_trans (h.le i hi) hcolumn
    simp only [prepare, behindKey, inFlow, List.isEmpty_nil, Bool.not_true] at hread ⊢
    rw [hskip, hplace]
    simp [refreshKeys, refreshKey, hnext, hread, setRest]
  refine .of_read hprepare hplace ((read_colon hcs _).trans ?_) (by simp [between, behindKey])
  cases h with
  | before => simp [readValue, behindKey, between, insert, openBlock, emit]
  | here _ h =>
    have hindex : tokens.length + 1 + 1 - tokens.length = 2 := by omega
    simp [readValue, behindKey, between, insert, openBlock, emit, inFlow, h, hindex]

end Lexer
end Yaml
end FixtureLab

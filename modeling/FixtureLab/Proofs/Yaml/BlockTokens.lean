import FixtureLab.Proofs.Yaml.PrintedText

/-!
This module contains the tokens of a value, and that they are what is read of its text in block
style.
-/

namespace FixtureLab
namespace Yaml

def textToken (s : String) : Token := .scalar (Text.style s.toList) s.toList

namespace Value

mutual

def tokens (ofMember : Bool) : Value → List Token
  | .null => [.scalar .plain "null".toList]
  | .bool true => [.scalar .plain "true".toList]
  | .bool false => [.scalar .plain "false".toList]
  | .str s => [textToken s]
  | .seq [] => [.openSeq, .closeSeq]
  | .seq (v :: rest) =>
    if ofMember then .item :: tokens false v ++ itemTokens rest
    else .blockSeq :: (.item :: tokens false v ++ itemTokens rest) ++ [.blockEnd]
  | .map [] => [.openMap, .closeMap]
  | .map ((k, v) :: rest) =>
    .blockMap :: (.key :: textToken k :: .value :: tokens true v ++ memberTokens rest)
      ++ [.blockEnd]

def itemTokens : List Value → List Token
  | [] => []
  | v :: rest => .item :: tokens false v ++ itemTokens rest

def memberTokens : List (String × Value) → List Token
  | [] => []
  | (k, v) :: rest => .key :: textToken k :: .value :: tokens true v ++ memberTokens rest

end

def isInline : Value → Bool
  | .seq (_ :: _) => false
  | .map (_ :: _) => false
  | _ => true

end Value

theorem blockAfterKey_of_isInline {v : Value} (h : v.isInline = true) (indent : Nat) :
    blockAfterKey indent v = ' ' :: block (indent + step) v := by
  match v with
  | .null | .bool true | .bool false | .str _ | .seq [] | .map [] => rfl

namespace Text

theorem exists_render (indent : Nat) (cs : List Char) :
    ∃ c rest, render indent cs = c :: rest ∧ startsToken c = true := by
  have hfits := fits_style cs
  cases hstyle : style cs with
  | plain =>
    rw [hstyle] at hfits
    obtain ⟨c, cs, rfl⟩ := List.exists_cons_of_ne_nil hfits.1.ne_nil
    exact ⟨c, cs ++ ['\n'], by simp [render, hstyle], hfits.1.startsToken⟩
  | singleQuoted => exact ⟨_, _, by rw [render, hstyle]; rfl, rfl⟩
  | doubleQuoted => exact ⟨_, _, by rw [render, hstyle]; rfl, rfl⟩
  | literal => exact ⟨_, _, by rw [render, hstyle]; rfl, rfl⟩
  | folded =>
    rw [hstyle] at hfits
    exact hfits.elim

theorem exists_renderKey (indent : Nat) (cs : List Char) :
    ∃ c rest, renderKey indent cs = c :: rest ∧ startsToken c = true := by
  unfold renderKey
  split
  . obtain ⟨c, rest, hrender, hc⟩ := exists_render indent cs
    rw [hrender]
    cases rest with
    | nil => exact ⟨_, _, rfl, rfl⟩
    | cons d rest => exact ⟨_, _, rfl, hc⟩
  . exact ⟨_, _, rfl, rfl⟩

end Text

theorem exists_block (indent : Nat) (v : Value) :
    ∃ c rest, block indent v = c :: rest ∧ startsToken c = true := by
  match v with
  | .str s => exact Text.exists_render indent s.toList
  | .seq (v :: rest) => exact ⟨_, _, block_seq indent v rest, rfl⟩
  | .map ((k, v) :: rest) =>
    obtain ⟨c, cs, hkey, hc⟩ := Text.exists_renderKey indent k.toList
    exact ⟨c, _, by rw [block_map, hkey]; rfl, hc⟩
  | .null | .bool true | .bool false | .seq [] | .map [] => exact ⟨_, _, rfl, rfl⟩

namespace Lexer

open Source (place firstToken firstToken_pad place_of_not_isBreak place_newline)

variable {b : Bool} {indents indents' : List Nat} {outer line column : Nat}
  {tokens tokens' : List Token} {t t' : Token} {c c' : Char} {cs tail : List Char}

def inside (key : Option KeyStart) (indents : List Nat) (tokens : List Token) (s : Source) :
    Lexer :=
  { rest := s, indents, outerKeys := [key], tokens, count := tokens.length }

theorem prepare_inside {key : Option KeyStart} (hc : startsToken c = true)
    (hkey : ∀ k, key = some k → k.line = line ∧ column ≤ k.column + maxKeyLength) :
    (inside key indents tokens (place line column (c :: cs))).prepare
      = some (inside key indents tokens (place line column (c :: cs))) := by
  have hplace : place line column (c :: cs) = ⟨c, line, column⟩ :: place line (column + 1) cs :=
    place_of_not_isBreak (startsToken_iff.1 hc).2.1 cs
  have hrefresh : refreshKey ⟨c, line, column⟩ key = some key := by
    cases key with
    | none => rfl
    | some k =>
      obtain ⟨hline, hcolumn⟩ := hkey k rfl
      simp [refreshKey, hline, hcolumn]
  have hskip := @skip_of_startsToken true true line column c cs hc
  have hflow : ∀ s, (inside key indents tokens s).inFlow = true := fun _ => rfl
  rw [hplace] at hskip ⊢
  have hkeys : [key].mapM (refreshKey ⟨c, line, column⟩) = some [key] := by
    rw [List.mapM_cons, hrefresh]
    rfl
  simp only [prepare, hflow]
  simp only [inside, hskip, refreshKeys, hkeys]
  rfl

theorem Leads.emptyFlow (houter : outer < column) (htail : Ends (outer :: indents) tail)
    (hc : startsToken c = true) (hc' : startsToken c' = true)
    (hopen : ∀ (l : Lexer) s, l.read ⟨c, line, column⟩ s = l.readOpen t ⟨c, line, column⟩ s)
    (hclose : ∀ (l : Lexer) s, l.read ⟨c', line, column + 1⟩ s = l.readClose t' s) :
    Leads (between b (outer :: indents) tokens (place line column (c :: c' :: '\n' :: tail)))
      (between true (outer :: indents) (t' :: t :: tokens) (firstToken (line + 1) tail)) := by
  -- The place where a key may start is kept for the end of the collection.
  obtain ⟨key, hkey⟩ : ∃ key, key
      = (Lexer.behindText b false (outer :: indents) tokens ⟨c, line, column⟩ t []).key := ⟨_, rfl⟩
  have hstart : ∀ k, key = some k → k.line = line ∧ k.column = column ∧ k.required = false := by
    cases b with
    | false =>
      subst hkey
      exact fun _ h => nomatch h
    | true =>
      have hne : outer ≠ column := Nat.ne_of_lt houter
      subst hkey
      rintro k ⟨⟩
      simp [hne]
  have hfirst : ∀ s s', (between b (outer :: indents) tokens s).readOpen t ⟨c, line, column⟩ s'
      = some (inside key (outer :: indents) (t :: tokens) s') := by
    subst hkey
    cases b <;> exact fun _ _ => rfl
  have hprepare := @prepare_inside (outer :: indents) line (column + 1) (t :: tokens) c'
    ('\n' :: tail) key hc' fun k hk =>
      ⟨(hstart k hk).1, by simp only [(hstart k hk).2.1, maxKeyLength]; omega⟩
  have hplace : place line (column + 1) (c' :: '\n' :: tail)
      = ⟨c', line, column + 1⟩ :: place line (column + 2) ('\n' :: tail) :=
    place_of_not_isBreak (startsToken_iff.1 hc').2.1 _
  have hsecond : ∀ s s', (inside key (outer :: indents) (t :: tokens) s).readClose t' s'
      = some { between false (outer :: indents) (t' :: t :: tokens) s' with key } :=
    fun _ _ => rfl
  have hlength := @Source.length_firstToken_le (line + 1) tail
  refine .trans (.of_read_between hc (head?_le_of_lt houter) ((hopen _ _).trans (hfirst _ _))
      rfl ?_)
    (.trans (.of_read hprepare hplace ((hclose _ _).trans (hsecond _ _)) ?_)
      (@Leads.settle { between false (outer :: indents) (t' :: t :: tokens) _ with key } _ true
        rfl rfl ?_ (skip_newline htail) (skip_firstToken htail) ?_))
  . simp [inside]
  . simp [between, inside]
  . exact fun k hk => ⟨(hstart k hk).2.2, fun q hq => by
      rw [htail.line_firstToken hq, (hstart k hk).1]
      exact Nat.lt_succ_self line⟩
  . simp only [between, Source.length_place, List.length_cons]
    omega

theorem Leads.inline {v : Value} (hv : v.isInline = true) (ofMember : Bool)
    (houter : outer < column)
    (htail : Ends (outer :: indents) tail) :
    ∃ line', Leads
      (between b (outer :: indents) tokens (place line column (block (outer + 2) v ++ tail)))
      (between true (outer :: indents) ((v.tokens ofMember).reverse ++ tokens)
        (firstToken line' tail)) := by
  match v with
  | .null =>
    exact ⟨_, .plain_value houter htail (Text.plain_of_plainable (by decide) (by decide))⟩
  | .bool true =>
    exact ⟨_, .plain_value houter htail (Text.plain_of_plainable (by decide) (by decide))⟩
  | .bool false =>
    exact ⟨_, .plain_value houter htail (Text.plain_of_plainable (by decide) (by decide))⟩
  | .str s => exact Leads.text_value houter htail s.toList
  | .seq [] =>
    have htext : block (outer + 2) (.seq []) ++ tail = '[' :: ']' :: '\n' :: tail := rfl
    rw [htext]
    refine ⟨_, .emptyFlow houter htail rfl rfl (fun l s => ?_) (fun l s => ?_)⟩ <;>
      simp [read, atMarker_of_ne]
  | .map [] =>
    have htext : block (outer + 2) (.map []) ++ tail = '\x7b' :: '\x7d' :: '\n' :: tail := rfl
    rw [htext]
    refine ⟨_, .emptyFlow houter htail rfl rfl (fun l s => ?_) (fun l s => ?_)⟩ <;>
      simp [read, atMarker_of_ne]

theorem Leads.inlineAfterKey {v : Value} (hv : v.isInline = true) (houter : outer < column)
    (htail : Ends (outer :: indents) tail) :
    ∃ line', Leads (between b (outer :: indents) tokens
        (place line column (blockAfterKey outer v ++ tail)))
      (between true (outer :: indents) ((v.tokens true).reverse ++ tokens)
        (firstToken line' tail)) := by
  obtain ⟨c, cs, hblock, hc⟩ := exists_block (outer + 2) v
  obtain ⟨line', hread⟩ := @Leads.inline b indents outer line (column + 1) tokens tail v hv true
    (Nat.lt_succ_of_lt houter) htail
  have hspace := @Leads.space b (outer :: indents) tokens line column c (cs ++ tail) hc
  rw [← List.cons_append, ← hblock] at hspace
  rw [blockAfterKey_of_isInline hv]
  exact ⟨line', .trans hspace hread⟩

theorem Leads.newline (htail : Ends indents tail) :
    Leads (between b indents' tokens (place line column ('\n' :: tail)))
      (between true indents' tokens (firstToken (line + 1) tail)) := by
  have hlength := @Source.length_firstToken_le (line + 1) tail
  refine .settle rfl rfl (fun _ h => nomatch h) (skip_newline htail) (skip_firstToken htail) ?_
  simp only [between, Source.length_place, List.length_cons]
  omega

theorem Leads.keyAndColon (h : Opens column .blockMap indents tokens (column :: indents') tokens')
    (k : String) (after : List Char)
    (hafter : ∀ line column, Source.atSpace (place line column after) = true) :
    ∃ b line' column', column < column'
      ∧ Leads (between true indents tokens
          (place line column (Text.renderKey column k.toList ++ after)))
        (between b (column :: indents') (.value :: textToken k :: .key :: tokens')
          (place line' column' after)) := by
  unfold Text.renderKey
  split
  . next hkey =>
    obtain ⟨column', hle, hlength, hread⟩ := @Leads.text_key indents line column tokens k.toList
      after column h.le hkey hafter
    rw [List.append_assoc, List.singleton_append]
    exact ⟨false, line, column' + 1, Nat.lt_succ_of_le hle,
      .trans hread (.simpleKey h hle hlength (hafter line (column' + 1)))⟩
  . obtain ⟨c, cs, hrender, hc⟩ := Text.exists_render (column + 2) k.toList
    have hends : Ends (column :: indents') (pad column ++ ':' :: after) :=
      .line indents' after (Nat.le_refl column) rfl
    obtain ⟨line', hread⟩ := @Leads.text_value true indents' column line (column + 2)
      (.key :: tokens') (pad column ++ ':' :: after) (by omega) hends k.toList
    have hcolon : firstToken line' (pad column ++ ':' :: after)
        = place line' column (':' :: after) :=
      firstToken_pad column rfl after
    rw [hcolon] at hread
    refine ⟨true, line', column + 1, Nat.lt_succ_self column, .trans ?_ (.trans hread
      (.value (hafter line' (column + 1))))⟩
    have hmark := @Leads.key indents (column :: indents') tokens tokens' line column c
      (cs ++ (pad column ++ ':' :: after)) h hc
    rw [← List.cons_append, ← hrender] at hmark
    simpa [step] using hmark

theorem ends_block (v : Value) (after : List Char) :
    Ends (column :: indents) (pad column ++ (block column v ++ after)) := by
  obtain ⟨c, cs, hblock, hc⟩ := exists_block column v
  rw [hblock]
  exact .line indents _ (Nat.le_refl column) hc

theorem ends_blockItems (vs : List Value) (htail : Ends (column :: indents) tail) :
    Ends (column :: indents) (blockItems column vs ++ tail) := by
  cases vs with
  | nil => exact htail
  | cons v rest =>
    rw [blockItems_cons, List.append_assoc]
    exact ends_block _ tail

theorem ends_blockMembers (ms : List (String × Value)) (htail : Ends (column :: indents) tail) :
    Ends (column :: indents) (blockMembers column ms ++ tail) := by
  cases ms with
  | nil => exact htail
  | cons m rest =>
    rw [blockMembers_cons, List.append_assoc]
    exact ends_block _ tail

theorem atSpace_blockAfterKey (v : Value) (after : List Char) :
    Source.atSpace (place line column (blockAfterKey outer v ++ after)) = true := by
  match v with
  | .null | .bool true | .bool false | .str _ | .seq [] | .map [] => rfl
  | .seq (_ :: _) | .map (_ :: _) => rfl

theorem firstToken_block (v : Value) (after : List Char) :
    firstToken line (pad column ++ (block column v ++ after))
      = place line column (block column v ++ after) := by
  obtain ⟨c, cs, hblock, hc⟩ := exists_block column v
  rw [hblock]
  exact firstToken_pad column hc _

theorem firstToken_blockItems (v : Value) (rest : List Value) :
    firstToken line (blockItems column (v :: rest) ++ tail)
      = place line column (block column (.seq (v :: rest)) ++ tail) := by
  rw [blockItems_cons, List.append_assoc, firstToken_block]

theorem firstToken_blockMembers (k : String) (v : Value) (rest : List (String × Value)) :
    firstToken line (blockMembers column ((k, v) :: rest) ++ tail)
      = place line column (block column (.map ((k, v) :: rest)) ++ tail) := by
  rw [blockMembers_cons, List.append_assoc, firstToken_block]

mutual

theorem leads_block (v : Value) (outer : Nat) (indents : List Nat) (tokens : List Token)
    (line : Nat)
    (tail : List Char) (htail : Ends (outer :: indents) tail) :
    ∃ line', Leads (between true (outer :: indents) tokens
        (place line (outer + 2) (block (outer + 2) v ++ tail)))
      (between true (outer :: indents) ((v.tokens false).reverse ++ tokens)
        (firstToken line' tail)) := by
  have hcolumn : (outer :: indents).head?.all (· < outer + 2) := by simp
  match v with
  | .null | .bool true | .bool false | .str _ | .seq [] | .map [] =>
    exact Leads.inline rfl false (by omega) htail
  | .seq (v :: rest) =>
    obtain ⟨line', hread⟩ := leads_items (v :: rest) (List.cons_ne_nil _ _) (outer + 2) _ tokens _ _
      line tail (.here tokens hcolumn) (htail.inner (by omega))
    have hclose := @Leads.close (outer :: indents)
      ((Value.itemTokens (v :: rest)).reverse ++ .blockSeq :: tokens) line' (outer + 2) tail
      hcolumn htail
    rw [← firstToken_blockItems]
    exact ⟨line', .trans hread (by simpa [Value.tokens, Value.itemTokens] using hclose)⟩
  | .map ((k, v) :: rest) =>
    obtain ⟨line', hread⟩ := leads_members ((k, v) :: rest) (List.cons_ne_nil _ _) (outer + 2) _
      tokens _ _ line tail (.here tokens hcolumn) (htail.inner (by omega))
    have hclose := @Leads.close (outer :: indents)
      ((Value.memberTokens ((k, v) :: rest)).reverse ++ .blockMap :: tokens) line' (outer + 2) tail
      hcolumn htail
    rw [← firstToken_blockMembers]
    exact ⟨line', .trans hread (by simpa [Value.tokens, Value.memberTokens] using hclose)⟩

theorem leads_items (vs : List Value) (hvs : vs ≠ []) (column : Nat) (indents : List Nat)
    (tokens : List Token) (indents' : List Nat) (tokens' : List Token) (line : Nat)
    (tail : List Char) (h : Opens column .blockSeq indents tokens (column :: indents') tokens')
    (htail : Ends (column :: indents') tail) :
    ∃ line', Leads (between true indents tokens (firstToken line (blockItems column vs ++ tail)))
      (between true (column :: indents') ((Value.itemTokens vs).reverse ++ tokens')
        (firstToken line' tail)) := by
  match vs with
  | [] => exact absurd rfl hvs
  | v :: rest =>
    obtain ⟨c, cs, hblock, hc⟩ := exists_block (column + 2) v
    have hitem := @Leads.item indents (column :: indents') tokens tokens' line column c
      (cs ++ (blockItems column rest ++ tail)) h hc
    rw [← List.cons_append, ← hblock] at hitem
    obtain ⟨line', hvalue⟩ := leads_block v column indents' (.item :: tokens') line
      (blockItems column rest ++ tail) (ends_blockItems rest htail)
    have htext : block column (.seq (v :: rest)) ++ tail
        = '-' :: ' ' :: (block (column + 2) v ++ (blockItems column rest ++ tail)) := by
      rw [block_seq, List.append_assoc]
      rfl
    rw [firstToken_blockItems, htext]
    match rest with
    | [] =>
      have hend : blockItems column [] ++ tail = tail := rfl
      exact ⟨line', .trans hitem (by simpa [Value.itemTokens, hend] using hvalue)⟩
    | w :: rest =>
      obtain ⟨line'', hrest⟩ := leads_items (w :: rest) (List.cons_ne_nil _ _) column _ _ indents' _
        line' tail (.before indents' ((v.tokens false).reverse ++ .item :: tokens')) htail
      exact ⟨line'', .trans hitem (.trans hvalue (by simpa [Value.itemTokens] using hrest))⟩

theorem leads_members (ms : List (String × Value)) (hms : ms ≠ []) (column : Nat)
    (indents : List Nat) (tokens : List Token) (indents' : List Nat) (tokens' : List Token)
    (line : Nat) (tail : List Char)
    (h : Opens column .blockMap indents tokens (column :: indents') tokens')
    (htail : Ends (column :: indents') tail) :
    ∃ line', Leads (between true indents tokens (firstToken line (blockMembers column ms ++ tail)))
      (between true (column :: indents') ((Value.memberTokens ms).reverse ++ tokens')
        (firstToken line' tail)) := by
  match ms with
  | [] => exact absurd rfl hms
  | (k, v) :: rest =>
    obtain ⟨b, line₁, column₁, hlt, hkey⟩ := @Leads.keyAndColon indents indents' line column tokens
      tokens' h k (blockAfterKey column v ++ (blockMembers column rest ++ tail))
      fun _ _ => atSpace_blockAfterKey v _
    obtain ⟨line', hvalue⟩ := leads_afterKey v b column column₁ indents'
      (.value :: textToken k :: .key :: tokens') line₁ (blockMembers column rest ++ tail) hlt
      (ends_blockMembers rest htail)
    rw [firstToken_blockMembers, block_map, List.append_assoc, List.append_assoc]
    match rest with
    | [] =>
      have hend : blockMembers column [] ++ tail = tail := rfl
      exact ⟨line', .trans hkey (by simpa [Value.memberTokens, hend] using hvalue)⟩
    | m :: rest =>
      obtain ⟨line'', hrest⟩ :=
        leads_members (m :: rest) (List.cons_ne_nil _ _) column _ _ indents' _
        line' tail (.before indents'
          ((v.tokens true).reverse ++ .value :: textToken k :: .key :: tokens')) htail
      exact ⟨line'', .trans hkey (.trans hvalue (by simpa [Value.memberTokens] using hrest))⟩

theorem leads_afterKey (v : Value) (b : Bool) (outer column : Nat) (indents : List Nat)
    (tokens : List Token) (line : Nat) (tail : List Char) (houter : outer < column)
    (htail : Ends (outer :: indents) tail) :
    ∃ line', Leads (between b (outer :: indents) tokens
        (place line column (blockAfterKey outer v ++ tail)))
      (between true (outer :: indents) ((v.tokens true).reverse ++ tokens)
        (firstToken line' tail)) := by
  match v with
  | .null | .bool true | .bool false | .str _ | .seq [] | .map [] =>
    exact Leads.inlineAfterKey rfl houter htail
  | .seq (v :: rest) =>
    obtain ⟨line', hread⟩ := leads_items (v :: rest) (List.cons_ne_nil _ _) outer _ tokens indents _
      (line + 1) tail (.before indents tokens) htail
    rw [blockAfterKey_seq, List.cons_append]
    exact ⟨line', .trans (.newline (ends_blockItems (v :: rest) htail)) hread⟩
  | .map ((k, v) :: rest) =>
    have hinner : Ends ((outer + 2) :: outer :: indents) tail := htail.inner (by omega)
    have hcolumn : (outer :: indents).head?.all (· < outer + 2) := by simp
    obtain ⟨line', hread⟩ := leads_members ((k, v) :: rest) (List.cons_ne_nil _ _) (outer + 2) _
      tokens _ _ (line + 1) tail (.here tokens hcolumn) hinner
    have hclose := @Leads.close (outer :: indents)
      ((Value.memberTokens ((k, v) :: rest)).reverse ++ .blockMap :: tokens) line' (outer + 2) tail
      hcolumn htail
    rw [blockAfterKey_map, List.cons_append]
    exact ⟨line', .trans (.newline (ends_blockMembers ((k, v) :: rest) hinner))
      (.trans hread (by simpa [Value.tokens, Value.memberTokens] using hclose))⟩

end

theorem leads_document {v : Value} (hv : v.isInline = false) :
    Leads (between true [] [] (place 0 0 v.render))
      (between true [] (v.tokens false).reverse []) := by
  match v with
  | .seq (v :: rest) =>
    have hstart : place 0 0 (Value.seq (v :: rest)).render
        = firstToken 0 (blockItems 0 (v :: rest) ++ []) := by
      rw [firstToken_blockItems, List.append_nil]
      rfl
    obtain ⟨line', hread⟩ := leads_items (v :: rest) (List.cons_ne_nil _ _) 0 [] [] [] _ 0 []
      (.here [] rfl) (.text [0])
    have hclose :=
      @Leads.close [] ((Value.itemTokens (v :: rest)).reverse ++ [.blockSeq]) line' 0 []
      rfl (.text [])
    rw [hstart]
    exact .trans hread (by simpa [Value.tokens, Value.itemTokens, firstToken] using hclose)
  | .map ((k, v) :: rest) =>
    have hstart : place 0 0 (Value.map ((k, v) :: rest)).render
        = firstToken 0 (blockMembers 0 ((k, v) :: rest) ++ []) := by
      rw [firstToken_blockMembers, List.append_nil]
      rfl
    obtain ⟨line', hread⟩ := leads_members ((k, v) :: rest) (List.cons_ne_nil _ _) 0 [] [] [] _ 0 []
      (.here [] rfl) (.text [0])
    have hclose := @Leads.close [] ((Value.memberTokens ((k, v) :: rest)).reverse ++ [.blockMap])
      line' 0 [] rfl (.text [])
    rw [hstart]
    exact .trans hread (by simpa [Value.tokens, Value.memberTokens, firstToken] using hclose)

end Lexer

theorem tokens?_render {v : Value} (hv : v.isInline = false) :
    tokens? v.render = some (v.tokens false) := by
  have hread := (Lexer.leads_document hv).run_eq
  rw [List.reverse_reverse] at hread
  have hprintable : Printable v.render := printable_block 0 v
  rw [tokens?, Source.ofChars?_of_printable hprintable]
  exact hread

end Yaml
end FixtureLab

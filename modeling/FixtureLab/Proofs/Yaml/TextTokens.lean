import FixtureLab.Proofs.Yaml.LiteralText
import FixtureLab.Proofs.Yaml.Marks
import FixtureLab.Proofs.Yaml.PlainText
import FixtureLab.Proofs.Yaml.QuotedText

/-!
This module contains that the text of a scalar is read as one token, in whatever style it is
written, both as a value and as a key that is not marked.
-/

namespace FixtureLab
namespace Yaml

namespace Text

theorem isPlainText_ne_nil {cs : List Char} (h : Scalar.isPlainText cs = true) : cs ≠ [] := by
  rintro rfl
  cases h

def Fits : Style → List Char → Prop
  | .plain, cs => Plain cs ∧ Scalar.isPlainText cs = true
  | .singleQuoted, cs => SingleQuoted cs
  | .doubleQuoted, _ => True
  | .literal, cs => '\n' ∈ cs ∧ Printable cs
  | .folded, _ => False

theorem fits_style (cs : List Char) : Fits (style cs) cs := by
  unfold style
  split
  . next hnewline =>
    split
    . next h =>
      simp only [literalable, Bool.and_eq_true, Bool.not_eq_true'] at h
      exact ⟨by simpa using hnewline, printable_of_not_hasSpecial h.2⟩
    . trivial
  . next hnewline =>
    split
    . next h =>
      rw [Bool.and_eq_true] at h
      exact ⟨plain_of_plainable (isPlainText_ne_nil h.1) h.2, h.1⟩
    . split
      . next h =>
        simp only [singleQuotable, Bool.and_eq_true, Bool.not_eq_true'] at h
        exact ⟨h.1.1, h.1.2, printable_of_not_hasSpecial h.2, by simpa using hnewline⟩
      . trivial

theorem length_flatMap_le {f : Char → List Char} {k : Nat} (h : ∀ c, (f c).length ≤ k)
    (cs : List Char) : (cs.flatMap f).length ≤ k * cs.length := by
  induction cs with
  | nil => simp
  | cons c cs ih =>
    have hc := h c
    rw [List.flatMap_cons, List.length_append, List.length_cons, Nat.mul_succ]
    omega

theorem length_le_utf8Length (cs : List Char) : cs.length ≤ utf8Length cs := by
  unfold utf8Length
  induction cs with
  | nil => exact Nat.zero_le _
  | cons c cs ih =>
    have hc := c.utf8Size_pos
    rw [String.ofList_cons, String.utf8ByteSize_append, String.utf8ByteSize_singleton,
      List.length_cons]
    omega

theorem length_le_of_isSimpleKey {cs : List Char} (h : isSimpleKey cs = true) :
    cs.length ≤ maxSimpleKey := by
  simp only [isSimpleKey, Bool.and_eq_true, decide_eq_true_eq] at h
  exact Nat.le_trans (length_le_utf8Length cs) h.2

end Text

namespace Lexer

open Source (place firstToken firstToken_pad place_of_not_isBreak place_newline)
open FixtureLab.Yaml.Text

variable {b broken : Bool} {indents : List Nat} {outer line column line' : Nat}
  {tokens : List Token} {t : Token} {c : Char} {cs tail after : List Char} {p : Placed}
  {s s' rest : Source} {l : Lexer}

def behindText (b broken : Bool) (indents : List Nat) (tokens : List Token) (p : Placed) (t : Token)
    (s : Source) : Lexer :=
  { (if b then behindKey indents tokens p.line p.column t s
      else between false indents (t :: tokens) s) with
    keyAllowed := broken }

@[simp]
theorem rest_behindText : (behindText b broken indents tokens p t s).rest = s := by
  cases b <;> rfl

theorem readInline_between :
    (between b indents tokens s).readInline t p s'
      = some (behindText b false indents tokens p t s') := by
  cases b <;> rfl

theorem read_plain (hflow : l.inFlow = false) (hcs : Plain (c :: cs))
    (hedge : Source.atDocumentEdge (place line column (c :: cs ++ after)) = false) :
    l.read ⟨c, line, column⟩ (place line (column + 1) (cs ++ after))
      = l.readPlain ⟨c, line, column⟩ (place line column (c :: cs ++ after)) := by
  obtain ⟨hstart, hindicator⟩ := hcs.start
  obtain ⟨hblank, hbreak, -⟩ := startsToken_iff.1 hcs.startsToken
  have hplace : place line column (c :: cs ++ after)
      = ⟨c, line, column⟩ :: place line (column + 1) (cs ++ after) :=
    place_of_not_isBreak hbreak _
  have hspace : c = '?' ∨ c = ':' ∨ c = '-' →
      Source.atSpace (place line (column + 1) (cs ++ after)) = false :=
    fun hc => Source.atSpace_place_eq_false (hindicator hc)
  rw [hplace] at hedge ⊢
  simp only [Source.atDocumentEdge, Bool.or_eq_false_iff] at hedge
  simp only [startIndicators, List.mem_cons, not_or] at hstart
  by_cases hc : c = '?' ∨ c = ':' ∨ c = '-'
  . have hnot := hspace hc
    rcases hc with rfl | rfl | rfl <;> simp [read, hedge, hnot, hflow]
  . have hchars : "-?:#&*!|>\'\"%@\x60".toList
        = ['-', '?', ':', '#', '&', '*', '!', '|', '>', '\'', '"', '%', '@', '\x60'] := rfl
    rw [not_or, not_or] at hc
    have hindicator : isIndicator c = false := by
      rw [isIndicator, hchars]
      simp [Source.isFlowIndicator, hstart, hc]
    simp [read, hedge, hstart, hc, hflow, hblank, hindicator]

theorem readPlain_between {text : List Char}
    (h : Source.plain false ((indents.head?.map (· + 1)).getD 0) .empty s
      = some (text, broken, s')) :
    (between b indents tokens rest).readPlain p s
      = some (behindText b broken indents tokens p (.scalar .plain text) s') := by
  change (Source.plain false ((indents.head?.map (· + 1)).getD 0) .empty s).bind _ = _
  rw [h]
  cases b <;> rfl

theorem read_singleQuoted {indent : Nat} (hcs : SingleQuoted cs) (hindent : 0 < indent)
    (hafter : after.head? ≠ some '\'') (l : Lexer) :
    l.read ⟨'\'', line, column⟩
        (place line (column + 1) (singleBody indent false cs ++ '\'' :: after))
      = l.readInline (.scalar .singleQuoted cs) ⟨'\'', line, column⟩
          (place (Source.lineAfter line (singleBody indent false cs))
            (Source.columnAfter (column + 1) (singleBody indent false cs) + 1) after) := by
  have hbody := @Source.singleQuoted_body line (column + 1) indent cs after .empty false hcs
    (.blanks (absurd rfl)) hindent (fun _ => Nat.succ_pos column) hafter
  have hgap : Gap.empty.text = [] := rfl
  simp [read, atMarker_of_ne, hbody, hgap]

theorem read_doubleQuoted (cs : List Char) (l : Lexer) :
    l.read ⟨'"', line, column⟩ (place line (column + 1) (cs.flatMap escapeChar ++ '"' :: after))
      = l.readInline (.scalar .doubleQuoted cs) ⟨'"', line, column⟩
          (place line (column + 1 + (cs.flatMap escapeChar).length + 1) after) := by
  simp [read, atMarker_of_ne, Gap.empty, Source.doubleQuoted_text]

theorem read_literal (hflow : l.inFlow = false) :
    l.read ⟨'|', line, column⟩ s = l.readBlockScalar false s := by
  simp [read, atMarker_of_ne, hflow]

theorem Leads.behindText (houter : outer < p.column) (htail : Ends (outer :: indents) tail)
    (hskip : Lexer.skip false broken false s = (true, firstToken line' tail))
    (hline : p.line < line')
    (hlength : (firstToken line' tail).length ≤ s.length) :
    Leads (behindText b broken (outer :: indents) tokens p t s)
      (between true (outer :: indents) (t :: tokens) (firstToken line' tail)) := by
  have hlapsed : Lapsed (firstToken line' tail)
      (Lexer.behindText b broken (outer :: indents) tokens p t s).key := by
    cases b with
    | false => exact fun _ h => nomatch h
    | true =>
      rintro k ⟨⟩
      refine ⟨?_, fun q hq => ?_⟩
      . have hne : outer ≠ p.column := Nat.ne_of_lt houter
        simp [hne]
      . rw [htail.line_firstToken hq]
        exact hline
  have hsettle := @Leads.settle (Lexer.behindText b broken (outer :: indents) tokens p t s)
    (firstToken line' tail) true
  cases b <;> exact hsettle rfl rfl hlapsed hskip (skip_firstToken htail) hlength

section Value

variable (houter : outer < column) (htail : Ends (outer :: indents) tail)
include houter htail

theorem Leads.plain_value (hcs : Plain cs) :
    Leads (between b (outer :: indents) tokens (place line column (cs ++ '\n' :: tail)))
      (between true (outer :: indents) (.scalar .plain cs :: tokens)
        (firstToken (line + 1) tail)) := by
  obtain ⟨c, cs, rfl⟩ := List.exists_cons_of_ne_nil hcs.ne_nil
  have hedge : Source.atDocumentEdge (place line column (c :: cs ++ '\n' :: tail)) = false :=
    Source.atDocumentEdge_append hcs.noStart (by simp)
  have hread : ∀ s, (between b (outer :: indents) tokens s).read ⟨c, line, column⟩
      (place line (column + 1) (cs ++ '\n' :: tail))
      = some (Lexer.behindText b true (outer :: indents) tokens ⟨c, line, column⟩
          (.scalar .plain (c :: cs)) (firstToken (line + 1) tail)) := by
    intro s
    rw [read_plain rfl hcs hedge]
    exact readPlain_between (Source.plain_of_value hcs htail)
  have hlength := @Source.length_firstToken_le (line + 1) tail
  refine .trans (.of_read_between hcs.startsToken (head?_le_of_lt houter) (hread _) rfl ?_)
    (.behindText houter htail (skip_firstToken htail) (Nat.lt_succ_self line) (Nat.le_refl _))
  rw [rest_behindText, List.length_append, List.length_cons]
  omega

theorem Leads.quoted_value {column' : Nat} {inner : List Char} (hc : startsToken c = true)
    (hread : ∀ l : Lexer, l.read ⟨c, line, column⟩ (place line (column + 1) inner)
      = l.readInline t ⟨c, line, column⟩ (place line' column' ('\n' :: tail)))
    (hline : line ≤ line') (hlength : tail.length < inner.length) :
    Leads (between b (outer :: indents) tokens (place line column (c :: inner)))
      (between true (outer :: indents) (t :: tokens) (firstToken (line' + 1) tail)) := by
  have hfirst := @Source.length_firstToken_le (line' + 1) tail
  refine .trans
    (.of_read_between hc (head?_le_of_lt houter) ((hread _).trans readInline_between) rfl ?_)
    (.behindText houter htail (skip_newline htail) (Nat.lt_succ_of_le hline) ?_)
  . rw [rest_behindText, Source.length_place]
    exact hlength
  . rw [Source.length_place, List.length_cons]
    omega

theorem Leads.singleQuoted_value (hcs : SingleQuoted cs) :
    ∃ line', Leads (between b (outer :: indents) tokens
        (place line column ('\'' :: (singleBody (outer + 2) false cs ++ '\'' :: '\n' :: tail))))
      (between true (outer :: indents) (.scalar .singleQuoted cs :: tokens)
        (firstToken line' tail)) :=
  ⟨_, .quoted_value houter htail rfl (read_singleQuoted hcs (by omega) (by simp))
    (Source.le_lineAfter _) (by simp; omega)⟩

theorem Leads.doubleQuoted_value (cs : List Char) :
    Leads (between b (outer :: indents) tokens
        (place line column ('"' :: (cs.flatMap escapeChar ++ '"' :: '\n' :: tail))))
      (between true (outer :: indents) (.scalar .doubleQuoted cs :: tokens)
        (firstToken (line + 1) tail)) :=
  .quoted_value houter htail rfl (read_doubleQuoted cs) (Nat.le_refl line) (by simp; omega)

theorem Leads.literal_value (hne : cs ≠ []) (hcs : Printable cs) :
    ∃ line', Leads (between b (outer :: indents) tokens
        (place line column
          ('|' :: (blockMarks cs ++ '\n' :: literalBody (outer + 2) true cs ++ tail))))
      (between true (outer :: indents) (.scalar .literal cs :: tokens)
        (firstToken line' tail)) := by
  have hblock := @Source.blockScalar_literal line (column + 1) outer indents cs tail hne hcs htail
  have hread : ∀ s, (between b (outer :: indents) tokens s).readBlockScalar false
      (place line (column + 1) (blockMarks cs ++ '\n' :: literalBody (outer + 2) true cs ++ tail))
      = some (between true (outer :: indents) (.scalar .literal cs :: tokens)
          (firstToken (Source.lineAfter (line + 1) (literalBody (outer + 2) true cs)) tail)) := by
    intro s
    change (Source.blockScalar false (some outer) _).bind _ = _
    rw [hblock]
    rfl
  have hlength := @Source.length_firstToken_le
    (Source.lineAfter (line + 1) (literalBody (outer + 2) true cs)) tail
  refine ⟨_, .of_read_between rfl (head?_le_of_lt houter) ((read_literal rfl).trans (hread _))
    rfl ?_⟩
  simp only [between, List.length_append, List.length_cons]
  omega

theorem Leads.text_value (cs : List Char) :
    ∃ line', Leads (between b (outer :: indents) tokens
        (place line column (Text.render (outer + 2) cs ++ tail)))
      (between true (outer :: indents) (.scalar (style cs) cs :: tokens)
        (firstToken line' tail)) := by
  have hfits := fits_style cs
  cases hstyle : style cs with
  | plain =>
    have htext : Text.render (outer + 2) cs ++ tail = cs ++ '\n' :: tail := by
      simp [Text.render, hstyle]
    rw [htext]
    rw [hstyle] at hfits
    exact ⟨_, .plain_value houter htail hfits.1⟩
  | singleQuoted =>
    have htext : Text.render (outer + 2) cs ++ tail
        = '\'' :: (singleBody (outer + 2) false cs ++ '\'' :: '\n' :: tail) := by
      simp [Text.render, hstyle]
    rw [htext]
    rw [hstyle] at hfits
    exact Leads.singleQuoted_value houter htail hfits
  | doubleQuoted =>
    have htext : Text.render (outer + 2) cs ++ tail
        = '"' :: (cs.flatMap escapeChar ++ '"' :: '\n' :: tail) := by
      simp [Text.render, hstyle]
    rw [htext]
    exact ⟨_, .doubleQuoted_value houter htail cs⟩
  | literal =>
    have htext : Text.render (outer + 2) cs ++ tail
        = '|' :: (blockMarks cs ++ '\n' :: literalBody (outer + 2) true cs ++ tail) := by
      simp [Text.render, hstyle]
    rw [htext]
    rw [hstyle] at hfits
    exact Leads.literal_value houter htail (List.ne_nil_of_mem hfits.1) hfits.2
  | folded =>
    rw [hstyle] at hfits
    exact hfits.elim

end Value

section Key

variable {after : List Char} {indents' : List Nat} {tokens' : List Token} {column' : Nat}

theorem Leads.quoted_key {inner : List Char} (hcolumn : ∀ i, indents.head? = some i → i ≤ column)
    (hc : startsToken c = true)
    (hread : ∀ l : Lexer, l.read ⟨c, line, column⟩ (place line (column + 1) inner)
      = l.readInline t ⟨c, line, column⟩ (place line column' (':' :: after)))
    (hlength : after.length < inner.length) :
    Leads (between true indents tokens (place line column (c :: inner)))
      (behindKey indents tokens line column t (place line column' (':' :: after))) := by
  refine .of_read_between hc hcolumn ((hread _).trans readInline_between) rfl ?_
  change (place line column' (':' :: after)).length ≤ inner.length
  rw [Source.length_place]
  exact hlength

theorem Leads.plain_key (hcolumn : ∀ i, indents.head? = some i → i ≤ column) (hcs : Plain cs)
    (hafter : Source.atSpace (place line (column + cs.length + 1) after) = true) :
    Leads (between true indents tokens (place line column (cs ++ ':' :: after)))
      (behindKey indents tokens line column (.scalar .plain cs)
        (place line (column + cs.length) (':' :: after))) := by
  obtain ⟨c, cs, rfl⟩ := List.exists_cons_of_ne_nil hcs.ne_nil
  have hedge : Source.atDocumentEdge (place line column (c :: cs ++ ':' :: after)) = false :=
    Source.atDocumentEdge_append hcs.noStart (by simp)
  have hread : ∀ s, (between true indents tokens s).read ⟨c, line, column⟩
      (place line (column + 1) (cs ++ ':' :: after))
      = some (behindKey indents tokens line column (.scalar .plain (c :: cs))
          (place line (column + (c :: cs).length) (':' :: after))) := by
    intro s
    rw [read_plain rfl hcs hedge]
    exact readPlain_between (Source.plain_of_key hcs hafter)
  refine .of_read_between hcs.startsToken hcolumn (hread _) rfl ?_
  simp [behindKey]

theorem Leads.text_key {indent : Nat} (hcolumn : ∀ i, indents.head? = some i → i ≤ column)
    (hkey : isSimpleKey cs = true)
    (hafter : ∀ line column, Source.atSpace (place line column after) = true) :
    ∃ column', column ≤ column' ∧ column' ≤ column + maxKeyLength
      ∧ Leads (between true indents tokens
          (place line column ((Text.render indent cs).dropLast ++ ':' :: after)))
        (behindKey indents tokens line column (.scalar (style cs) cs)
          (place line column' (':' :: after))) := by
  have hlength : cs.length ≤ 128 := length_le_of_isSimpleKey hkey
  have hbreak : hasBreak cs = false := by
    simp only [isSimpleKey, Bool.and_eq_true, Bool.not_eq_true'] at hkey
    exact hkey.1
  have hfits := fits_style cs
  cases hstyle : style cs with
  | plain =>
    rw [hstyle] at hfits
    have htext : (Text.render indent cs).dropLast = cs := by simp [Text.render, hstyle]
    rw [htext]
    refine ⟨column + cs.length, by omega, by simp only [maxKeyLength]; omega, ?_⟩
    exact .plain_key hcolumn hfits.1 (hafter line _)
  | singleQuoted =>
    rw [hstyle] at hfits
    have htext : Text.render indent cs = '\'' :: (cs.flatMap quoteChar ++ ['\'']) ++ ['\n'] := by
      simp [Text.render, hstyle, singleBody_of_noBreak hbreak]
    have hquotes := length_flatMap_le length_quoteChar_le cs
    have hread := @read_singleQuoted line column cs (':' :: after) 1 hfits (by decide) (by simp)
    have hinner := hasBreak_flatMap_quoteChar hbreak
    rw [singleBody_of_noBreak hbreak, Source.lineAfter_of_noBreak hinner,
      Source.columnAfter_of_noBreak hinner] at hread
    rw [htext, List.dropLast_concat, List.cons_append, List.append_assoc]
    refine ⟨_, ?_, ?_, .quoted_key hcolumn rfl hread (by simp; omega)⟩
    . omega
    . simp only [maxKeyLength]
      omega
  | doubleQuoted =>
    have htext : Text.render indent cs = '"' :: (cs.flatMap escapeChar ++ ['"']) ++ ['\n'] := by
      simp [Text.render, hstyle]
    have hescapes := length_flatMap_le length_escapeChar_le cs
    have hread := @read_doubleQuoted line column (':' :: after) cs
    rw [htext, List.dropLast_concat, List.cons_append, List.append_assoc]
    refine ⟨_, ?_, ?_, .quoted_key hcolumn rfl hread (by simp; omega)⟩
    . omega
    . simp only [maxKeyLength]
      omega
  | literal =>
    rw [hstyle] at hfits
    have hnewline : hasBreak cs = true := List.any_eq_true.2 ⟨_, hfits.1, rfl⟩
    rw [hbreak] at hnewline
    cases hnewline
  | folded =>
    rw [hstyle] at hfits
    exact hfits.elim

end Key

end Lexer

end Yaml
end FixtureLab

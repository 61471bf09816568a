import FixtureLab.Proofs.Json.Spelling

/-!
This module contains that the text of a value is read as the tokens of the value, in every layout
that puts blanks only between them.
-/

namespace FixtureLab
namespace Json

namespace Scan

theorem hexValue?_hexDigit (n : Nat) : hexValue? (hexDigit n) = some (n % 16) := by
  have hdigit : ∀ d < 16, hexValue? (Nat.digitChar d) = some d := by decide
  exact hdigit _ (Nat.mod_lt n (by decide))

theorem foldlM_escapeChar (c : Char) (seen : List Piece) (done : List Token) (rest : List Char) :
    (escapeChar c ++ rest).foldlM step (.str seen, done)
      = rest.foldlM step (.str (Piece.ofChar c :: seen), done) := by
  unfold escapeChar
  split
  case h_8 hquote hslash hb hf hn hr ht =>
    have hquote : c ≠ '"' := hquote
    have hslash : c ≠ '\\' := hslash
    split
    . next hlow =>
      have hcode : c.toNat / 16 % 16 * 16 + c.toNat % 16 = c.toNat := by omega
      have hzero : hexValue? '0' = some 0 := rfl
      have hpiece : Piece.ofChar c = .unit c.toNat := by
        simpa [Piece.ofChar, hlow] using ⟨hb, hf, hn, hr, ht⟩
      simp [List.foldlM_cons, step, hexValue?_hexDigit, hzero, hpiece, Nat.mul_comm 16, hcode]
    . next hlow =>
      simp [List.foldlM_cons, step, hquote, hslash, hlow, Piece.ofChar]
  all_goals rfl

theorem foldlM_quote (s : String) (done : List Token) (rest : List Char) :
    (quote s.toList ++ rest).foldlM step (.between, done)
      = rest.foldlM step (.between, .str (pieces s) :: done) := by
  suffices ∀ (cs : List Char) (seen : List Piece),
      (cs.flatMap escapeChar ++ '"' :: rest).foldlM step (.str seen, done)
        = rest.foldlM step (.between, .str (seen.reverse ++ cs.map Piece.ofChar) :: done) by
    have hopen : (quote s.toList ++ rest).foldlM step (.between, done)
        = (s.toList.flatMap escapeChar ++ '"' :: rest).foldlM step (.str [], done) := by
      simp only [quote, List.cons_append, List.append_assoc]
      rfl
    rw [hopen, this]
    rfl
  intro cs
  induction cs with
  | nil =>
    intro seen
    rw [List.map_nil, List.append_nil]
    rfl
  | cons c cs ih =>
    intro seen
    rw [List.flatMap_cons, List.append_assoc, foldlM_escapeChar, ih, List.reverse_cons,
      List.append_assoc]
    rfl

theorem forall_isBlank {p : Char → Prop} (hspace : p ' ') (hnewline : p '\n') (htab : p '\t')
    (hreturn : p '\r') {c : Char} (h : isBlank c) : p c := by
  simp only [isBlank, Bool.or_eq_true, decide_eq_true_eq] at h
  obtain ((rfl | rfl) | rfl) | rfl := h <;> assumption

theorem foldlM_blanks {cs : List Char} (h : ∀ c ∈ cs, isBlank c) (done : List Token)
    (rest : List Char) :
    (cs ++ rest).foldlM step (.between, done) = rest.foldlM step (.between, done) := by
  induction cs with
  | nil => rfl
  | cons c cs ih =>
    obtain ⟨hc, hcs⟩ := List.forall_mem_cons.1 h
    have hstart : start done c = some (.between, done) := by
      refine forall_isBlank (p := fun c => start done c = _) ?_ ?_ ?_ ?_ hc <;> rfl
    simp only [List.cons_append, List.foldlM_cons, step, hstart]
    exact ih hcs

theorem start_of_isWordChar {c : Char} (h : isWordChar c) (done : List Token) :
    start done c = some (.word [c], done) := by
  unfold start
  split
  case h_8 =>
    have hblank : ¬isBlank c := by
      intro hblank
      revert h
      refine forall_isBlank (p := fun c => isWordChar c → False) ?_ ?_ ?_ ?_ hblank <;> decide
    simp [hblank, h]
  all_goals exact absurd h (by decide)

theorem start_of_isDigit {c : Char} (h : c.isDigit ∨ c = '-') (done : List Token) :
    start done c = some (.number [c], done) := by
  unfold start
  split
  case h_8 =>
    have hblank : ¬isBlank c := by
      intro hblank
      revert h
      refine forall_isBlank (p := fun c => c.isDigit ∨ c = '-' → False) ?_ ?_ ?_ ?_ hblank
      all_goals decide
    have hword : isWordChar c = false := by
      rcases h with h | rfl
      . refine Bool.eq_false_iff.2 fun hlower => ?_
        have hlow : 'a'.val ≤ c.val := of_decide_eq_true ((Bool.and_eq_true _ _).mp hlower).1
        have hhigh := (Char.isDigit_iff_toNat.1 h).2
        exact absurd (Nat.le_trans (UInt32.le_iff_toNat_le.1 hlow) hhigh) (by decide)
      . rfl
    simp [hblank, hword, h]
  all_goals exact absurd h (by decide)

theorem foldlM_gather {state : List Char → Scan} {p : Char → Prop} {done : List Token}
    (hstep : ∀ seen c, p c → step (state seen, done) c = some (state (c :: seen), done))
    {cs : List Char} (hcs : ∀ c ∈ cs, p c) (seen rest : List Char) :
    (cs ++ rest).foldlM step (state seen, done)
      = rest.foldlM step (state (cs.reverse ++ seen), done) := by
  induction cs generalizing seen with
  | nil => rfl
  | cons c cs ih =>
    obtain ⟨hc, hcs⟩ := List.forall_mem_cons.1 hcs
    rw [List.cons_append, List.foldlM_cons, hstep seen c hc, List.reverse_cons, List.append_assoc]
    exact ih hcs (c :: seen)

def Ends (cs : List Char) : Prop :=
  ∃ c rest, cs = c :: rest ∧ isWordChar c = false ∧ isNumberChar c = false

theorem foldlM_word {cs rest : List Char} {token : Token} (hcs : ∀ c ∈ cs, isWordChar c)
    (htoken : wordToken? cs = some token) (hrest : Ends rest) (done : List Token) :
    (cs ++ rest).foldlM step (.between, done) = rest.foldlM step (.between, token :: done) := by
  have hstep : ∀ seen c, isWordChar c →
      step (.word seen, done) c = some (.word (c :: seen), done) := by
    intro seen c hc
    simp [step, hc]
  obtain ⟨d, rest, rfl, hd, -⟩ := hrest
  cases cs with
  | nil => cases htoken
  | cons c cs =>
    obtain ⟨hc, hcs⟩ := List.forall_mem_cons.1 hcs
    -- The first character opens the word, the others are gathered until `d` completes it.
    rw [List.cons_append, List.foldlM_cons]
    simp only [step, start_of_isWordChar hc]
    refine (foldlM_gather hstep hcs [c] _).trans ?_
    simp [List.foldlM_cons, step, hd, htoken]

theorem foldlM_number {cs rest : List Char} {l : Literal} (hcs : ∀ c ∈ cs, c.isDigit ∨ c = '-')
    (hl : Literal.ofChars? cs = some l) (hrest : Ends rest) (done : List Token) :
    (cs ++ rest).foldlM step (.between, done) = rest.foldlM step (.between, .number l :: done) := by
  have hstep : ∀ seen c, c.isDigit ∨ c = '-' →
      step (.number seen, done) c = some (.number (c :: seen), done) := by
    intro seen c hc
    have hnumber : isNumberChar c := by rcases hc with hc | rfl <;> simp_all [isNumberChar]
    simp [step, hnumber]
  obtain ⟨d, rest, rfl, -, hd⟩ := hrest
  cases cs with
  | nil => cases hl
  | cons c cs =>
    obtain ⟨hc, hcs⟩ := List.forall_mem_cons.1 hcs
    rw [List.cons_append, List.foldlM_cons]
    simp only [step, start_of_isDigit hc]
    refine (foldlM_gather hstep hcs [c] _).trans ?_
    simp [List.foldlM_cons, step, hd, hl]

theorem foldlM_intText (n : Int) {rest : List Char} (hrest : Ends rest) (done : List Token) :
    (intText n ++ rest).foldlM step (.between, done)
      = rest.foldlM step (.between, .number (.ofInt n) :: done) :=
  foldlM_number (fun _ => Literal.mem_intText) (Literal.ofChars?_intText n) hrest done

end Scan

structure Layout.Blank (layout : Layout) : Prop where
  newline : ∀ depth, ∀ c ∈ layout.newline depth, Scan.isBlank c
  colon : ∃ blanks, layout.colon = ':' :: blanks ∧ ∀ c ∈ blanks, Scan.isBlank c

theorem Layout.blank_compact : Layout.compact.Blank where
  newline := by simp [compact]
  colon := ⟨[], rfl, by simp⟩

theorem Layout.blank_pretty : Layout.pretty.Blank where
  newline := by
    intro depth c hc
    rcases List.mem_cons.1 hc with rfl | hc
    . rfl
    . rw [List.eq_of_mem_replicate hc]
      rfl
  colon := ⟨[' '], rfl, by simp [Scan.isBlank]⟩

namespace Layout.Blank

open Scan

variable {layout : Layout} (h : layout.Blank)
include h

theorem foldlM_newline (depth : Nat) (done : List Token) (rest : List Char) :
    (layout.newline depth ++ rest).foldlM step (.between, done)
      = rest.foldlM step (.between, done) :=
  foldlM_blanks (h.newline depth) done rest

theorem foldlM_colon (done : List Token) (rest : List Char) :
    (layout.colon ++ rest).foldlM step (.between, done)
      = rest.foldlM step (.between, .colon :: done) := by
  obtain ⟨blanks, hcolon, hblanks⟩ := h.colon
  rw [hcolon]
  exact foldlM_blanks hblanks (.colon :: done) rest

theorem ends_newline (depth : Nat) {c : Char} (hc : isWordChar c = false)
    (hc' : isNumberChar c = false) (rest : List Char) :
    Ends (layout.newline depth ++ c :: rest) := by
  cases hnewline : layout.newline depth with
  | nil => exact ⟨c, rest, rfl, hc, hc'⟩
  | cons d ds =>
    have hd : isBlank d := h.newline depth d (hnewline ▸ List.mem_cons_self)
    refine ⟨d, ds ++ c :: rest, rfl, ?_, ?_⟩
    . refine forall_isBlank (p := fun c => isWordChar c = false) ?_ ?_ ?_ ?_ hd <;> rfl
    . refine forall_isBlank (p := fun c => isNumberChar c = false) ?_ ?_ ?_ ?_ hd <;> rfl

theorem ends_renderItems (depth : Nat) (items : List Json) (rest : List Char) :
    Ends (renderItems layout depth items ++ rest) := by
  cases items with
  | nil =>
    rw [renderItems, List.append_assoc]
    exact h.ends_newline depth rfl rfl rest
  | cons v items => exact ⟨',', _, rfl, rfl, rfl⟩

theorem ends_renderMembers (depth : Nat) (members : List (String × Json)) (rest : List Char) :
    Ends (renderMembers layout depth members ++ rest) := by
  cases members with
  | nil =>
    rw [renderMembers, List.append_assoc]
    exact h.ends_newline depth rfl rfl rest
  | cons m members => exact ⟨',', _, rfl, rfl, rfl⟩

end Layout.Blank

namespace Scan

variable {layout : Layout}

mutual

theorem foldlM_render (h : layout.Blank) (v : Json) (hv : v.floatFree) (depth : Nat)
    (done : List Token) {rest : List Char} (hrest : Ends rest) :
    (render layout depth v ++ rest).foldlM step (.between, done)
      = rest.foldlM step (.between, v.toRaw.tokens.reverse ++ done) := by
  match v with
  | .null =>
    rw [render]
    exact foldlM_word (List.all_eq_true.1 rfl) rfl hrest done
  | .bool true =>
    rw [render]
    exact foldlM_word (List.all_eq_true.1 rfl) rfl hrest done
  | .bool false =>
    rw [render]
    exact foldlM_word (List.all_eq_true.1 rfl) rfl hrest done
  | .int n => exact foldlM_intText n hrest done
  | .str s => exact foldlM_quote s done rest
  | .arr [] => rfl
  | .obj [] => rfl
  | .arr (v :: items) =>
    obtain ⟨hv, hitems⟩ := (Bool.and_eq_true _ _).mp hv
    have hopen : ∀ cs : List Char, ('[' :: cs).foldlM step (.between, done)
        = cs.foldlM step (.between, .openArr :: done) := fun _ => rfl
    have hends := h.ends_renderItems depth items rest
    simp only [render, List.cons_append, List.append_assoc]
    rw [hopen, h.foldlM_newline, foldlM_render h v hv _ _ hends, foldlM_renderItems h items hitems]
    simp [toRaw, rawItems, Raw.tokens]
  | .obj ((k, v) :: members) =>
    obtain ⟨hv, hmembers⟩ := (Bool.and_eq_true _ _).mp hv
    have hopen : ∀ cs : List Char, ('{' :: cs).foldlM step (.between, done)
        = cs.foldlM step (.between, .openObj :: done) := fun _ => rfl
    have hends := h.ends_renderMembers depth members rest
    simp only [render, List.cons_append, List.append_assoc]
    rw [hopen, h.foldlM_newline, foldlM_quote, h.foldlM_colon, foldlM_render h v hv _ _ hends,
      foldlM_renderMembers h members hmembers]
    simp [toRaw, rawMembers, Raw.tokens]

theorem foldlM_renderItems (h : layout.Blank) (items : List Json) (hitems : floatFreeItems items)
    (depth : Nat) (done : List Token) (rest : List Char) :
    (renderItems layout depth items ++ rest).foldlM step (.between, done)
      = rest.foldlM step (.between, (Raw.itemTokens (rawItems items)).reverse ++ done) := by
  match items with
  | [] =>
    rw [renderItems, List.append_assoc, h.foldlM_newline]
    rfl
  | v :: items =>
    obtain ⟨hv, hitems⟩ := (Bool.and_eq_true _ _).mp hitems
    have hcomma : ∀ cs : List Char, (',' :: cs).foldlM step (.between, done)
        = cs.foldlM step (.between, .comma :: done) := fun _ => rfl
    have hends := h.ends_renderItems depth items rest
    simp only [renderItems, List.cons_append, List.append_assoc]
    rw [hcomma, h.foldlM_newline, foldlM_render h v hv _ _ hends, foldlM_renderItems h items hitems]
    simp [rawItems, Raw.itemTokens]

theorem foldlM_renderMembers (h : layout.Blank) (members : List (String × Json))
    (hmembers : floatFreeMembers members) (depth : Nat) (done : List Token) (rest : List Char) :
    (renderMembers layout depth members ++ rest).foldlM step (.between, done)
      = rest.foldlM step (.between, (Raw.memberTokens (rawMembers members)).reverse ++ done) := by
  match members with
  | [] =>
    rw [renderMembers, List.append_assoc, h.foldlM_newline]
    rfl
  | (k, v) :: members =>
    obtain ⟨hv, hmembers⟩ := (Bool.and_eq_true _ _).mp hmembers
    have hcomma : ∀ cs : List Char, (',' :: cs).foldlM step (.between, done)
        = cs.foldlM step (.between, .comma :: done) := fun _ => rfl
    have hends := h.ends_renderMembers depth members rest
    simp only [renderMembers, List.cons_append, List.append_assoc]
    rw [hcomma, h.foldlM_newline, foldlM_quote, h.foldlM_colon, foldlM_render h v hv _ _ hends,
      foldlM_renderMembers h members hmembers]
    simp [rawMembers, Raw.memberTokens]

end

end Scan

theorem tokens?_render {layout : Layout} (h : layout.Blank) {v : Json} (hv : v.floatFree)
    (depth : Nat) : tokens? (render layout depth v) = some v.toRaw.tokens := by
  have hends : Scan.Ends ['\n'] := ⟨'\n', [], rfl, rfl, rfl⟩
  rw [tokens?, Scan.foldlM_render h v hv depth [] hends]
  simp [Scan.step, Scan.start, Scan.isBlank]

theorem Raw.ofChars?_render {layout : Layout} (h : layout.Blank) {v : Json} (hv : v.floatFree)
    (depth : Nat) : Raw.ofChars? (render layout depth v) = some v.toRaw := by
  rw [Raw.ofChars?, tokens?_render h hv depth, Option.bind_some, Raw.ofTokens?_tokens]

theorem Raw.ofChars?_pretty {v : Json} (hv : v.floatFree) : Raw.ofChars? v.pretty = some v.toRaw :=
  Raw.ofChars?_render Layout.blank_pretty hv 0

end Json
end FixtureLab

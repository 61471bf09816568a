import FixtureLab.Proofs.Yaml.Place
import FixtureLab.Yaml.Token

/-!
This module contains how tokens are read one after the other. Before a token is read, blanks and
breaks are skipped and blocks are closed. States that differ in nothing else lead to the same
tokens.
-/

namespace FixtureLab
namespace Yaml
namespace Lexer

open Source (place firstToken firstToken_pad place_of_not_isBreak place_newline place_space)

variable {l m k : Lexer} {p : Placed} {rest s : Source}

def setRest (s : Source) (l : Lexer) : Lexer := { l with rest := s }

/-! The source that a state holds is not looked at while a token is read. -/

@[simp]
theorem inFlow_setRest : (l.setRest s).inFlow = l.inFlow := rfl

@[simp]
theorem dropKey_setRest : (l.setRest s).dropKey = l.dropKey.map (setRest s) := by
  simp only [dropKey, setRest]
  split
  . split <;> rfl
  . rfl

@[simp]
theorem saveKey_setRest : (l.setRest s).saveKey p = (l.saveKey p).map (setRest s) := by
  simp only [saveKey, dropKey_setRest, Option.map_map]
  change (if l.keyAllowed then _ else _) = _
  split
  . rw [Option.map_map]
    rfl
  . rfl

@[simp]
theorem openBlock_setRest (column index : Nat) (t : Token) :
    (l.setRest s).openBlock column index t = (l.openBlock column index t).setRest s := by
  change (if l.inFlow || !l.indents.head?.all (· < column) then _ else _)
    = setRest s (if _ then _ else _)
  split <;> rfl

@[simp]
theorem closeBlocks_setRest (column : Option Nat) :
    (l.setRest s).closeBlocks column = (l.closeBlocks column).setRest s := by
  change (if l.inFlow then _ else _) = setRest s (if l.inFlow then _ else _)
  split <;> rfl

@[simp]
theorem readEdge_setRest (t : Token) : (l.setRest s).readEdge t rest = l.readEdge t rest := by
  simp only [readEdge, closeBlocks_setRest, dropKey_setRest, Option.map_map]
  rfl

@[simp]
theorem readOpen_setRest (t : Token) : (l.setRest s).readOpen t p rest = l.readOpen t p rest := by
  simp only [readOpen, saveKey_setRest, Option.map_map]
  rfl

@[simp]
theorem readClose_setRest (t : Token) : (l.setRest s).readClose t rest = l.readClose t rest := by
  simp only [readClose, dropKey_setRest, Option.map_map]
  congr 1
  funext l
  obtain ⟨_, _, _, _ | _, _, _, _⟩ := l <;> rfl

@[simp]
theorem readComma_setRest : (l.setRest s).readComma rest = l.readComma rest := by
  simp only [readComma, dropKey_setRest, Option.map_map]
  rfl

@[simp]
theorem readItem_setRest : (l.setRest s).readItem p rest = l.readItem p rest := by
  simp only [readItem, openBlock_setRest, dropKey_setRest, Option.map_map]
  rfl

@[simp]
theorem readKey_setRest : (l.setRest s).readKey p rest = l.readKey p rest := by
  simp only [readKey, openBlock_setRest, dropKey_setRest, Option.map_map]
  rfl

@[simp]
theorem readInline_setRest (t : Token) :
    (l.setRest s).readInline t p rest = l.readInline t p rest := by
  simp only [readInline, saveKey_setRest, Option.map_map]
  rfl

@[simp]
theorem readValue_setRest : (l.setRest s).readValue p rest = l.readValue p rest := by
  have hinsert : ∀ index t, (l.setRest s).insert index t = (l.insert index t).setRest s :=
    fun _ _ => rfl
  have hkey : (l.setRest s).key = l.key := rfl
  simp only [readValue, hinsert, openBlock_setRest, hkey]
  cases l.key <;> rfl

@[simp]
theorem readBlockScalar_setRest (folded : Bool) :
    (l.setRest s).readBlockScalar folded rest = l.readBlockScalar folded rest := by
  simp only [readBlockScalar, dropKey_setRest]
  cases l.dropKey <;> rfl

@[simp]
theorem readPlain_setRest : (l.setRest s).readPlain p rest = l.readPlain p rest := by
  simp only [readPlain, readInline_setRest]
  rfl

theorem read_setRest : (l.setRest s).read p rest = l.read p rest := by
  simp only [read, readEdge_setRest, readOpen_setRest, readClose_setRest, readComma_setRest,
    readItem_setRest, readKey_setRest, readValue_setRest, readInline_setRest,
    readBlockScalar_setRest, readPlain_setRest, inFlow_setRest]

def prepare (l : Lexer) : Option Lexer :=
  match skip l.inFlow l.keyAllowed false l.rest with
  | (keyAllowed, []) =>
    (l.closeBlocks none).dropKey.map fun l => { l with rest := [], keyAllowed }
  | (keyAllowed, p :: rest) =>
    (({ l with keyAllowed } : Lexer).refreshKeys p).map fun l =>
      (l.closeBlocks (some p.column)).setRest (p :: rest)

theorem run_succ (n : Nat) :
    run (n + 1) l = l.prepare.bind fun l =>
      match l.rest with
      | [] => some l.tokens.reverse
      | p :: rest => (l.read p rest).bind (run n) := by
  rcases hskip : skip l.inFlow l.keyAllowed false l.rest with ⟨keyAllowed, _ | ⟨p, rest⟩⟩
  . simp only [run, prepare, hskip, finish]
    cases (l.closeBlocks none).dropKey <;> rfl
  . simp only [run, prepare, hskip]
    cases ({ l with keyAllowed } : Lexer).refreshKeys p with
    | none => rfl
    | some l' =>
      have hread : ((l'.closeBlocks (some p.column)).setRest (p :: rest)).read p rest
          = (l'.closeBlocks (some p.column)).read p rest := read_setRest
      simp only [Option.map_some, Option.bind_some, setRest] at hread ⊢
      rw [hread]
      cases (l'.closeBlocks (some p.column)).read p rest <;> rfl

/--
Reading on from the first state has the result of reading on from the second one. Every step on the
way takes up a character.
-/
def Leads (l m : Lexer) : Prop :=
  ∃ steps, steps + m.rest.length ≤ l.rest.length ∧ ∀ fuel, run (steps + fuel) l = run fuel m

namespace Leads

theorem trans (h : Leads l m) (h' : Leads m k) : Leads l k := by
  obtain ⟨n, hn, hrun⟩ := h
  obtain ⟨n', hn', hrun'⟩ := h'
  refine ⟨n + n', by omega, fun fuel => ?_⟩
  rw [Nat.add_assoc, hrun, hrun']

theorem of_prepare (h : l.prepare = m.prepare) (hlength : m.rest.length ≤ l.rest.length) :
    Leads l m := by
  refine ⟨0, by omega, fun fuel => ?_⟩
  rw [Nat.zero_add]
  cases fuel with
  | zero => rfl
  | succ n => rw [run_succ, run_succ, h]

theorem of_read (h : l.prepare = some k) (hrest : k.rest = p :: rest)
    (hread : k.read p rest = some m) (hlength : m.rest.length < l.rest.length) : Leads l m := by
  refine ⟨1, by omega, fun fuel => ?_⟩
  rw [Nat.add_comm, run_succ, h, Option.bind_some, hrest]
  simp only [hread, Option.bind_some]

end Leads

section Skip

variable {flow keyAllowed keyAllowed' inComment : Bool} {line column : Nat} {c : Char}
  {cs tail : List Char} {indents : List Nat}

theorem skip_of_startsToken (hc : startsToken c = true) :
    skip flow keyAllowed false (place line column (c :: cs))
      = (keyAllowed, place line column (c :: cs)) := by
  obtain ⟨hblank, hbreak, hnumber⟩ := startsToken_iff.1 hc
  simp only [isBlank, Bool.or_eq_false_iff, decide_eq_false_iff_not] at hblank
  rw [place_of_not_isBreak hbreak]
  simp [skip, hblank, hbreak, hnumber]

theorem skip_pad (n : Nat) (hc : startsToken c = true) :
    skip flow keyAllowed false (place line column (pad n ++ c :: cs))
      = (keyAllowed, place line (column + n) (c :: cs)) := by
  induction n generalizing column with
  | zero => exact skip_of_startsToken hc
  | succ n ih =>
    have hcolumn : column + 1 + n = column + (n + 1) := by omega
    rw [pad_succ, List.cons_append, place_space, ← hcolumn, ← ih]
    rfl

theorem skip_firstToken (htail : Ends indents tail) :
    skip flow keyAllowed false (firstToken line tail) = (keyAllowed, firstToken line tail) := by
  cases htail with
  | text => rfl
  | line _ _ _ hc =>
    rw [firstToken_pad _ hc]
    exact skip_of_startsToken hc

theorem skip_newline (htail : Ends indents tail) :
    skip false keyAllowed false (place line column ('\n' :: tail))
      = (true, firstToken (line + 1) tail) := by
  have hnewline : skip false keyAllowed false (place line column ('\n' :: tail))
      = skip false true false (place (line + 1) 0 tail) := by
    simp [skip, isBreak]
  rw [hnewline]
  cases htail with
  | text => rfl
  | line _ _ _ hc => rw [firstToken_pad _ hc, skip_pad _ hc, Nat.zero_add]

end Skip

def between (keyAllowed : Bool) (indents : List Nat) (tokens : List Token) (s : Source) : Lexer :=
  { rest := s, indents, keyAllowed, tokens, count := tokens.length }

def Lapsed (s : Source) (key : Option KeyStart) : Prop :=
  ∀ k, key = some k → k.required = false ∧ ∀ p, s.head? = some p → k.line < p.line

section

variable {keyAllowed : Bool} {indents : List Nat} {tokens : List Token} {line column : Nat}
  {c : Char}
  {cs tail : List Char}

theorem prepare_of_lapsed (houter : l.outerKeys = []) (hcount : l.count = l.tokens.length)
    (hkey : Lapsed s l.key) (hskip : skip false l.keyAllowed false l.rest = (keyAllowed, s)) :
    l.prepare
      = some ((between keyAllowed l.indents l.tokens s).closeBlocks (s.head?.map (·.column))) := by
  have hread : skip l.inFlow l.keyAllowed false l.rest = (keyAllowed, s) := by
    rw [inFlow, houter]
    exact hskip
  cases s with
  | nil =>
    simp only [prepare, hread]
    obtain ⟨_, indents, key, _, _, tokens, _⟩ := l
    dsimp only at houter hcount hkey
    subst houter hcount
    cases key with
    | none => rfl
    | some k =>
      have hrequired : k.required = false := (hkey k rfl).1
      simp [closeBlocks, inFlow, dropKey, between, hrequired]
  | cons p rest =>
    simp only [prepare, hread]
    obtain ⟨_, indents, key, _, _, tokens, _⟩ := l
    dsimp only at houter hcount hkey
    subst houter hcount
    have hkey' : refreshKey p key = some none := by
      cases key with
      | none => rfl
      | some k =>
        obtain ⟨hrequired, hline⟩ := hkey k rfl
        simp [refreshKey, hline p rfl, hrequired]
    simp only [refreshKeys, hkey']
    rfl

theorem prepare_between (hskip : skip false keyAllowed false s = (keyAllowed, s)) :
    (between keyAllowed indents tokens s).prepare
      = some ((between keyAllowed indents tokens s).closeBlocks (s.head?.map (·.column))) :=
  prepare_of_lapsed rfl rfl (fun _ h => nomatch h) hskip

theorem closeBlocks_of_le (h : ∀ i, l.indents.head? = some i → i ≤ column) :
    l.closeBlocks (some column) = l := by
  obtain ⟨_, indents, _, _, _, _, _⟩ := l
  cases indents with
  | nil => simp [closeBlocks]
  | cons i indents =>
    have hle : ¬column < i := Nat.not_lt.2 (h i rfl)
    simp [closeBlocks, hle]

theorem Leads.settle (houter : l.outerKeys = []) (hcount : l.count = l.tokens.length)
    (hkey : Lapsed s l.key) (hskip : skip false l.keyAllowed false l.rest = (keyAllowed, s))
    (hs : skip false keyAllowed false s = (keyAllowed, s)) (hlength : s.length ≤ l.rest.length) :
    Leads l (between keyAllowed l.indents l.tokens s) :=
  .of_prepare ((prepare_of_lapsed houter hcount hkey hskip).trans (prepare_between hs).symm) hlength

theorem Leads.close (hcolumn : indents.head?.all (· < column)) (htail : Ends indents tail) :
    Leads (between true (column :: indents) tokens (firstToken line tail))
      (between true indents (.blockEnd :: tokens) (firstToken line tail)) := by
  have hskip := @skip_firstToken false true line tail indents htail
  refine .of_prepare ?_ (Nat.le_refl _)
  rw [prepare_between hskip, prepare_between hskip]
  have hcloses : ((firstToken line tail).head?.map (·.column)).all (· < column) = true := by
    cases htail with
    | text => rfl
    | line _ _ hle hc =>
      rw [firstToken_pad _ hc, place_of_not_isBreak (startsToken_iff.1 hc).2.1]
      simp only [List.head?_cons, Option.all_some, decide_eq_true_eq, Option.map_some] at hcolumn ⊢
      omega
  simp [closeBlocks, between, inFlow, hcloses, List.replicate_succ']
  omega

theorem Leads.run_eq (h : Leads l (between keyAllowed [] tokens [])) :
    run (l.rest.length + 1) l = some tokens.reverse := by
  obtain ⟨n, hn, hrun⟩ := h
  have hsteps : l.rest.length + 1 = n + (l.rest.length - n + 1) := by
    have hle : n ≤ l.rest.length := hn
    omega
  rw [hsteps, hrun, run_succ, prepare_between rfl]
  rfl

end

end Lexer
end Yaml
end FixtureLab

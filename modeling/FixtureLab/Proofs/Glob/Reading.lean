import FixtureLab.Glob.Pattern
import Mathlib.Data.List.Perm.Subperm

/-!
This module contains how patterns are read, step by step. A start without special characters is read
as it is, and no more slashes are spelled by the elements of a pattern than there are in its text,
unless two stars in it are next to each other.
-/

namespace FixtureLab
namespace Glob

mutual

def Token.leaves : Token → List Token
  | .oneOf alternatives => altLeaves alternatives
  | t => [t]

def seqLeaves : List Token → List Token
  | [] => []
  | t :: rest => t.leaves ++ seqLeaves rest

def altLeaves : List (List Token) → List Token
  | [] => []
  | seq :: rest => seqLeaves seq ++ altLeaves rest

end

theorem seqLeaves_eq_flatMap (seq : List Token) : seqLeaves seq = seq.flatMap Token.leaves := by
  induction seq with
  | nil => rfl
  | cons t rest ih => rw [seqLeaves, ih, List.flatMap_cons]

theorem altLeaves_eq_flatMap (alternatives : List (List Token)) :
    altLeaves alternatives = alternatives.flatMap seqLeaves := by
  induction alternatives with
  | nil => rfl
  | cons seq rest ih => rw [altLeaves, ih, List.flatMap_cons]

inductive ReadsToken : List Char → Token → List Char → Prop where
  | any {rest : List Char} : ReadsToken ('?' :: rest) .any rest
  | star {rest : List Char} : ReadsToken ('*' :: rest) .star rest
  | set {negated : Bool} {text items rest : List Char} {ranges : List (Char × Char)}
    (hitems : items <:+ text)
    (h : readSet true { ranges := [], dash := false } items = .ok (ranges, rest)) :
    ReadsToken ('[' :: text) (.set negated ranges) rest
  | escape {c : Char} {rest : List Char} : ReadsToken ('\\' :: c :: rest) (.char c) rest
  | char {c : Char} {rest : List Char} (h : c ∉ ['?', '*', '[', '\x7b', '\x7d', '\\']) :
    ReadsToken (c :: rest) (.char c) rest

inductive Step : Reader → List Char → Reader → List Char → Prop where
  | token {r : Reader} {text rest : List Char} {t : Token} (h : ReadsToken text t rest) :
    Step r text (r.push t) rest
  | stars {r : Reader} {rest : List Char} :
    Step r ('*' :: '*' :: rest) ((r.push .star).push .star) rest
  | leading {r : Reader} {rest : List Char} (n : Nat) :
    Step r ('*' :: '*' :: rest) (r.push .leadingDirs) (rest.drop n)
  | directories {r : Reader} {rest : List Char} {t : Token}
    (h : t = .innerDirs ∨ t = .trailingDirs) (n : Nat) :
    Step r ('*' :: '*' :: rest) (r.replaceLast (directories t)) (rest.drop n)
  | openBrace {r : Reader} {rest : List Char} : Step r ('\x7b' :: rest) r.openBrace rest
  | closeBrace {r r' : Reader} {rest : List Char} (h : r.closeBrace = .ok r') :
    Step r ('\x7d' :: rest) r' rest
  | comma {r : Reader} {rest : List Char} (h : r.opened ≠ []) :
    Step r (',' :: rest) { r with sequences := [] :: r.sequences } rest

theorem exists_step {r r' : Reader} {before : Option Char} {fuel : Nat} {c : Char}
    {rest : List Char} (h : read r before (fuel + 1) (c :: rest) = .ok r') :
    ∃ r₁ before₁ rest₁, Step r (c :: rest) r₁ rest₁ ∧ read r₁ before₁ fuel rest₁ = .ok r' := by
  unfold read at h
  split at h
  . exact ⟨_, _, _, .token .any, h⟩
  . split at h
    . exact ⟨_, _, _, .stars, h⟩
    . next slash _ =>
      refine ⟨_, _, _, ?_, h⟩
      cases slash
      . exact .leading 0
      . exact .leading 1
    . exact ⟨_, _, _, .directories (.inl rfl) 1, h⟩
    . exact ⟨_, _, _, .directories (.inr rfl) 0, h⟩
  . exact ⟨_, _, _, .token .star, h⟩
  . dsimp only at h
    split at h
    . next hset =>
      refine ⟨_, _, _, .token (.set ?_ hset), h⟩
      split
      . exact List.drop_suffix 1 _
      . exact List.suffix_rfl
    . cases h
  . exact ⟨_, _, _, .openBrace, h⟩
  . split at h
    . next hclose => exact ⟨_, _, _, .closeBrace hclose, h⟩
    . cases h
  . refine ⟨_, _, _, ?_, h⟩
    unfold Reader.comma
    split
    . exact .token (.char (by decide))
    . next hopened => exact .comma (by simpa using hopened)
  . exact ⟨_, _, _, .token .escape, h⟩
  . cases h
  . next hany hstar hset hopen hclose _ _ hescape hend =>
    have hbackslash : c ≠ '\\' := by
      rintro rfl
      cases rest with
      | nil => exact hend rfl rfl
      | cons d rest => exact hescape d rest rfl rfl
    refine ⟨_, _, _, .token (.char ?_), h⟩
    simpa using ⟨hany, hstar, hset, hopen, hclose, hbackslash⟩

def SpellsSlash (ranges : List (Char × Char)) : Prop :=
  ∃ range ∈ ranges, range.1 = '/' ∨ range.2 = '/'

instance (ranges : List (Char × Char)) : Decidable (SpellsSlash ranges) :=
  inferInstanceAs (Decidable (∃ range ∈ ranges, _))

@[simp]
theorem spellsSlash_cons {first last : Char} {ranges : List (Char × Char)} :
    SpellsSlash ((first, last) :: ranges) ↔ (first = '/' ∨ last = '/') ∨ SpellsSlash ranges :=
  List.exists_mem_cons_iff ..

theorem SpellsSlash.of_extend {s s' : SetReader} {c : Char} (h : s.extend c = .ok s')
    (hspells : SpellsSlash s'.ranges) : c = '/' ∨ SpellsSlash s.ranges := by
  unfold SetReader.extend at h
  split at h
  . next first last ranges hranges =>
    split at h
    . cases h
    . cases h
      rw [hranges, spellsSlash_cons]
      rcases spellsSlash_cons.1 hspells with (hfirst | hc) | hrest
      . exact .inr (.inl (.inl hfirst))
      . exact .inl hc
      . exact .inr (.inr hrest)
  . cases h
    exact .inl (by simpa [SpellsSlash] using hspells)

theorem readSet_eq_ok {first : Bool} {s : SetReader} {text rest : List Char}
    {ranges : List (Char × Char)} (h : readSet first s text = .ok (ranges, rest)) :
    ∃ body, text = body ++ rest
      ∧ (SpellsSlash ranges → '/' ∈ body ∨ SpellsSlash s.ranges) := by
  induction text generalizing first s with
  | nil => cases h
  | cons c text ih =>
    have hmore : ∀ {first' : Bool} {s' : SetReader}, readSet first' s' text = .ok (ranges, rest) →
        (SpellsSlash s'.ranges → c = '/' ∨ SpellsSlash s.ranges) →
        ∃ body, c :: text = body ++ rest
          ∧ (SpellsSlash ranges → '/' ∈ body ∨ SpellsSlash s.ranges) := by
      intro first' s' h hs
      obtain ⟨body, rfl, hspells⟩ := ih h
      refine ⟨c :: body, rfl, fun hranges => ?_⟩
      rcases hspells hranges with hbody | hranges
      . exact .inl (List.mem_cons_of_mem c hbody)
      . exact (hs hranges).imp_left fun hc => List.mem_cons.2 (.inl hc.symm)
    rw [readSet] at h
    split at h
    . -- The bracket that closes the set.
      cases h
      refine ⟨[c], rfl, fun hranges => .inr ?_⟩
      split at hranges
      . simpa [SpellsSlash, or_and_right, exists_or] using hranges
      . simpa [SpellsSlash] using hranges
    split at h
    . exact hmore h .inr
    split at h
    . split at h
      . next hextend => exact hmore h (SpellsSlash.of_extend hextend)
      . cases h
    . refine hmore h fun hranges => ?_
      simpa using hranges

def Token.SpellsSlash : Token → Prop
  | .char c => c = '/'
  | .set _ ranges => Glob.SpellsSlash ranges
  | _ => False

instance : DecidablePred Token.SpellsSlash
  | .char c => inferInstanceAs (Decidable (c = '/'))
  | .set _ ranges => inferInstanceAs (Decidable (Glob.SpellsSlash ranges))
  | .any | .star | .leadingDirs | .trailingDirs | .innerDirs | .oneOf _ => .isFalse id

def Token.IsDirectories (t : Token) : Prop :=
  t = .leadingDirs ∨ t = .innerDirs ∨ t = .trailingDirs

theorem ReadsToken.isLeaf {text rest : List Char} {t : Token} (h : ReadsToken text t rest) :
    t.leaves = [t] ∧ ¬t.IsDirectories := by
  cases h <;> simp [Token.leaves, Token.IsDirectories]

theorem ReadsToken.exists_body {text rest : List Char} {t : Token} (h : ReadsToken text t rest) :
    ∃ body, text = body ++ rest ∧ body ≠ [] ∧ (t.SpellsSlash → '/' ∈ body) := by
  cases h with
  | any => exact ⟨['?'], rfl, by simp, fun h => h.elim⟩
  | star => exact ⟨['*'], rfl, by simp, fun h => h.elim⟩
  | set hitems hset =>
    obtain ⟨mark, rfl⟩ := hitems
    obtain ⟨body, rfl, hspells⟩ := readSet_eq_ok hset
    refine ⟨'[' :: (mark ++ body), by simp, by simp, fun h => ?_⟩
    have hbody : '/' ∈ body := (hspells h).resolve_right (by simp [Glob.SpellsSlash])
    exact List.mem_cons_of_mem _ (List.mem_append_right mark hbody)
  | @escape c rest =>
    exact ⟨['\\', c], rfl, by simp, fun h => List.mem_cons_of_mem _ (List.mem_singleton.2 h.symm)⟩
  | @char c rest _ => exact ⟨[c], rfl, by simp, fun h => List.mem_singleton.2 h.symm⟩

theorem Step.exists_body {r r' : Reader} {text rest : List Char} (h : Step r text r' rest) :
    ∃ body, text = body ++ rest ∧ body ≠ [] := by
  cases h with
  | token h =>
    obtain ⟨body, htext, hne, -⟩ := h.exists_body
    exact ⟨body, htext, hne⟩
  | stars => exact ⟨['*', '*'], rfl, by simp⟩
  | @leading rest n => exact ⟨'*' :: '*' :: rest.take n, by simp, by simp⟩
  | @directories rest _ _ n => exact ⟨'*' :: '*' :: rest.take n, by simp, by simp⟩
  | openBrace => exact ⟨['\x7b'], rfl, by simp⟩
  | closeBrace => exact ⟨['\x7d'], rfl, by simp⟩
  | comma => exact ⟨[','], rfl, by simp⟩

inductive Steps : Reader → List Char → Reader → Prop where
  | done {r : Reader} : Steps r [] r
  | next {r r₁ r' : Reader} {text rest : List Char} (hstep : Step r text r₁ rest)
    (hrest : Steps r₁ rest r') : Steps r text r'

theorem read_steps {r r' : Reader} {before : Option Char} {fuel : Nat} {text : List Char}
    (hfuel : text.length ≤ fuel) (h : read r before fuel text = .ok r') : Steps r text r' := by
  induction fuel generalizing r before text with
  | zero =>
    cases List.length_eq_zero_iff.1 (Nat.le_zero.1 hfuel)
    cases h
    exact .done
  | succ fuel ih =>
    cases text with
    | nil =>
      cases h
      exact .done
    | cons c rest =>
      obtain ⟨r₁, before₁, rest₁, hstep, hread⟩ := exists_step h
      obtain ⟨body, heq, hne⟩ := hstep.exists_body
      have hlength := congrArg List.length heq
      have hpos := List.length_pos_iff.2 hne
      rw [List.length_append] at hlength
      exact .next hstep (ih (by omega) hread)

def Reader.start : Reader := { sequences := [[]], opened := [] }

theorem tokens_steps {pattern : List Char} {ts : List Token} (h : tokens pattern = .ok ts) :
    ∃ opened, Steps .start pattern { sequences := [ts.reverse], opened } := by
  unfold tokens at h
  split at h
  . cases h
  . next r hread =>
    split at h
    . next seq hsequences =>
      cases h
      refine ⟨r.opened, ?_⟩
      rw [List.reverse_reverse, ← hsequences]
      exact read_steps (Nat.le_refl _) hread
    . cases h

namespace Reader

def leaves (r : Reader) : List Token := altLeaves r.sequences

theorem leaves_push_subperm (r : Reader) (t : Token) :
    (r.push t).leaves.Subperm (t.leaves ++ r.leaves) := by
  unfold push leaves
  cases hsequences : r.sequences with
  | nil => simp [hsequences, altLeaves]
  | cons seq rest =>
    simp only [altLeaves, seqLeaves, List.append_assoc]
    exact .refl _

theorem seqLeaves_reverse_perm (seq : List Token) :
    (seqLeaves seq.reverse).Perm (seqLeaves seq) := by
  rw [seqLeaves_eq_flatMap, seqLeaves_eq_flatMap]
  exact seq.reverse_perm.flatMap_right _

theorem altLeaves_reverse_perm (sequences : List (List Token)) :
    (altLeaves (sequences.reverse.map List.reverse)).Perm (altLeaves sequences) := by
  rw [altLeaves_eq_flatMap, altLeaves_eq_flatMap, List.flatMap_map]
  exact (sequences.reverse_perm.flatMap_right _).trans
    (List.Perm.flatMap_left _ fun seq _ => seqLeaves_reverse_perm seq)

theorem leaves_closeBrace_subperm {r r' : Reader} (h : r.closeBrace = .ok r') :
    r'.leaves.Subperm r.leaves := by
  unfold closeBrace at h
  split at h
  . cases h
  . next n opened _ =>
    cases h
    refine (leaves_push_subperm _ _).trans (List.Perm.subperm ?_)
    simp only [Token.leaves, leaves]
    refine ((altLeaves_reverse_perm _).append_right _).trans (List.Perm.of_eq ?_)
    rw [altLeaves_eq_flatMap, altLeaves_eq_flatMap, altLeaves_eq_flatMap, ← List.flatMap_append,
      List.take_append_drop]

end Reader

theorem Step.adds {r r' : Reader} {text rest : List Char} (h : Step r text r' rest)
    (hstars : ¬['*', '*'] <:+: text) :
    ∃ body ts, text = body ++ rest ∧ r'.leaves.Subperm (ts ++ r.leaves)
      ∧ ts.countP Token.SpellsSlash ≤ body.count '/' ∧ ∀ t ∈ ts, ¬t.IsDirectories := by
  have hnone : ∀ rest, ¬['*', '*'] <:+: '*' :: '*' :: rest → False :=
    fun rest h => h ⟨[], rest, rfl⟩
  cases h with
  | @token _ _ t h =>
    obtain ⟨body, rfl, -, hspells⟩ := h.exists_body
    obtain ⟨hleaves, hplain⟩ := h.isLeaf
    refine ⟨body, [t], rfl, hleaves ▸ r.leaves_push_subperm t, ?_, by simpa using hplain⟩
    by_cases hslash : t.SpellsSlash
    . simpa [hslash] using List.count_pos_iff.2 (hspells hslash)
    . simp [hslash]
  | stars => exact (hnone _ hstars).elim
  | leading => exact (hnone _ hstars).elim
  | directories => exact (hnone _ hstars).elim
  | openBrace => exact ⟨['\x7b'], [], rfl, .refl _, by simp, by simp⟩
  | closeBrace h => exact ⟨['\x7d'], [], rfl, Reader.leaves_closeBrace_subperm h, by simp, by simp⟩
  | comma => exact ⟨[','], [], rfl, .refl _, by simp, by simp⟩

theorem Steps.adds {r r' : Reader} {text : List Char} (h : Steps r text r')
    (hstars : ¬['*', '*'] <:+: text) :
    r'.leaves.countP Token.SpellsSlash ≤ r.leaves.countP Token.SpellsSlash + text.count '/'
      ∧ ∀ t ∈ r'.leaves, t ∈ r.leaves ∨ ¬t.IsDirectories := by
  induction h with
  | done => exact ⟨by simp, fun _ => .inl⟩
  | @next r r₁ r' _ rest hstep _ ih =>
    obtain ⟨body, ts, rfl, hleaves, hcount, hplain⟩ := hstep.adds hstars
    have hrest : ¬['*', '*'] <:+: rest := fun h => hstars (h.trans (List.suffix_append _ _).isInfix)
    obtain ⟨ihcount, ihplain⟩ := ih hrest
    have hstepCount := hleaves.countP_le (fun t => decide t.SpellsSlash)
    rw [List.countP_append] at hstepCount
    refine ⟨?_, fun t ht => ?_⟩
    . rw [List.count_append]
      omega
    . rcases ihplain t ht with ht | ht
      . exact (List.mem_append.1 (hleaves.subset ht)).elim (fun ht => .inr (hplain t ht)) .inl
      . exact .inr ht

theorem leaves_of_tokens {pattern : List Char} {ts : List Token} (h : tokens pattern = .ok ts)
    (hstars : ¬['*', '*'] <:+: pattern) :
    (seqLeaves ts).countP Token.SpellsSlash ≤ pattern.count '/'
      ∧ ∀ t ∈ seqLeaves ts, ¬t.IsDirectories := by
  obtain ⟨opened, hsteps⟩ := tokens_steps h
  obtain ⟨hcount, hplain⟩ := hsteps.adds hstars
  have hstart : Reader.start.leaves = [] := rfl
  have hend : ({ sequences := [ts.reverse], opened } : Reader).leaves.Perm (seqLeaves ts) := by
    simpa [Reader.leaves, altLeaves] using Reader.seqLeaves_reverse_perm ts
  rw [hstart, hend.countP_eq] at hcount
  refine ⟨by simpa using hcount, fun t ht => ?_⟩
  exact (hplain t (hend.mem_iff.2 ht)).resolve_left (by simp [hstart])

def Token.BeginsWithSlash (t : Token) : Prop :=
  t = .char '/' ∨ t = .innerDirs ∨ t = .trailingDirs

/--
The outermost sequence begins with the elements `base`, in reverse order, and a slash behind them.
No brace was opened before that.
-/
structure Reader.Keeps (base : List Token) (r : Reader) : Prop where
  sequences : ∃ inner more t, r.sequences = inner ++ [more ++ t :: base] ∧ t.BeginsWithSlash
  opened : ∀ n ∈ r.opened, 0 < n

namespace Reader.Keeps

variable {base : List Token} {r r' : Reader}

theorem push (h : r.Keeps base) (t : Token) : (r.push t).Keeps base := by
  obtain ⟨⟨inner, more, s, hsequences, hs⟩, hopened⟩ := h
  unfold Reader.push
  rw [hsequences]
  cases inner with
  | nil => exact ⟨⟨[], t :: more, s, rfl, hs⟩, hopened⟩
  | cons seq inner => exact ⟨⟨(t :: seq) :: inner, more, s, rfl, hs⟩, hopened⟩

theorem replaceLast (h : r.Keeps base) {t : Token} (ht : t = .innerDirs ∨ t = .trailingDirs) :
    (r.replaceLast (directories t)).Keeps base := by
  obtain ⟨⟨inner, more, s, hsequences, hs⟩, hopened⟩ := h
  unfold Reader.replaceLast
  rw [hsequences]
  cases inner with
  | nil =>
    cases more with
    | nil =>
      -- The slash itself gives way to directories behind a slash.
      refine ⟨⟨[], [], directories t s, rfl, ?_⟩, hopened⟩
      rcases hs with rfl | rfl | rfl <;> rcases ht with rfl | rfl <;>
        simp [directories, Token.BeginsWithSlash]
    | cons u more => exact ⟨⟨[], directories t u :: more, s, rfl, hs⟩, hopened⟩
  | cons seq inner =>
    cases seq with
    | nil => exact ⟨⟨[] :: inner, more, s, hsequences, hs⟩, hopened⟩
    | cons u seq => exact ⟨⟨(directories t u :: seq) :: inner, more, s, rfl, hs⟩, hopened⟩

theorem openBrace (h : r.Keeps base) : r.openBrace.Keeps base := by
  obtain ⟨⟨inner, more, s, hsequences, hs⟩, hopened⟩ := h
  refine ⟨⟨[] :: inner, more, s, by simp [Reader.openBrace, hsequences], hs⟩, ?_⟩
  simpa [Reader.openBrace, hsequences] using hopened

theorem closeBrace (h : r.Keeps base) (hclose : r.closeBrace = .ok r') : r'.Keeps base := by
  obtain ⟨⟨inner, more, s, hsequences, hs⟩, hopened⟩ := h
  unfold Reader.closeBrace at hclose
  split at hclose
  . cases hclose
  . next n opened hn =>
    cases hclose
    rw [hn, List.forall_mem_cons] at hopened
    -- The sequence outside of all braces was there before the brace was opened.
    have houter : ∃ inner', r.sequences.drop (r.sequences.length - n)
        = inner' ++ [more ++ s :: base] := by
      refine ⟨inner.drop (r.sequences.length - n), ?_⟩
      have hlength : r.sequences.length - n ≤ inner.length := by
        have hpos := hopened.1
        simp only [hsequences, List.length_append, List.length_singleton]
        omega
      rw [hsequences] at hlength ⊢
      exact List.drop_append_of_le_length hlength
    obtain ⟨inner', houter⟩ := houter
    exact Keeps.push ⟨⟨inner', more, s, houter, hs⟩, hopened.2⟩ _

theorem comma (h : r.Keeps base) : { r with sequences := [] :: r.sequences }.Keeps base := by
  obtain ⟨⟨inner, more, s, hsequences, hs⟩, hopened⟩ := h
  exact ⟨⟨[] :: inner, more, s, by simp [hsequences], hs⟩, hopened⟩

theorem step {text rest : List Char} (h : r.Keeps base) (hstep : Step r text r' rest) :
    r'.Keeps base := by
  cases hstep with
  | token => exact h.push _
  | stars => exact (h.push _).push _
  | leading => exact h.push _
  | directories ht => exact h.replaceLast ht
  | openBrace => exact h.openBrace
  | closeBrace hclose => exact h.closeBrace hclose
  | comma => exact h.comma

theorem steps {text : List Char} (h : r.Keeps base) (hsteps : Steps r text r') : r'.Keeps base := by
  induction hsteps with
  | done => exact h
  | next hstep _ ih => exact ih (h.step hstep)

end Reader.Keeps

theorem Step.eq_of_plain {r r' : Reader} {c : Char} {text rest : List Char}
    (h : Step r (c :: text) r' rest) (hc : c ∉ ['?', '*', '[', '\x7b', '\\'])
    (hopened : r.opened = []) : r' = r.push (.char c) ∧ rest = text := by
  cases h with
  | token htoken =>
    cases htoken with
    | char => exact ⟨rfl, rfl⟩
    | any | star | set | escape => simp at hc
  | comma h => exact absurd hopened h
  | closeBrace h => simp [Reader.closeBrace, hopened] at h
  | stars | leading | directories | openBrace => simp at hc

theorem Steps.plain {chars text : List Char} {seq : List Token} {r' : Reader}
    (hplain : ∀ c ∈ chars, c ∉ ['?', '*', '[', '\x7b', '\\'])
    (h : Steps { sequences := [seq], opened := [] } (chars ++ text) r') :
    Steps { sequences := [(chars.map Token.char).reverse ++ seq], opened := [] } text r' := by
  induction chars generalizing seq with
  | nil => exact h
  | cons c chars ih =>
    obtain ⟨hc, hrest⟩ := List.forall_mem_cons.1 hplain
    cases h with
    | next hstep hsteps =>
      obtain ⟨rfl, rfl⟩ := hstep.eq_of_plain hc rfl
      rw [List.map_cons, List.reverse_cons, List.append_assoc]
      exact ih hrest hsteps

theorem tokens_of_plain_start {chars text : List Char} {ts : List Token}
    (hplain : ∀ c ∈ chars, c ∉ ['?', '*', '[', '\x7b', '\\'])
    (h : tokens (chars ++ '/' :: text) = .ok ts) :
    ∃ t rest, ts = chars.map Token.char ++ t :: rest ∧ t.BeginsWithSlash := by
  obtain ⟨opened, hsteps⟩ := tokens_steps h
  have hslash := hsteps.plain hplain
  rw [List.append_nil] at hslash
  cases hslash with
  | next hstep hrest =>
    obtain ⟨rfl, rfl⟩ := hstep.eq_of_plain (by decide) rfl
    have hkeeps : ({ sequences := [(chars.map Token.char).reverse], opened := [] } : Reader).push
        (.char '/') |>.Keeps (chars.map Token.char).reverse :=
      ⟨⟨[], [], .char '/', rfl, .inl rfl⟩, by simp [Reader.push]⟩
    obtain ⟨⟨inner, more, t, hsequences, ht⟩, -⟩ := hkeeps.steps hrest
    cases inner with
    | nil =>
      have hreverse := congrArg List.reverse (List.singleton_inj.1 hsequences)
      rw [List.reverse_reverse] at hreverse
      exact ⟨t, more.reverse, by simp [hreverse], ht⟩
    | cons seq inner => simp at hsequences

end Glob
end FixtureLab

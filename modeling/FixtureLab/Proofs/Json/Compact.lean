import FixtureLab.Proofs.Json.Spelling
import FixtureLab.Proofs.Text.Replace

/-!
This module contains two properties of the one-line text of a value. It holds no control characters,
and if a placeholder is replaced in it, it becomes the text of the value in whose strings the
placeholder is replaced.
-/

namespace FixtureLab

namespace Text

def fill (p r : List Char) (s : String) : String := String.ofList (replaceAll p r s.toList)

@[simp]
theorem toList_fill (p r : List Char) (s : String) :
    (fill p r s).toList = replaceAll p r s.toList := String.toList_ofList

theorem fill_eq_self {p r : List Char} {s : String} (h : ¬p <:+: s.toList) : fill p r s = s := by
  rw [fill, replaceAll_eq_self h, String.ofList_toList]

end Text

namespace Json

open Text

section ControlFree

theorem le_toNat_of_all {cs : List Char} (h : cs.all (0x20 ≤ ·.toNat) = true) :
    ∀ c ∈ cs, 0x20 ≤ c.toNat := by
  simpa using h

theorem le_toNat_of_mem_escapeChar (c : Char) : ∀ d ∈ escapeChar c, 0x20 ≤ d.toNat := by
  have hhex : ∀ n, 0x20 ≤ (hexDigit n).toNat := by
    intro n
    have hdigit : ∀ k < 16, 0x20 ≤ (Nat.digitChar k).toNat := by decide
    exact hdigit _ (Nat.mod_lt n (by decide))
  unfold escapeChar
  split
  case h_8 =>
    split
    . apply le_toNat_of_all
      simp [hhex]
    . simp_all
  all_goals exact le_toNat_of_all rfl

theorem le_toNat_of_mem_quote (s : List Char) : ∀ c ∈ quote s, 0x20 ≤ c.toNat := by
  rw [quote, List.cons_append, List.forall_mem_cons, List.forall_mem_append]
  refine ⟨by decide, ?_, le_toNat_of_all rfl⟩
  intro d hd
  obtain ⟨c, -, hc⟩ := List.mem_flatMap.1 hd
  exact le_toNat_of_mem_escapeChar c d hc

theorem le_toNat_of_mem_intText (n : Int) : ∀ c ∈ intText n, 0x20 ≤ c.toNat := by
  intro c hc
  rcases Literal.mem_intText hc with hdigit | rfl
  . exact Nat.le_trans (by decide) (Char.isDigit_iff_toNat.1 hdigit).1
  . decide

mutual

theorem le_toNat_of_mem_render (v : Json) (hv : v.floatFree) (depth : Nat) :
    ∀ c ∈ render .compact depth v, 0x20 ≤ c.toNat := by
  match v with
  | .null | .bool true | .bool false | .arr [] | .obj [] =>
    rw [render]
    exact le_toNat_of_all rfl
  | .int n => exact le_toNat_of_mem_intText n
  | .str s => exact le_toNat_of_mem_quote s.toList
  | .arr (v :: items) =>
    obtain ⟨hv, hitems⟩ := (Bool.and_eq_true _ _).mp hv
    simp only [render, Layout.compact, List.cons_append, List.nil_append, List.forall_mem_cons,
      List.forall_mem_append]
    exact ⟨by decide, le_toNat_of_mem_render v hv _, le_toNat_of_mem_renderItems items hitems _⟩
  | .obj ((k, v) :: members) =>
    obtain ⟨hv, hmembers⟩ := (Bool.and_eq_true _ _).mp hv
    simp only [render, Layout.compact, List.cons_append, List.nil_append, List.forall_mem_cons,
      List.forall_mem_append]
    exact ⟨by decide, ⟨⟨le_toNat_of_mem_quote k.toList, by decide, List.forall_mem_nil _⟩,
        le_toNat_of_mem_render v hv _⟩,
      le_toNat_of_mem_renderMembers members hmembers _⟩

theorem le_toNat_of_mem_renderItems (items : List Json) (hitems : floatFreeItems items)
    (depth : Nat) : ∀ c ∈ renderItems .compact depth items, 0x20 ≤ c.toNat := by
  match items with
  | [] => exact le_toNat_of_all rfl
  | v :: items =>
    obtain ⟨hv, hitems⟩ := (Bool.and_eq_true _ _).mp hitems
    simp only [renderItems, Layout.compact, List.cons_append, List.nil_append,
      List.forall_mem_cons, List.forall_mem_append]
    exact ⟨by decide, le_toNat_of_mem_render v hv _, le_toNat_of_mem_renderItems items hitems _⟩

theorem le_toNat_of_mem_renderMembers (members : List (String × Json))
    (hmembers : floatFreeMembers members) (depth : Nat) :
    ∀ c ∈ renderMembers .compact depth members, 0x20 ≤ c.toNat := by
  match members with
  | [] => exact le_toNat_of_all rfl
  | (k, v) :: members =>
    obtain ⟨hv, hmembers⟩ := (Bool.and_eq_true _ _).mp hmembers
    simp only [renderMembers, Layout.compact, List.cons_append, List.nil_append,
      List.forall_mem_cons, List.forall_mem_append]
    exact ⟨by decide, ⟨⟨le_toNat_of_mem_quote k.toList, by decide, List.forall_mem_nil _⟩,
        le_toNat_of_mem_render v hv _⟩,
      le_toNat_of_mem_renderMembers members hmembers _⟩

end

theorem le_toNat_of_mem_compact {v : Json} (hv : v.floatFree) :
    ∀ c ∈ v.compact, 0x20 ≤ c.toNat := le_toNat_of_mem_render v hv 0

end ControlFree

mutual

def mapText (f : String → String) : Json → Json
  | .str s => .str (f s)
  | .arr items => .arr (mapTextItems f items)
  | .obj members => .obj (mapTextMembers f members)
  | v => v

def mapTextItems (f : String → String) : List Json → List Json
  | [] => []
  | v :: rest => mapText f v :: mapTextItems f rest

def mapTextMembers (f : String → String) : List (String × Json) → List (String × Json)
  | [] => []
  | (k, v) :: rest => (f k, mapText f v) :: mapTextMembers f rest

end

theorem mapTextItems_eq_map (f : String → String) (items : List Json) :
    mapTextItems f items = items.map (mapText f) := by
  induction items with
  | nil => rfl
  | cons v rest ih => simp [mapTextItems, ih]

def Plain (c : Char) : Prop := escapeChar c = [c]

theorem plain_of_le {c : Char} (hlow : 0x20 ≤ c.toNat) (hquote : c ≠ '"') (hbackslash : c ≠ '\\') :
    Plain c := by
  unfold Plain escapeChar
  split
  case h_1 => exact absurd rfl hquote
  case h_2 => exact absurd rfl hbackslash
  case h_8 => rw [if_neg (Nat.not_lt.2 hlow)]
  all_goals exact absurd hlow (by decide)

theorem plain_of_isDigit {c : Char} (h : c.isDigit) : Plain c := by
  have hlow := (Char.isDigit_iff_toNat.1 h).1
  apply plain_of_le (Nat.le_trans (by decide) hlow)
  all_goals
    rintro rfl
    cases h

theorem escapeChar_of_not_plain {c : Char} (h : ¬Plain c) :
    ∃ rest, escapeChar c = '\\' :: rest ∧ '{' ∉ rest := by
  have hhex : ∀ n, '{' ≠ hexDigit n := by
    intro n
    have hdigit : ∀ d < 16, '{' ≠ Nat.digitChar d := by decide
    exact hdigit _ (Nat.mod_lt n (by decide))
  unfold Plain at h
  unfold escapeChar at h ⊢
  split
  case h_8 =>
    split
    . exact ⟨_, rfl, by simp [hhex]⟩
    . next hlow => simp [hlow] at h
  all_goals exact ⟨_, rfl, by decide⟩

theorem not_plain_quote : ¬Plain '"' := by
  intro h
  cases h

theorem not_plain_backslash : ¬Plain '\\' := by
  intro h
  cases h

theorem flatMap_escapeChar_of_plain {cs : List Char} (h : ∀ c ∈ cs, Plain c) :
    cs.flatMap escapeChar = cs := by
  induction cs with
  | nil => rfl
  | cons c cs ih =>
    obtain ⟨hc, hcs⟩ := List.forall_mem_cons.1 h
    rw [List.flatMap_cons, ih hcs, hc, List.singleton_append]

theorem prefix_flatMap_escapeChar_iff {p : List Char} (hp : ∀ c ∈ p, Plain c) (cs : List Char) :
    p <+: cs.flatMap escapeChar ↔ p <+: cs := by
  induction p generalizing cs with
  | nil => simp
  | cons d p ih =>
    obtain ⟨hd, hp⟩ := List.forall_mem_cons.1 hp
    cases cs with
    | nil => simp
    | cons c cs =>
      rw [List.flatMap_cons]
      by_cases hc : Plain c
      . rw [hc, List.singleton_append, List.cons_prefix_cons, List.cons_prefix_cons, ih hp]
      . obtain ⟨rest, hrest, -⟩ := escapeChar_of_not_plain hc
        rw [hrest, List.cons_append, List.cons_prefix_cons, List.cons_prefix_cons]
        constructor
        . rintro ⟨rfl, -⟩
          exact absurd hd not_plain_backslash
        . rintro ⟨rfl, -⟩
          exact absurd hd hc

section

variable {name r : List Char} (hname : ∀ c ∈ name, Plain c) (hr : ∀ c ∈ r, Plain c)
include hname hr

theorem replaceAll_flatMap_escapeChar (cs : List Char) :
    replaceAll ('{' :: '{' :: name) r (cs.flatMap escapeChar)
      = (replaceAll ('{' :: '{' :: name) r cs).flatMap escapeChar := by
  have hp : ∀ c ∈ '{' :: '{' :: name, Plain c := by
    simpa using ⟨rfl, hname⟩
  have hne : '{' :: '{' :: name ≠ [] := List.cons_ne_nil _ _
  -- An occurrence consists of plain characters, and no escape puts them together.
  induction cs using induction_on_occurrences hne with
  | nil => rfl
  | occurrence cs ih =>
    rw [List.flatMap_append, flatMap_escapeChar_of_plain hp, replaceAll_occurrence hne, ih,
      replaceAll_occurrence hne, List.flatMap_append, flatMap_escapeChar_of_plain hr]
  | other c cs h ih =>
    rw [replaceAll_cons h, List.flatMap_cons, List.flatMap_cons]
    by_cases hc : Plain c
    . have h' : ¬ '{' :: '{' :: name <+: c :: cs.flatMap escapeChar := by
        have hcons := prefix_flatMap_escapeChar_iff hp (c :: cs)
        rw [List.flatMap_cons, hc, List.singleton_append] at hcons
        rwa [hcons]
      rw [hc, List.singleton_append, replaceAll_cons h', ih, List.singleton_append]
    . obtain ⟨rest, hrest, hmem⟩ := escapeChar_of_not_plain hc
      rw [replaceAll_append (by simp [hrest, hmem]), ih]

theorem replaceAll_quote (s : String) (rest : List Char) :
    replaceAll ('{' :: '{' :: name) r (quote s.toList ++ rest)
      = quote (fill ('{' :: '{' :: name) r s).toList
          ++ replaceAll ('{' :: '{' :: name) r rest := by
  have hquote : '"' ∉ '{' :: '{' :: name := by
    simpa using fun hmem => not_plain_quote (hname _ hmem)
  have hsplit : quote s.toList ++ rest = ['"'] ++ (s.toList.flatMap escapeChar ++ '"' :: rest) := by
    simp [quote]
  rw [hsplit, replaceAll_append (by decide), replaceAll_append_cons (List.cons_ne_nil _ _) hquote,
    replaceAll_flatMap_escapeChar hname hr]
  simp [quote]

end

theorem opening_not_mem_intText (n : Int) : '{' ∉ intText n := by
  intro h
  exact absurd (Literal.mem_intText h) (by decide)

section

variable {name r : List Char}

theorem replaceAll_openObj {c : Char} (hc : c ≠ '{') (rest : List Char) :
    replaceAll ('{' :: '{' :: name) r ('{' :: c :: rest)
      = '{' :: replaceAll ('{' :: '{' :: name) r (c :: rest) := by
  apply replaceAll_cons
  intro h
  exact hc (List.cons_prefix_cons.1 (List.cons_prefix_cons.1 h).2).1.symm

mutual

theorem replaceAll_render (hname : ∀ c ∈ name, Plain c) (hr : ∀ c ∈ r, Plain c) (v : Json)
    (hv : v.floatFree) (depth : Nat) (rest : List Char) :
    replaceAll ('{' :: '{' :: name) r (render .compact depth v ++ rest)
      = render .compact depth (v.mapText (fill ('{' :: '{' :: name) r))
          ++ replaceAll ('{' :: '{' :: name) r rest := by
  match v with
  | .null | .bool true | .bool false | .arr [] =>
    simp only [mapText, mapTextItems, render]
    exact replaceAll_append (by decide) _ _ _
  | .int n => exact replaceAll_append (opening_not_mem_intText n) _ _ _
  | .str s => exact replaceAll_quote hname hr s rest
  | .obj [] =>
    have hclose := replaceAll_append (show '{' ∉ ['}'] by decide) ('{' :: name) r rest
    exact (replaceAll_openObj (by decide) rest).trans (congrArg ('{' :: ·) hclose)
  | .arr (v :: items) =>
    obtain ⟨hv, hitems⟩ := (Bool.and_eq_true _ _).mp hv
    have hopen := fun cs => replaceAll_append (show '{' ∉ ['['] by decide) ('{' :: name) r cs
    have hrender : ∀ (v : Json) (items : List Json), render .compact depth (.arr (v :: items))
        = ['['] ++ (render .compact (depth + 1) v ++ renderItems .compact depth items) :=
      fun _ _ => rfl
    simp only [mapText, mapTextItems, hrender, List.append_assoc]
    rw [hopen, replaceAll_render hname hr v hv, replaceAll_renderItems hname hr items hitems]
  | .obj ((k, v) :: members) =>
    obtain ⟨hv, hmembers⟩ := (Bool.and_eq_true _ _).mp hv
    have hcolon := fun cs => replaceAll_append (show '{' ∉ [':'] by decide) ('{' :: name) r cs
    have hopen : ∀ cs, replaceAll ('{' :: '{' :: name) r ('{' :: (quote k.toList ++ cs))
        = '{' :: replaceAll ('{' :: '{' :: name) r (quote k.toList ++ cs) :=
      fun _ => replaceAll_openObj (by decide) _
    have hassoc : ∀ xs : List Char, '{' :: (quote k.toList ++ xs) ++ rest
        = '{' :: (quote k.toList ++ (xs ++ rest)) := by
      simp
    have hrender : ∀ (k : String) (v : Json) (members : List (String × Json)),
        render .compact depth (.obj ((k, v) :: members))
          = '{' :: (quote k.toList ++ ([':'] ++ (render .compact (depth + 1) v
              ++ renderMembers .compact depth members))) := by
      intro k v members
      simp [render, Layout.compact]
    rw [hrender, hassoc, hopen, replaceAll_quote hname hr, List.append_assoc, hcolon,
      List.append_assoc, replaceAll_render hname hr v hv,
      replaceAll_renderMembers hname hr members hmembers]
    simp [mapText, mapTextMembers, hrender]

theorem replaceAll_renderItems (hname : ∀ c ∈ name, Plain c) (hr : ∀ c ∈ r, Plain c)
    (items : List Json) (hitems : floatFreeItems items) (depth : Nat) (rest : List Char) :
    replaceAll ('{' :: '{' :: name) r (renderItems .compact depth items ++ rest)
      = renderItems .compact depth (mapTextItems (fill ('{' :: '{' :: name) r) items)
          ++ replaceAll ('{' :: '{' :: name) r rest := by
  match items with
  | [] => exact replaceAll_append (show '{' ∉ [']'] by decide) _ _ _
  | v :: items =>
    obtain ⟨hv, hitems⟩ := (Bool.and_eq_true _ _).mp hitems
    have hcomma := fun cs => replaceAll_append (show '{' ∉ [','] by decide) ('{' :: name) r cs
    have hrender : ∀ (v : Json) (items : List Json), renderItems .compact depth (v :: items)
        = [','] ++ (render .compact (depth + 1) v ++ renderItems .compact depth items) :=
      fun _ _ => rfl
    simp only [mapTextItems, hrender, List.append_assoc]
    rw [hcomma, replaceAll_render hname hr v hv, replaceAll_renderItems hname hr items hitems]

theorem replaceAll_renderMembers (hname : ∀ c ∈ name, Plain c) (hr : ∀ c ∈ r, Plain c)
    (members : List (String × Json)) (hmembers : floatFreeMembers members) (depth : Nat)
    (rest : List Char) :
    replaceAll ('{' :: '{' :: name) r (renderMembers .compact depth members ++ rest)
      = renderMembers .compact depth (mapTextMembers (fill ('{' :: '{' :: name) r) members)
          ++ replaceAll ('{' :: '{' :: name) r rest := by
  match members with
  | [] => exact replaceAll_append (show '{' ∉ ['}'] by decide) _ _ _
  | (k, v) :: members =>
    obtain ⟨hv, hmembers⟩ := (Bool.and_eq_true _ _).mp hmembers
    have hcolon := fun cs => replaceAll_append (show '{' ∉ [':'] by decide) ('{' :: name) r cs
    have hcomma := fun cs => replaceAll_append (show '{' ∉ [','] by decide) ('{' :: name) r cs
    have hrender : ∀ (k : String) (v : Json) (members : List (String × Json)),
        renderMembers .compact depth ((k, v) :: members)
          = [','] ++ (quote k.toList ++ ([':'] ++ (render .compact (depth + 1) v
              ++ renderMembers .compact depth members))) := by
      intro k v members
      simp [renderMembers, Layout.compact]
    simp only [mapTextMembers, hrender, List.append_assoc]
    rw [hcomma, replaceAll_quote hname hr, hcolon, replaceAll_render hname hr v hv,
      replaceAll_renderMembers hname hr members hmembers]

end

theorem replaceAll_compact (hname : ∀ c ∈ name, Plain c) (hr : ∀ c ∈ r, Plain c) {v : Json}
    (hv : v.floatFree) :
    replaceAll ('{' :: '{' :: name) r v.compact
      = (v.mapText (fill ('{' :: '{' :: name) r)).compact := by
  have h := replaceAll_render hname hr v hv 0 []
  rw [List.append_nil, replaceAll_nil, List.append_nil] at h
  exact h

end

end Json
end FixtureLab

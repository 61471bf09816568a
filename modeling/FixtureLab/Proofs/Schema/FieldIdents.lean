import FixtureLab.Proofs.Decimal.Literal
import FixtureLab.Proofs.Schema.WireNames
import Mathlib.Data.List.Forall2
import Mathlib.Data.List.Nodup

/-!
This module contains when the identifiers of a struct's fields are distinct. Fields whose names come
to one identifier are numbered, which tells them apart. Only an identifier with a number can still
be the one that another field's name comes to.
-/

namespace FixtureLab
namespace Schema
namespace Source

def numbered (ident : String) (n : Nat) : String :=
  if n = 1 then ident else ident ++ "_" ++ toString n

def withNumbers (seen : List String) : List String → List (String × Nat)
  | [] => []
  | ident :: rest => (ident, seen.count ident + 1) :: withNumbers (ident :: seen) rest

section Numbers

variable {seen idents : List String} {ident : String} {n : Nat}

theorem fst_fieldIdents (seen : List String) (fields : List Field) :
    (fieldIdents seen fields).map (·.1)
      =
    (withNumbers seen (fields.map fun f => fieldIdent f.name)).map fun (ident, n) =>
      numbered ident n := by
  induction fields generalizing seen with
  | nil => rfl
  | cons f rest ih =>
    simp only [fieldIdents, List.map_cons, withNumbers, ih, numbered]
    simp

theorem mem_withNumbers_iff :
    (ident, n) ∈ withNumbers seen idents
      ↔
    seen.count ident < n ∧ n ≤ seen.count ident + idents.count ident := by
  induction idents generalizing seen with
  | nil =>
    simp only [withNumbers, List.not_mem_nil, List.count_nil, false_iff]
    omega
  | cons head rest ih =>
    rw [withNumbers, List.mem_cons, ih, Prod.mk.injEq]
    by_cases heq : ident = head
    . subst heq
      rw [List.count_cons_self, List.count_cons_self]
      simp only [true_and]
      omega
    . rw [List.count_cons_of_ne (Ne.symm heq), List.count_cons_of_ne (Ne.symm heq)]
      simp [heq]

theorem nodup_withNumbers (seen idents : List String) : (withNumbers seen idents).Nodup := by
  induction idents generalizing seen with
  | nil => exact List.nodup_nil
  | cons head rest ih =>
    rw [withNumbers, List.nodup_cons, mem_withNumbers_iff, List.count_cons_self]
    exact ⟨by omega, ih _⟩

end Numbers

section Spelling

variable {a b ident : String} {m n : Nat}

def bareWord (name : String) : String :=
  if (Text.snakeCase name).isEmpty || startsWithDigit (Text.snakeCase name) then
    "field_" ++ Text.snakeCase name
  else Text.snakeCase name

def fieldWord (name : String) : String :=
  if bareWord name ∈ reserved then bareWord name ++ "_" else bareWord name

theorem fieldWord_not_mem_reserved (name : String) : fieldWord name ∉ reserved := by
  have hreserved : ∀ word ∈ reserved, word ++ "_" ∉ reserved := by decide
  unfold fieldWord
  split
  . next hmem => exact hreserved _ hmem
  . next hmem => exact hmem

theorem fieldIdent_eq (name : String) :
    fieldIdent name
      =
    if fieldWord name ∈ keywords then "r#" ++ fieldWord name else fieldWord name := by
  have hreserved : ∀ word ∈ reserved, word ++ "_" ∉ keywords := by decide
  have hword : fieldIdent name = if bareWord name ∈ reserved then bareWord name ++ "_"
      else if bareWord name ∈ keywords then "r#" ++ bareWord name else bareWord name := rfl
  rw [hword, fieldWord]
  by_cases hmem : bareWord name ∈ reserved
  . simp only [if_pos hmem, if_neg (hreserved _ hmem)]
  . simp only [if_neg hmem]

theorem IdentText.fieldWord (name : String) : IdentText (fieldWord name) := by
  have hsnake : IdentText (Text.snakeCase name) := fun _ => .of_mem_snakeCase
  have hstart : IdentText "field_" := .of_letters (by simp)
  have hend : IdentText "_" := .of_letters (by simp)
  have hbare : IdentText (bareWord name) := by
    unfold bareWord
    split
    . exact hstart.append hsnake
    . exact hsnake
  unfold Source.fieldWord
  split
  . exact hbare.append hend
  . exact hbare

@[simp]
theorem unraw_fieldIdent (name : String) :
    unraw (fieldIdent name).toList = (fieldWord name).toList := by
  rw [fieldIdent_eq]
  split
  . simp [unraw]
  . exact (IdentText.fieldWord name).unraw

theorem unraw_fieldIdent_inj (h : unraw (fieldIdent a).toList = unraw (fieldIdent b).toList) :
    fieldIdent a = fieldIdent b := by
  rw [unraw_fieldIdent, unraw_fieldIdent, String.toList_inj] at h
  rw [fieldIdent_eq, fieldIdent_eq, h]

theorem unraw_numbered (h : FieldIdent ident) (hn : n ≠ 1) :
    unraw (numbered ident n).toList = unraw ident.toList ++ '_' :: Nat.toDigits 10 n := by
  have hnumber : IdentText ("_" ++ toString n) :=
    (IdentText.of_letters (by simp)).append (.of_nat n)
  rw [numbered, if_neg hn, String.append_assoc]
  obtain ⟨word, hword, rfl | rfl⟩ := h
  . rw [(hword.append hnumber).unraw, hword.unraw]
    simp
  . simp [unraw]

theorem eq_of_unraw_numbered (hm : m ≠ 1) (hn : n ≠ 1)
    (h : unraw (numbered (fieldIdent a) m).toList = unraw (numbered (fieldIdent b) n).toList) :
    fieldIdent a = fieldIdent b ∧ m = n := by
  have hdigits : ∀ n, '_' ∉ Nat.toDigits 10 n := fun n => Literal.not_mem_digits n rfl
  rw [unraw_numbered (.fieldIdent a) hm, unraw_numbered (.fieldIdent b) hn] at h
  obtain ⟨hword, hnumber⟩ := Text.append_cons_inj (hdigits m) (hdigits n) h
  have hvalue := congrArg (Nat.ofDigitChars 10 · 0) hnumber
  simp only [Nat.ofDigitChars_ten_toDigits] at hvalue
  exact ⟨unraw_fieldIdent_inj hword, hvalue⟩

theorem unraw_numbered_inj
    (h : unraw (numbered (fieldIdent a) m).toList = unraw (numbered (fieldIdent a) n).toList) :
    m = n := by
  have hlonger : ∀ n ≠ 1, unraw (numbered (fieldIdent a) 1).toList
      ≠ unraw (numbered (fieldIdent a) n).toList := by
    intro n hn heq
    rw [unraw_numbered (.fieldIdent a) hn, numbered, if_pos rfl] at heq
    simp at heq
  by_cases hm : m = 1
  . subst hm
    by_contra hn
    exact hlonger n (Ne.symm hn) h
  . by_cases hn : n = 1
    . subst hn
      exact absurd h.symm (hlonger m hm)
    . exact (eq_of_unraw_numbered hm hn h).2

end Spelling

/-- No name comes by itself to the identifier that a field gets with its number. -/
def NumbersApart (fields : List Field) : Prop :=
  ∀ f ∈ fields, ∀ g ∈ fields, ∀ n, 2 ≤ n →
    n ≤ (fields.map fun f => fieldIdent f.name).count (fieldIdent f.name) →
    unraw (fieldIdent g.name).toList ≠ unraw (numbered (fieldIdent f.name) n).toList

theorem nodup_unraw_fieldIdents_iff (fields : List Field) :
    ((fieldIdents [] fields).map fun p => unraw p.1.toList).Nodup ↔ NumbersApart fields := by
  have hmap : (fieldIdents [] fields).map (fun p => unraw p.1.toList)
      = (withNumbers [] (fields.map fun f => fieldIdent f.name)).map fun (ident, n) =>
        unraw (numbered ident n).toList := by
    have hfst := congrArg (List.map fun ident => unraw ident.toList) (fst_fieldIdents [] fields)
    simpa [Function.comp_def] using hfst
  have hmem : ∀ ident n, (ident, n) ∈ withNumbers [] (fields.map fun f => fieldIdent f.name)
      ↔ 1 ≤ n ∧ n ≤ (fields.map fun f => fieldIdent f.name).count ident := by
    intro ident n
    rw [mem_withNumbers_iff, List.count_nil, Nat.zero_add]
    rfl
  rw [hmap, List.nodup_map_iff_inj_on (nodup_withNumbers _ _)]
  constructor
  . intro hinj f hf g hg n hn hcount heq
    have hone : 1 ≤ (fields.map fun f => fieldIdent f.name).count (fieldIdent g.name) :=
      List.one_le_count_iff.2 (List.mem_map_of_mem (f := fun f : Field => fieldIdent f.name) hg)
    have hpair := hinj (fieldIdent g.name, 1) ((hmem _ _).2 ⟨Nat.le_refl 1, hone⟩)
      (fieldIdent f.name, n) ((hmem _ _).2 ⟨by omega, hcount⟩) (by simpa [numbered] using heq)
    have hnumber := congrArg Prod.snd hpair
    dsimp only at hnumber
    omega
  . rintro hapart ⟨ident, m⟩ hm ⟨ident', n⟩ hn heq
    obtain ⟨hm, hcount⟩ := (hmem _ _).1 hm
    obtain ⟨hn, hcount'⟩ := (hmem _ _).1 hn
    obtain ⟨f, hf, rfl⟩ := List.mem_map.1 (List.one_le_count_iff.1 (Nat.le_trans hm hcount))
    obtain ⟨g, hg, rfl⟩ := List.mem_map.1 (List.one_le_count_iff.1 (Nat.le_trans hn hcount'))
    dsimp only at heq
    -- Of a field with a number and one without, the latter's name would have come to the former.
    by_cases hm' : m = 1 <;> by_cases hn' : n = 1
    . subst hm' hn'
      simp only [numbered, if_true] at heq
      rw [unraw_fieldIdent_inj heq]
    . subst hm'
      exact absurd (by simpa [numbered] using heq) (hapart g hg f hf n (by omega) hcount')
    . subst hn'
      exact absurd (by simpa [numbered] using heq.symm) (hapart f hf g hg m (by omega) hcount)
    . obtain ⟨hident, rfl⟩ := eq_of_unraw_numbered hm' hn' heq
      rw [hident]

theorem exists_number_of_mem {seen : List String} {fields : List Field} {p : String × Field}
    (h : p ∈ fieldIdents seen fields) :
    ∃ n, seen.count (fieldIdent p.2.name) < n ∧ p.1 = numbered (fieldIdent p.2.name) n := by
  induction fields generalizing seen with
  | nil => cases h
  | cons f rest ih =>
    rw [fieldIdents, List.mem_cons] at h
    rcases h with rfl | h
    . exact ⟨seen.count (fieldIdent f.name) + 1, Nat.lt_succ_self _, by simp [numbered]⟩
    . obtain ⟨n, hn, hident⟩ := ih h
      exact ⟨n, Nat.lt_of_le_of_lt List.count_le_count_cons hn, hident⟩

def SpelledApart (p q : String × Field) : Prop :=
  fieldIdent p.2.name = fieldIdent q.2.name → unraw p.1.toList ≠ unraw q.1.toList

theorem pairwise_fieldIdents (seen : List String) (fields : List Field) :
    (fieldIdents seen fields).Pairwise SpelledApart := by
  induction fields generalizing seen with
  | nil => exact .nil
  | cons f rest ih =>
    rw [fieldIdents, List.pairwise_cons]
    refine ⟨fun q hq hsame heq => ?_, ih _⟩
    obtain ⟨n, hn, hident⟩ := exists_number_of_mem hq
    rw [← hsame, List.count_cons_self] at hn
    have hfirst : (if seen.count (fieldIdent f.name) = 0 then fieldIdent f.name
        else fieldIdent f.name ++ "_" ++ toString (seen.count (fieldIdent f.name) + 1))
        = numbered (fieldIdent f.name) (seen.count (fieldIdent f.name) + 1) := by simp [numbered]
    rw [hident, ← hsame, hfirst] at heq
    exact Nat.ne_of_lt hn (unraw_numbered_inj heq)

theorem idents_toStruct (t : RecordType) (eq : Bool) :
    (t.toStruct eq).fields.map (·.ident) = (fieldIdents [] t.fields).map (·.1) := by
  rw [RecordType.toStruct, List.map_map]
  rfl

structure IdentsApart (t : RecordType) (s : Struct) : Prop where
  pairwise : s.fields.Pairwise fun f g =>
    fieldIdent f.key = fieldIdent g.key → unraw f.ident.toList ≠ unraw g.ident.toList
  nodup_iff : (s.fields.map fun f => unraw f.ident.toList).Nodup ↔ NumbersApart t.fields

theorem identsApart_toStruct (t : RecordType) (eq : Bool) : IdentsApart t (t.toStruct eq) := by
  constructor
  . rw [RecordType.toStruct, List.pairwise_map]
    refine (pairwise_fieldIdents [] t.fields).imp fun {p q} hpq => ?_
    rw [Field.key_toStructField, Field.key_toStructField]
    exact hpq
  . have hidents := congrArg (List.map fun ident => unraw ident.toList) (idents_toStruct t eq)
    rw [List.map_map, List.map_map] at hidents
    rw [← nodup_unraw_fieldIdents_iff]
    exact iff_of_eq (congrArg List.Nodup hidents)

end Source

theorem Definitions.forall₂_structs {R : RecordType → Struct → Prop} (d : Definitions)
    (h : ∀ t eq, R t (t.toStruct eq)) : List.Forall₂ R d.types d.sourceFile.structs := by
  rw [sourceFile, List.forall₂_map_right_iff, List.forall₂_same]
  exact fun t _ => h t _

/--
In the source for any definitions, fields whose names come to one identifier have different ones.
All identifiers of a struct are distinct iff no name comes to an identifier with a number.
-/
theorem fieldIdents_of_source {d : Definitions} {text : String} (h : Source.render d = .ok text) :
    text = d.sourceFile.text
      ∧ List.Forall₂ Source.IdentsApart d.types d.sourceFile.structs := by
  constructor
  . exact Definitions.eq_text_of_render h
  . exact d.forall₂_structs Source.identsApart_toStruct

def manySpellings : RecordType where
  name := "Many"
  fields :=
    [{ name := "fn", kind := .int64 }, { name := "Fn", kind := .int64 },
      { name := "self", kind := .int64 }, { name := "Self", kind := .int64 },
      { name := "2a", kind := .int64 }, { name := "field_2a", kind := .int64 },
      { name := "", kind := .int64 }, { name := "_", kind := .int64 }]

def numberedSpelling : RecordType where
  name := "Numbered"
  fields :=
    [{ name := "fn_2", kind := .int64 }, { name := "fn", kind := .int64 },
      { name := "Fn", kind := .int64 }]

theorem fieldIdents_of_spellings :
    let d : Definitions := { types := [manySpellings, numberedSpelling] }
    Source.render d = .ok d.sourceFile.text
      ∧ d.sourceFile.structs.map (fun s => s.fields.map (·.ident))
        = [["r#fn", "r#fn_2", "self_", "self__2", "field_2a", "field_2a_2", "field_", "field__2"],
          ["fn_2", "r#fn", "r#fn_2"]]
      ∧ Source.NumbersApart manySpellings.fields
      ∧ ¬Source.NumbersApart numberedSpelling.fields := by
  intro d
  have hrender : Source.render d = .ok d.sourceFile.text :=
    Definitions.render_eq_sourceFile (by decide)
  obtain ⟨-, hstructs⟩ := fieldIdents_of_source hrender
  obtain ⟨hmany, hstructs⟩ := List.forall₂_cons.1 hstructs
  obtain ⟨hnumbered, -⟩ := List.forall₂_cons.1 hstructs
  refine ⟨hrender, by decide +kernel, hmany.nodup_iff.1 (by decide +kernel), fun hapart => ?_⟩
  exact absurd (hnumbered.nodup_iff.2 hapart) (by decide +kernel)

def meetingNames : Definitions where
  types :=
    [{ name := "Item"
       fields :=
        [{ name := "a", kind := .int64 }, { name := "A", kind := .int64 },
          { name := "a_2", kind := .int64 }] }]

theorem numbered_meets_name :
    Source.render meetingNames = .ok meetingNames.sourceFile.text
      ∧ (∀ t ∈ meetingNames.types, (t.fields.map (·.name)).Nodup)
      ∧ ∃ s ∈ meetingNames.sourceFile.structs,
        ¬(s.fields.map fun f => Source.unraw f.ident.toList).Nodup :=
  ⟨Definitions.render_eq_sourceFile (by decide), by decide, _, .head _, by decide +kernel⟩

end Schema
end FixtureLab

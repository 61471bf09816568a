import FixtureLab.Proofs.Schema.Struct
import FixtureLab.Proofs.Table
import Mathlib.Data.List.Forall2
import Mathlib.Data.List.Induction
import Mathlib.Logic.Relation

/-!
This module contains which structs derive `Eq`. Types are struck out in rounds until none is left
that holds what cannot be compared. Those that remain are the types from which no float and nothing
unknown can be reached.
-/

namespace FixtureLab
namespace Schema

variable {types : List RecordType} {a b : String} {eqs : List String}

def HoldsObject (types : List RecordType) (a b : String) : Prop :=
  ∃ t ∈ types, t.name = a ∧ ∃ f ∈ t.fields, f.kind = .object ∧ f.objectName = some b

/-- A definition of `a` has a field whose own values cannot be compared. -/
def HoldsIncomparable (types : List RecordType) (a : String) : Prop :=
  ∃ t ∈ types, t.name = a ∧ ∃ f ∈ t.fields, f.kind = .float64 ∨ f.kind = .unknown

def Comparable (types : List RecordType) (a : String) : Prop :=
  ∀ b, Relation.ReflTransGen (HoldsObject types) a b → ¬HoldsIncomparable types b

theorem Comparable.of_holdsObject (h : Comparable types a) (hab : HoldsObject types a b) :
    Comparable types b :=
  fun c hbc => h c (.head hab hbc)

def ObjectsDefined (types : List RecordType) : Prop :=
  ∀ t ∈ types, ∀ f ∈ t.fields, f.kind = .object →
    ∃ b ∈ types.map (·.name), f.objectName = some b

theorem error?_eq_none_iff {d : Definitions} :
    Source.error? d = none ↔ ObjectsDefined d.types := by
  have hdefined : ∀ name, (d.type? name).isSome ↔ name ∈ d.types.map (·.name) := by
    intro name
    simp [Definitions.type?, List.find?_isSome]
  have hfield : ∀ t f, Source.fieldError? d t f = none
      ↔ (f.kind = .object → ∃ b ∈ d.types.map (·.name), f.objectName = some b) := by
    intro t f
    unfold Source.fieldError?
    by_cases hkind : f.kind = .object
    . rw [if_pos hkind]
      cases f.objectName with
      | none => simp [hkind]
      | some object =>
        simp only [hdefined]
        simp [hkind]
    . simp [hkind]
  simp only [Source.error?, List.findSome?_eq_none_iff, hfield, ObjectsDefined]

namespace Source

def strikeOne (eqs : List String) (t : RecordType) : List String :=
  if t.fields.all (fieldHasEq eqs) then eqs else eqs.filter (· ≠ t.name)

theorem strikeOne_sublist (eqs : List String) (t : RecordType) : (strikeOne eqs t).Sublist eqs := by
  unfold strikeOne
  split
  . exact .refl eqs
  . exact List.filter_sublist

theorem strike_cons (t : RecordType) (types : List RecordType) (eqs : List String) :
    strike (t :: types) eqs = strike types (strikeOne eqs t) := rfl

theorem strike_sublist (types : List RecordType) (eqs : List String) :
    (strike types eqs).Sublist eqs := by
  induction types generalizing eqs with
  | nil => exact .refl eqs
  | cons t types ih =>
    rw [strike_cons]
    exact (ih _).trans (strikeOne_sublist eqs t)

theorem strike_eq_self (h : (strike types eqs).length = eqs.length) : strike types eqs = eqs :=
  (strike_sublist types eqs).eq_of_length h

theorem fieldHasEq_of_strike_eq_self (h : strike types eqs = eqs) :
    ∀ t ∈ types, t.name ∈ eqs → ∀ f ∈ t.fields, fieldHasEq eqs f := by
  induction types generalizing eqs with
  | nil => simp
  | cons t types ih =>
    rw [strike_cons] at h
    have hsub := strike_sublist types (strikeOne eqs t)
    rw [h] at hsub
    have hone : strikeOne eqs t = eqs := (strikeOne_sublist eqs t).eq_of_length_le hsub.length_le
    rw [hone] at h
    refine List.forall_mem_cons.2 ⟨fun hname => ?_, ih h⟩
    cases hall : t.fields.all (fieldHasEq eqs) with
    | true => exact List.all_eq_true.1 hall
    | false =>
      rw [strikeOne, if_neg (by simp [hall])] at hone
      have hself := hone.symm ▸ hname
      simp at hself

def Keeps (types : List RecordType) (eqs : List String) : Prop :=
  ∀ b ∈ types.map (·.name), Comparable types b → b ∈ eqs

theorem Keeps.strikeOne (hdefined : ObjectsDefined types) (h : Keeps types eqs) {t : RecordType}
    (ht : t ∈ types) : Keeps types (strikeOne eqs t) := by
  intro a ha hcomparable
  unfold Source.strikeOne
  split
  . exact h a ha hcomparable
  . next hall =>
    rw [List.mem_filter, decide_eq_true_eq]
    refine ⟨h a ha hcomparable, fun heq => hall ?_⟩
    rw [List.all_eq_true]
    intro f hf
    unfold fieldHasEq
    split
    . next hkind => exact absurd ⟨t, ht, heq.symm, f, hf, .inl hkind⟩ (hcomparable a .refl)
    . next hkind => exact absurd ⟨t, ht, heq.symm, f, hf, .inr hkind⟩ (hcomparable a .refl)
    . next hkind =>
      obtain ⟨b, hb, hobject⟩ := hdefined t ht f hf hkind
      have hmem := h b hb (hcomparable.of_holdsObject ⟨t, ht, heq.symm, f, hf, hkind, hobject⟩)
      simpa [hobject] using hmem
    . rfl

theorem Keeps.strike (hdefined : ObjectsDefined types) (h : Keeps types eqs) :
    Keeps types (strike types eqs) := by
  have hpart : ∀ ts : List RecordType, (∀ t ∈ ts, t ∈ types) → ∀ eqs, Keeps types eqs →
      Keeps types (Source.strike ts eqs) := by
    intro ts
    induction ts with
    | nil => exact fun _ _ h => h
    | cons t ts ih =>
      intro hts eqs h
      rw [strike_cons]
      exact ih (fun u hu => hts u (List.mem_cons_of_mem t hu)) _
        (h.strikeOne hdefined (hts t List.mem_cons_self))
  exact hpart types (fun _ ht => ht) eqs h

theorem comparable_of_strike_eq_self (h : strike types eqs = eqs) (ha : a ∈ eqs) :
    Comparable types a := by
  have hfields := fieldHasEq_of_strike_eq_self h
  intro b hab
  have hb : b ∈ eqs := by
    induction hab with
    | refl => exact ha
    | tail _ hstep ih =>
      obtain ⟨t, ht, rfl, f, hf, hkind, hobject⟩ := hstep
      have heq := hfields t ht ih f hf
      simpa [fieldHasEq, hkind, hobject] using heq
  rintro ⟨t, ht, rfl, f, hf, hkind⟩
  have heq := hfields t ht hb f hf
  rcases hkind with hkind | hkind <;> simp [fieldHasEq, hkind] at heq

inductive Rounds (types : List RecordType) : List String → Nat → List String → Prop where
  | last {eqs : List String} (h : (strike types eqs).length = eqs.length) :
    Rounds types eqs 1 (strike types eqs)
  | more {eqs eqs' : List String} {n : Nat} (h : (strike types eqs).length ≠ eqs.length)
    (hmore : Rounds types (strike types eqs) n eqs') : Rounds types eqs (n + 1) eqs'

namespace Rounds

variable {eqs' : List String} {n : Nat}

theorem strike_eq_self (h : Rounds types eqs n eqs') : strike types eqs' = eqs' := by
  induction h with
  | last h => rw [Source.strike_eq_self h, Source.strike_eq_self h]
  | more _ _ ih => exact ih

theorem keeps (hdefined : ObjectsDefined types) (h : Rounds types eqs n eqs')
    (hkeeps : Keeps types eqs) : Keeps types eqs' := by
  induction h with
  | last _ => exact hkeeps.strike hdefined
  | more _ _ ih => exact ih (hkeeps.strike hdefined)

end Rounds

theorem exists_rounds (types : List RecordType) {bound : Nat} (h : eqs.length < bound) :
    ∃ n ≤ eqs.length + 1, Rounds types eqs n (strikeAll types bound eqs) := by
  induction bound generalizing eqs with
  | zero => exact absurd h (Nat.not_lt_zero _)
  | succ bound ih =>
    have hle := (strike_sublist types eqs).length_le
    rw [strikeAll]
    by_cases hsame : (strike types eqs).length = eqs.length
    . rw [if_pos hsame]
      exact ⟨1, by omega, .last hsame⟩
    . rw [if_neg hsame]
      have hless : (strike types eqs).length < bound := by omega
      obtain ⟨n, hn, hrounds⟩ := ih hless
      exact ⟨n + 1, by omega, .more hsame hrounds⟩

theorem length_eraseDups_le (names : List String) : names.eraseDups.length ≤ names.length := by
  induction names using List.reverseRecOn with
  | nil => simp
  | append_singleton names name ih =>
    rw [Table.eraseDups_concat]
    split
    . rw [List.length_append]
      omega
    . rw [List.length_append, List.length_append]
      omega

theorem exists_rounds_eqTypes (d : Definitions) :
    ∃ n ≤ d.types.length + 1, Rounds d.types (d.types.map (·.name)).eraseDups n (eqTypes d) := by
  have hle : (d.types.map (·.name)).eraseDups.length ≤ d.types.length := by
    simpa using length_eraseDups_le (d.types.map (·.name))
  obtain ⟨n, hn, hrounds⟩ := exists_rounds d.types (Nat.lt_succ_of_le hle)
  exact ⟨n, by omega, hrounds⟩

theorem mem_eqTypes_iff {d : Definitions} (hdefined : ObjectsDefined d.types)
    (ha : a ∈ d.types.map (·.name)) : a ∈ eqTypes d ↔ Comparable d.types a := by
  obtain ⟨n, -, hrounds⟩ := exists_rounds_eqTypes d
  have hstart : Keeps d.types (d.types.map (·.name)).eraseDups :=
    fun b hb _ => List.mem_eraseDups.2 hb
  exact ⟨comparable_of_strike_eq_self hrounds.strike_eq_self,
    hrounds.keeps hdefined hstart a ha⟩

end Source

theorem ObjectsDefined.of_perm {types' : List RecordType} (h : ObjectsDefined types)
    (hperm : types'.Perm types) : ObjectsDefined types' := by
  intro t ht f hf hkind
  obtain ⟨b, hb, hobject⟩ := h t (hperm.mem_iff.1 ht) f hf hkind
  exact ⟨b, (hperm.map _).mem_iff.2 hb, hobject⟩

theorem comparable_iff_of_perm {types' : List RecordType} (hperm : types'.Perm types) :
    Comparable types' a ↔ Comparable types a := by
  have hholds : HoldsObject types' = HoldsObject types := by
    funext x y
    simp only [HoldsObject, hperm.mem_iff]
  simp only [Comparable, HoldsIncomparable, hholds, hperm.mem_iff]

namespace Definitions

variable {d e : Definitions}

theorem contains_eqTypes_of_perm (hdefined : ObjectsDefined d.types) (hperm : e.types.Perm d.types)
    (ha : a ∈ d.types.map (·.name)) :
    (Source.eqTypes e).contains a = (Source.eqTypes d).contains a := by
  have ha' : a ∈ e.types.map (·.name) := (hperm.map _).mem_iff.2 ha
  rw [Bool.eq_iff_iff, List.contains_iff_mem, List.contains_iff_mem,
    Source.mem_eqTypes_iff (hdefined.of_perm hperm) ha', Source.mem_eqTypes_iff hdefined ha,
    comparable_iff_of_perm hperm]

theorem structs_sourceFile_perm (hdefined : ObjectsDefined d.types)
    (hperm : e.types.Perm d.types) : e.sourceFile.structs.Perm d.sourceFile.structs := by
  have hsame : e.types.map (fun t => t.toStruct ((Source.eqTypes e).contains t.name))
      = e.types.map fun t => t.toStruct ((Source.eqTypes d).contains t.name) := by
    apply List.map_congr_left
    intro t ht
    rw [contains_eqTypes_of_perm hdefined hperm
      (List.mem_map_of_mem (f := (·.name)) (hperm.mem_iff.1 ht))]
  unfold sourceFile
  rw [hsame]
  exact hperm.map _

end Definitions

def deriveLine (eq : Bool) : String :=
  if eq then "#[derive(Debug, Clone, Default, PartialEq, Eq, Serialize, Deserialize)]"
  else "#[derive(Debug, Clone, Default, PartialEq, Serialize, Deserialize)]"

theorem Struct.head?_lines (s : Struct) : s.lines.head? = some (deriveLine s.eq) := by
  unfold Struct.lines deriveLine
  cases s.eq <;> cases s.fields <;> rfl

structure IsStructOf (types : List RecordType) (t : RecordType) (s : Struct) : Prop where
  eq_toStruct : s = t.toStruct s.eq
  head?_lines : s.lines.head? = some (deriveLine s.eq)
  eq_iff : s.eq ↔ Comparable types t.name

/--
The structs that are rendered derive `Eq` iff no float and nothing unknown can be reached from their
types. This is known after at most one round more than there are types, and does not depend on their
order.
-/
theorem eq_iff_comparable (d : Definitions) (source : String) (h : Source.render d = .ok source) :
    source = d.sourceFile.text
    ∧ List.Forall₂ (IsStructOf d.types) d.types d.sourceFile.structs
    ∧ (∃ n ≤ d.types.length + 1,
      Source.Rounds d.types (d.types.map (·.name)).eraseDups n (Source.eqTypes d))
    ∧ ∀ e : Definitions, e.types.Perm d.types →
      Source.render e = .ok e.sourceFile.text
      ∧ e.sourceFile.structs.Perm d.sourceFile.structs := by
  have hnone : Source.error? d = none := by
    rw [Source.render] at h
    split at h
    . cases h
    . assumption
  have hdefined := error?_eq_none_iff.1 hnone
  refine ⟨?_, ?_, Source.exists_rounds_eqTypes d, fun e hperm => ⟨?_, ?_⟩⟩
  . exact (Except.ok.inj ((Definitions.render_eq_sourceFile hnone).symm.trans h)).symm
  . rw [Definitions.sourceFile, List.forall₂_map_right_iff, List.forall₂_same]
    intro t ht
    refine ⟨rfl, Struct.head?_lines _, ?_⟩
    rw [RecordType.toStruct, List.contains_iff_mem]
    exact Source.mem_eqTypes_iff hdefined (List.mem_map_of_mem ht)
  . exact Definitions.render_eq_sourceFile (error?_eq_none_iff.2 (hdefined.of_perm hperm))
  . exact Definitions.structs_sourceFile_perm hdefined hperm

def tangled : Definitions where
  types := [
    { name := "Ring", fields := [{ name := "link", kind := .object, objectName := some "Link" }] },
    { name := "Shelf", fields := [
      { name := "ring", kind := .object, objectName := some "Ring" },
      { name := "parts", kind := .object, objectName := some "Part", isArray := true }] },
    { name := "Link", fields := [
      { name := "rings", kind := .object, objectName := some "Ring", isArray := true }] },
    { name := "Part", fields := [{ name := "size", kind := .int64 }] },
    { name := "Part", fields := [{ name := "size", kind := .float64 }] }]

theorem eq_in_tangled :
    Source.render tangled = .ok tangled.sourceFile.text
    ∧ tangled.sourceFile.structs.map (·.eq) = [true, false, true, false, false]
    ∧ Comparable tangled.types "Ring"
    ∧ ¬Comparable tangled.types "Shelf"
    ∧ ∃ n ≤ 6,
      Source.Rounds tangled.types ["Ring", "Shelf", "Link", "Part"] n ["Ring", "Link"] := by
  have hrender : Source.render tangled = .ok tangled.sourceFile.text :=
    Definitions.render_eq_sourceFile (by decide)
  have hnames : (tangled.types.map (·.name)).eraseDups = ["Ring", "Shelf", "Link", "Part"] := by
    decide +kernel
  have heqs : Source.eqTypes tangled = ["Ring", "Link"] := by decide +kernel
  obtain ⟨-, hstructs, hrounds, -⟩ := eq_iff_comparable tangled _ hrender
  rw [hnames, heqs] at hrounds
  simp only [Definitions.sourceFile, heqs] at hstructs ⊢
  obtain ⟨hring, hstructs⟩ := List.forall₂_cons.1 hstructs
  obtain ⟨hshelf, -⟩ := List.forall₂_cons.1 hstructs
  exact ⟨hrender, by decide, hring.eq_iff.1 (by decide),
    fun h => absurd (hshelf.eq_iff.2 h) (by decide), hrounds⟩

end Schema
end FixtureLab

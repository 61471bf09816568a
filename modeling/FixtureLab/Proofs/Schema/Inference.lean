import FixtureLab.Proofs.Schema.Objects
import FixtureLab.Proofs.Schema.TypeTable
import FixtureLab.Proofs.Table
import Mathlib.Data.List.Induction

/-!
This module contains what inference learns from samples: the type of each object that occurs in
them, once, with the fields of all objects of the type merged in the order of the objects.
-/

namespace FixtureLab
namespace Schema

def definitionOf (objects : List TypedObject) (type : String) : RecordType :=
  match objects.filter (·.type = type) with
  | [] => { name := type }
  | first :: later => later.foldl (fun t o => t.merge o.shown) first.shown

def definitionsOf (objects : List TypedObject) : List RecordType :=
  (objects.map (·.type)).eraseDups.map (definitionOf objects)

theorem definitionOf_concat (objects : List TypedObject) (o : TypedObject) (type : String) :
    definitionOf (objects ++ [o]) type
      =
    if o.type = type then
      if type ∈ objects.map (·.type) then (definitionOf objects type).merge o.shown else o.shown
    else definitionOf objects type := by
  unfold definitionOf
  rw [List.filter_append]
  by_cases ho : o.type = type
  . cases hfilter : objects.filter (·.type = type) with
    | nil =>
      have hnone : type ∉ objects.map (·.type) := by simpa using hfilter
      simp [ho, hnone]
    | cons first later =>
      have hfirst : first ∈ objects.filter (·.type = type) := by simp [hfilter]
      have hsome : type ∈ objects.map (·.type) := by
        obtain ⟨hmem, htype⟩ := List.mem_filter.1 hfirst
        exact List.mem_map.2 ⟨first, hmem, by simpa using htype⟩
      simp [ho, hsome]
  . simp [ho]

@[simp]
theorem definitionOf_name (objects : List TypedObject) (type : String) :
    (definitionOf objects type).name = type := by
  induction objects using List.reverseRecOn with
  | nil => rfl
  | append_singleton objects o ih =>
    rw [definitionOf_concat]
    split
    . next ho => split <;> simp [ih, ho, TypedObject.shown]
    . exact ih

theorem mem_names_definitionsOf (objects : List TypedObject) (type : String) :
    type ∈ (definitionsOf objects).map (·.name) ↔ type ∈ objects.map (·.type) := by
  simp [definitionsOf]

theorem definitionsOf_concat_of_mem {objects : List TypedObject} {o : TypedObject}
    (h : o.type ∈ objects.map (·.type)) :
    definitionsOf (objects ++ [o])
      =
    (definitionsOf objects).map fun t => if t.name = o.type then t.merge o.shown else t := by
  unfold definitionsOf
  rw [List.map_append, List.map_singleton, Table.eraseDups_concat, if_pos h, List.map_map]
  apply List.map_congr_left
  intro type htype
  have hmem : type ∈ objects.map (·.type) := List.mem_eraseDups.1 htype
  rw [definitionOf_concat, if_pos hmem, Function.comp_apply, definitionOf_name]
  by_cases heq : o.type = type
  . simp [heq]
  . simp [heq, Ne.symm heq]

theorem definitionsOf_concat_of_not_mem {objects : List TypedObject} {o : TypedObject}
    (h : o.type ∉ objects.map (·.type)) :
    definitionsOf (objects ++ [o]) = definitionsOf objects ++ [o.shown] := by
  have hlast : definitionOf (objects ++ [o]) o.type = o.shown := by
    rw [definitionOf_concat, if_pos rfl, if_neg h]
  unfold definitionsOf
  rw [List.map_append, List.map_singleton, Table.eraseDups_concat, if_neg h, List.map_append,
    List.map_singleton, hlast]
  congr 1
  apply List.map_congr_left
  intro type htype
  have hne : o.type ≠ type := fun heq => h (heq ▸ List.mem_eraseDups.1 htype)
  rw [definitionOf_concat, if_neg hne]

theorem foldl_putType (objects : List TypedObject) :
    (objects.map TypedObject.shown).foldl putType [] = definitionsOf objects := by
  induction objects using List.reverseRecOn with
  | nil => rfl
  | append_singleton objects o ih =>
    have hname : o.shown.name = o.type := rfl
    rw [List.map_append, List.foldl_append, ih]
    simp only [List.map_cons, List.map_nil, List.foldl_cons, List.foldl_nil]
    simp only [putType, mem_names_definitionsOf, hname]
    by_cases h : o.type ∈ objects.map (·.type)
    . rw [if_pos h, definitionsOf_concat_of_mem h]
    . rw [if_neg h, definitionsOf_concat_of_not_mem h]

namespace Inferrer

def addValues (t : Inferrer) : List (String × Json) → Except Error Inferrer
  | [] => .ok t
  | (file, v) :: rest =>
    match t.addValue file v with
    | (.ok _, t) => t.addValues rest
    | (.error e, _) => .error e

def ofSamples (name : String) (samples : List (String × Json)) : Except Error Inferrer := do
  let t ← Inferrer.new name
  t.addValues samples

theorem addValue_of_ok {t t' : Inferrer} {file : String} {v : Json}
    (h : t.addValue file v = (.ok (), t')) :
    (∃ members, v = .obj members)
      ∧ t'.model = t.model
      ∧ t'.table = ((objectsIn t.model v).map TypedObject.shown).foldl .put t.table
      ∧ ∃ leaves, t'.samples = t.samples ++ [{ file, rootModel := t.model, leaves }] := by
  simp only [addValue] at h
  split at h
  . cases h
  cases v with
  | obj members =>
    have htypes := types_findInMembers t.model "" [] members
    have htable :=
      Findings.table_addAll file (findInMembers t.model "" [] members) { table := t.table }
    simp only [walkMembers_eq_addAll] at h
    generalize Findings.addAll _ _ _ = answer at h htable
    obtain ⟨result, found⟩ := answer
    cases result with
    | error e => cases h
    | ok _ =>
      cases h
      refine ⟨⟨members, rfl⟩, rfl, ?_, found.leaves, rfl⟩
      rw [htable rfl, htypes]
      simp [objectsIn, TypedObject.shown]
  | _ => cases h

theorem addValues_of_ok {t t' : Inferrer} {samples : List (String × Json)}
    (h : t.addValues samples = .ok t') :
    (∀ sample ∈ samples, ∃ members, sample.2 = .obj members)
      ∧ t'.table = ((objectsOf t.model samples).map TypedObject.shown).foldl .put t.table
      ∧ t'.samples.map (fun s => (s.file, s.rootModel))
        = t.samples.map (fun s => (s.file, s.rootModel))
          ++ samples.map fun (file, _) => (file, t.model) := by
  induction samples generalizing t with
  | nil =>
    cases h
    simp [objectsOf]
  | cons sample rest ih =>
    obtain ⟨file, v⟩ := sample
    simp only [addValues] at h
    split at h
    . next next' hadd =>
      obtain ⟨hobject, hmodel, htable, leaves, hsamples⟩ := addValue_of_ok hadd
      obtain ⟨ihobjects, ihtable, ihsamples⟩ := ih h
      refine ⟨List.forall_mem_cons.2 ⟨hobject, ihobjects⟩, ?_, ?_⟩
      . rw [ihtable, hmodel, htable]
        simp [objectsOf]
      . rw [ihsamples, hmodel, hsamples]
        simp
    . cases h

theorem new_of_ok {name : String} {t : Inferrer} (h : Inferrer.new name = .ok t) :
    t = { model := Text.upperCamelCase name } := by
  simp only [Inferrer.new] at h
  split at h
  . cases h
  . exact (Except.ok.inj h).symm

theorem ofSamples_eq_ok_iff {name : String} {samples : List (String × Json)} {t : Inferrer} :
    ofSamples name samples = .ok t
      ↔
    ∃ t₀, Inferrer.new name = .ok t₀ ∧ t₀.addValues samples = .ok t := by
  unfold ofSamples
  cases Inferrer.new name with
  | error e => simp [bind, Except.bind]
  | ok t₀ => simp [bind, Except.bind]

end Inferrer

theorem Inferrer.exists_eq_ok {name : String} {samples : List (String × Json)}
    (h : (Inferrer.ofSamples name samples).toOption.isSome) :
    ∃ t, Inferrer.ofSamples name samples = .ok t := by
  cases hresult : Inferrer.ofSamples name samples with
  | error e => simp [hresult, Except.toOption] at h
  | ok t => exact ⟨t, rfl⟩

theorem Inferrer.ofSamples_of_ok {name : String} {samples : List (String × Json)} {t : Inferrer}
    (h : ofSamples name samples = .ok t) :
    (∀ sample ∈ samples, ∃ members, sample.2 = .obj members)
      ∧ t.table.types = definitionsOf (objectsOf (Text.upperCamelCase name) samples)
      ∧ t.samples.map (fun s => (s.file, s.rootModel))
        = samples.map fun (file, _) => (file, Text.upperCamelCase name) := by
  obtain ⟨t₀, hnew, hadd⟩ := ofSamples_eq_ok_iff.1 h
  cases new_of_ok hnew
  obtain ⟨hobjects, htable, hsamples⟩ := addValues_of_ok hadd
  refine ⟨hobjects, ?_, hsamples⟩
  rw [htable, TypeTable.indexed_empty.types_foldl_put, foldl_putType]

theorem finish_of_samples {name : String} {samples : List (String × Json)} {t : Inferrer}
    (h : Inferrer.ofSamples name samples = .ok t) :
    t.finish.types = definitionsOf (objectsOf (Text.upperCamelCase name) samples)
      ∧ t.finish.samples.map (fun s => (s.file, s.rootModel))
        = samples.map fun (file, _) => (file, Text.upperCamelCase name) :=
  (Inferrer.ofSamples_of_ok h).2

def nodesAndTails : List (String × Json) :=
  [("a.json", .obj
      [("Tail", .arr [.null, .obj [("id", .int 1)], .null, .obj [("len", .null)]]),
        ("node", .obj [("node", .null)]),
        ("tail", .obj [("len", .bool true)])]),
    ("b.json", .obj [("node", .obj [("node", .obj [])])])]

theorem finish_of_nodesAndTails :
    ∃ t, Inferrer.ofSamples "node" nodesAndTails = .ok t
      ∧ t.finish.types =
        [{ name := "Tail"
           fields := [{ name := "id", kind := .int64 }, { name := "len", kind := .bool }] },
         { name := "Node"
           fields :=
            [{ name := "node", kind := .object, objectName := some "Node" },
              { name := "Tail", kind := .object, objectName := some "Tail", isArray := true },
              { name := "tail", kind := .object, objectName := some "Tail" }] }]
      ∧ t.finish.samples.map (fun s => (s.file, s.rootModel))
        = [("a.json", "Node"), ("b.json", "Node")] := by
  have haccepted : (Inferrer.ofSamples "node" nodesAndTails).toOption.isSome := by decide
  cases h : Inferrer.ofSamples "node" nodesAndTails with
  | error e => simp [h, Except.toOption] at haccepted
  | ok t =>
    obtain ⟨htypes, hsamples⟩ := finish_of_samples h
    refine ⟨t, rfl, htypes.trans ?_, hsamples⟩
    decide

end Schema
end FixtureLab

import FixtureLab.Proofs.Schema.Inference
import Mathlib.Data.List.Nodup
import Mathlib.Data.List.TakeWhile

/-!
This module contains what the adding of a sample does to an inference, whether the sample is
accepted or not: what was found before the first fault is kept, and a sample without faults leaves
an entry and its base name behind.
-/

namespace FixtureLab
namespace Schema

def Finding.fault? : Finding → Option String
  | .fault place => some place
  | _ => none

def beforeFault (fs : List Finding) : List Finding := fs.takeWhile (·.fault?.isNone)

def leavesOf (leaves : Table String) (fs : List Finding) : Table String :=
  fs.foldl
    (fun leaves f =>
      match f with
      | .leaf place field => Table.insert place field.typeName leaves
      | _ => leaves)
    leaves

def findIn (type : String) : Json → List Finding
  | .obj members => findInMembers type "" [] members
  | _ => [.fault "$"]

theorem Findings.addAll_eq (file : String) (fs : List Finding) (found : Findings) :
    addAll file fs found
      =
    (match fs.findSome? Finding.fault? with
      | none => .ok ()
      | some place => .error (.notAnObject file place),
      { table := ((beforeFault fs).filterMap Finding.type?).foldl .put found.table
        leaves := leavesOf found.leaves (beforeFault fs) }) := by
  unfold beforeFault leavesOf
  induction fs generalizing found with
  | nil => rfl
  | cons f fs ih =>
    cases f with
    | fault place => rfl
    | leaf place f => exact ih (found.addLeaf place f)
    | complete type => exact ih (found.addType type)

theorem beforeFault_eq_self {fs : List Finding} (h : fs.findSome? Finding.fault? = none) :
    beforeFault fs = fs := by
  unfold beforeFault
  rw [List.takeWhile_eq_self_iff]
  intro f hf
  simp [List.findSome?_eq_none_iff.1 h f hf]

theorem types_findIn_obj (type : String) (members : List (String × Json)) :
    (findIn type (.obj members)).filterMap Finding.type?
      =
    (objectsIn type (.obj members)).map TypedObject.shown := by
  simp [findIn, types_findInMembers, objectsIn, TypedObject.shown]

theorem isPrefix_types_findIn (type : String) (v : Json) :
    (beforeFault (findIn type v)).filterMap Finding.type?
      <+:
    (objectsIn type v).map TypedObject.shown := by
  cases v with
  | obj members =>
    rw [← types_findIn_obj]
    exact (List.takeWhile_prefix _).filterMap _
  | _ => exact List.nil_prefix

def Faultless (type : String) (v : Json) : Prop := (findIn type v).findSome? Finding.fault? = none

theorem Faultless.types_eq {type : String} {v : Json} (h : Faultless type v) :
    (beforeFault (findIn type v)).filterMap Finding.type?
      =
    (objectsIn type v).map TypedObject.shown := by
  rw [beforeFault_eq_self h]
  cases v with
  | obj members => exact types_findIn_obj type members
  | _ => cases h

namespace Inferrer

def entry (model : String) (sample : String × Json) : Sample where
  file := sample.1
  rootModel := model
  leaves := leavesOf [] (findIn model sample.2)

def tableWith (t : Inferrer) (v : Json) : TypeTable :=
  ((beforeFault (findIn t.model v)).filterMap Finding.type?).foldl .put t.table

theorem addValue_eq (t : Inferrer) (file : String) (v : Json) :
    t.addValue file v
      =
    if Path.baseName file ∈ t.used then (.error (.duplicateFile (Path.baseName file)), t)
    else
      match (findIn t.model v).findSome? Finding.fault? with
      | some place => (.error (.notAnObject file place), { t with table := t.tableWith v })
      | none =>
        (.ok (), {
          t with
          table := t.tableWith v
          samples := t.samples ++ [entry t.model (file, v)]
          used := t.used ++ [Path.baseName file] }) := by
  unfold addValue
  by_cases hused : Path.baseName file ∈ t.used
  . simp only [hused, if_true]
  . simp only [hused, if_false]
    cases v with
    | obj members =>
      simp only [walkMembers_eq_addAll, Findings.addAll_eq, tableWith, findIn]
      cases hfault : (findInMembers t.model "" [] members).findSome? Finding.fault? with
      | some place => rfl
      | none => simp [entry, findIn, beforeFault_eq_self hfault]
    | _ => rfl

def withSamples (t : Inferrer) (samples : List (String × Json)) : Inferrer :=
  { t with
    table := ((objectsOf t.model samples).map TypedObject.shown).foldl .put t.table
    samples := t.samples ++ samples.map (entry t.model)
    used := t.used ++ samples.map (Path.baseName ·.1) }

theorem withSamples_cons (t : Inferrer) (sample : String × Json)
    (samples : List (String × Json)) :
    t.withSamples (sample :: samples) = (t.withSamples [sample]).withSamples samples := by
  simp [withSamples, objectsOf]

theorem addValue_eq_ok_iff {t t' : Inferrer} {file : String} {v : Json} :
    t.addValue file v = (.ok (), t')
      ↔
    Path.baseName file ∉ t.used ∧ Faultless t.model v ∧ t' = t.withSamples [(file, v)] := by
  rw [addValue_eq]
  by_cases hused : Path.baseName file ∈ t.used
  . simp [hused]
  . simp only [hused, if_false, not_false_eq_true, true_and]
    cases hfault : (findIn t.model v).findSome? Finding.fault? with
    | some place => simp [Faultless, hfault]
    | none =>
      have hv : Faultless t.model v := hfault
      simp [hv, hv.types_eq, tableWith, withSamples, objectsOf, eq_comm]

theorem addValues_eq_ok_iff {t t' : Inferrer} {samples : List (String × Json)} :
    t.addValues samples = .ok t'
      ↔
    (∀ sample ∈ samples, Path.baseName sample.1 ∉ t.used)
      ∧ (samples.map (Path.baseName ·.1)).Nodup
      ∧ (∀ sample ∈ samples, Faultless t.model sample.2)
      ∧ t' = t.withSamples samples := by
  induction samples generalizing t with
  | nil => simp [addValues, withSamples, objectsOf, eq_comm]
  | cons sample rest ih =>
    obtain ⟨file, v⟩ := sample
    have hsplit : t.addValues ((file, v) :: rest) = .ok t'
        ↔ ∃ t₁, t.addValue file v = (.ok (), t₁) ∧ t₁.addValues rest = .ok t' := by
      simp only [addValues]
      split
      . next t₁ h => simp [h]
      . next e t₁ h => simp [h]
    simp only [hsplit, addValue_eq_ok_iff, ih, withSamples_cons t (file, v) rest]
    constructor
    . rintro ⟨t₁, ⟨hnew, hv, rfl⟩, hused, hnodup, hrest, rfl⟩
      simp only [withSamples, List.map_cons, List.map_nil, List.mem_append, List.mem_singleton,
        not_or] at hused
      refine ⟨?_, ?_, ?_, rfl⟩
      . exact List.forall_mem_cons.2 ⟨hnew, fun sample hs => (hused sample hs).1⟩
      . rw [List.map_cons, List.nodup_cons, List.mem_map]
        refine ⟨?_, hnodup⟩
        rintro ⟨sample, hs, heq⟩
        exact (hused sample hs).2 heq
      . exact List.forall_mem_cons.2 ⟨hv, hrest⟩
    . rintro ⟨hused, hnodup, hfaultless, rfl⟩
      obtain ⟨hnew, hused⟩ := List.forall_mem_cons.1 hused
      obtain ⟨hv, hrest⟩ := List.forall_mem_cons.1 hfaultless
      rw [List.map_cons, List.nodup_cons, List.mem_map] at hnodup
      refine ⟨_, ⟨hnew, hv, rfl⟩, ?_, hnodup.2, hrest, rfl⟩
      intro sample hs
      simp only [withSamples, List.map_cons, List.map_nil, List.mem_append, List.mem_singleton,
        not_or]
      exact ⟨hused sample hs, fun heq => hnodup.1 ⟨sample, hs, heq⟩⟩

end Inferrer
end Schema
end FixtureLab

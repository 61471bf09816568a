import FixtureLab.Proofs.Schema.Inference
import Mathlib.Data.List.Nodup

/-!
This module contains what the merging of fields settles on: of all fields that were shown under a
name it keeps one that none of the others refines.
-/

namespace FixtureLab
namespace Schema

namespace Field

theorem refines_iff (f e : Field) :
    f.refines e
      ↔
    e.kind = .unknown ∧ (f.kind ≠ .unknown ∨ f.isArray ∧ e.isArray = false)
      ∨ e.kind = .int64 ∧ f.kind = .float64 ∧ f.isArray = e.isArray := by
  obtain ⟨_, ekind, _, _⟩ := e
  obtain ⟨_, fkind, _, _⟩ := f
  cases ekind <;> cases fkind <;> simp [refines]

theorem not_refines_self (f : Field) : ¬f.refines f := by
  rw [refines_iff]
  grind

theorem not_refines_of_refines {e f g : Field} (hf : f.refines e) (hg : ¬g.refines e) :
    ¬g.refines f := by
  rw [refines_iff] at *
  grind

end Field

theorem RecordType.mergeField_of_not_mem {fields : List Field} {f : Field}
    (h : f.name ∉ fields.map (·.name)) : mergeField fields f = fields ++ [f] := by
  induction fields with
  | nil => rfl
  | cons e rest ih =>
    rw [List.map_cons, List.mem_cons, not_or] at h
    rw [mergeField, if_neg (Ne.symm h.1), ih h.2, List.cons_append]

theorem RecordType.mergeField_of_mem {fields : List Field} {f : Field}
    (hnodup : (fields.map (·.name)).Nodup) (h : f.name ∈ fields.map (·.name)) :
    mergeField fields f
      =
    fields.map fun e => if e.name = f.name ∧ f.refines e then f else e := by
  induction fields with
  | nil => cases h
  | cons e rest ih =>
    rw [List.map_cons, List.nodup_cons] at hnodup
    by_cases hname : e.name = f.name
    . have hrest : rest.map (fun e => if e.name = f.name ∧ f.refines e then f else e) = rest := by
        have hsame : ∀ e' ∈ rest, (if e'.name = f.name ∧ f.refines e' then f else e') = e' := by
          intro e' he'
          have hne : e'.name ≠ f.name :=
            fun heq => hnodup.1 (List.mem_map.2 ⟨e', he', heq.trans hname.symm⟩)
          simp [hne]
        exact (List.map_congr_left hsame).trans (List.map_id' rest)
      rw [mergeField, if_pos hname, List.map_cons, hrest]
      simp [hname]
    . have hmem : f.name ∈ rest.map (·.name) := by
        rw [List.map_cons, List.mem_cons] at h
        exact h.resolve_left (Ne.symm hname)
      rw [mergeField, if_neg hname, ih hnodup.2 hmem]
      simp [hname]

structure Settles (shown fields : List Field) : Prop where
  nodup : (fields.map (·.name)).Nodup
  subset : ∀ f ∈ fields, f ∈ shown
  covers : ∀ f ∈ shown, f.name ∈ fields.map (·.name)
  settled : ∀ f ∈ fields, ∀ g ∈ shown, g.name = f.name → ¬g.refines f

namespace Settles

theorem of_nodup {fields : List Field} (h : (fields.map (·.name)).Nodup) :
    Settles fields fields := by
  refine ⟨h, fun f hf => hf, fun f hf => List.mem_map_of_mem hf, ?_⟩
  intro f hf g hg hname
  rw [List.inj_on_of_nodup_map h hg hf hname]
  exact f.not_refines_self

theorem replace {shown fields : List Field} (h : Settles shown fields) (f : Field)
    (hmem : f.name ∈ fields.map (·.name)) :
    Settles (shown ++ [f])
      (fields.map fun e => if e.name = f.name ∧ f.refines e then f else e) := by
  have hnames : (fields.map fun e => if e.name = f.name ∧ f.refines e then f else e).map (·.name)
      = fields.map (·.name) := by
    rw [List.map_map]
    apply List.map_congr_left
    intro e he
    simp only [Function.comp_apply]
    split
    . next hrefines => exact hrefines.1.symm
    . rfl
  constructor
  case nodup => exact hnames ▸ h.nodup
  case subset =>
    intro f' hf'
    obtain ⟨e, he, rfl⟩ := List.mem_map.1 hf'
    split
    . simp
    . exact List.mem_append_left _ (h.subset e he)
  case covers =>
    intro g hg
    rw [hnames]
    rcases List.mem_append.1 hg with hg | hg
    . exact h.covers g hg
    . exact List.mem_singleton.1 hg ▸ hmem
  case settled =>
    intro f' hf' g hg hname
    obtain ⟨e, he, rfl⟩ := List.mem_map.1 hf'
    rcases List.mem_append.1 hg with hg | hg
    . have hold : g.name = e.name → ¬g.refines e := h.settled e he g hg
      by_cases hrefines : e.name = f.name ∧ f.refines e
      . rw [if_pos hrefines] at hname ⊢
        exact Field.not_refines_of_refines hrefines.2 (hold (hname.trans hrefines.1.symm))
      . rw [if_neg hrefines] at hname ⊢
        exact hold hname
    . cases List.mem_singleton.1 hg
      by_cases hrefines : e.name = f.name ∧ f.refines e
      . rw [if_pos hrefines]
        exact Field.not_refines_self f
      . rw [if_neg hrefines] at hname ⊢
        exact fun hf => hrefines ⟨hname.symm, hf⟩

theorem concat {shown fields : List Field} (h : Settles shown fields) {f : Field}
    (hnew : f.name ∉ fields.map (·.name)) : Settles (shown ++ [f]) (fields ++ [f]) := by
  have hfresh : ∀ g ∈ shown, g.name ≠ f.name := fun g hg heq => hnew (heq ▸ h.covers g hg)
  constructor
  case nodup =>
    rw [List.map_append, List.map_singleton]
    exact List.nodup_append'.2 ⟨h.nodup, List.nodup_singleton _, by simpa using hnew⟩
  case subset =>
    intro f' hf'
    exact (List.mem_append.1 hf').elim (fun h' => List.mem_append_left _ (h.subset f' h'))
      (List.mem_append_right _)
  case covers =>
    intro g hg
    rw [List.map_append, List.mem_append]
    exact (List.mem_append.1 hg).imp (h.covers g) List.mem_map_of_mem
  case settled =>
    intro f' hf' g hg hname
    rcases List.mem_append.1 hf' with hf' | hf' <;> rcases List.mem_append.1 hg with hg | hg
    . exact h.settled f' hf' g hg hname
    . cases List.mem_singleton.1 hg
      exact absurd (List.mem_map.2 ⟨f', hf', hname.symm⟩) hnew
    . cases List.mem_singleton.1 hf'
      exact absurd hname (hfresh g hg)
    . cases List.mem_singleton.1 hf'
      cases List.mem_singleton.1 hg
      exact Field.not_refines_self _

theorem mergeField {shown fields : List Field} (h : Settles shown fields) (f : Field) :
    Settles (shown ++ [f]) (RecordType.mergeField fields f) := by
  by_cases hmem : f.name ∈ fields.map (·.name)
  . rw [RecordType.mergeField_of_mem h.nodup hmem]
    exact h.replace f hmem
  . rw [RecordType.mergeField_of_not_mem hmem]
    exact h.concat hmem

theorem foldl_mergeField {shown fields : List Field} (h : Settles shown fields)
    (more : List Field) : Settles (shown ++ more) (more.foldl RecordType.mergeField fields) := by
  induction more generalizing shown fields with
  | nil => simpa using h
  | cons f more ih => simpa using ih (h.mergeField f)

end Settles

theorem RecordType.foldl_merge_fields (objects : List TypedObject) (t : RecordType) :
    (objects.foldl (fun t o => t.merge o.shown) t).fields
      =
    (objects.flatMap (·.shown.fields)).foldl mergeField t.fields := by
  induction objects generalizing t with
  | nil => rfl
  | cons o objects ih => rw [List.foldl_cons, ih, List.flatMap_cons, List.foldl_append, merge]

def KeysNodup (objects : List TypedObject) : Prop :=
  ∀ o ∈ objects, (o.members.map (·.1)).Nodup

instance (objects : List TypedObject) : Decidable (KeysNodup objects) :=
  inferInstanceAs (Decidable (∀ o ∈ objects, (o.members.map (·.1)).Nodup))

theorem settles_definitionOf {objects : List TypedObject} (h : KeysNodup objects) (type : String) :
    Settles ((objects.filter (·.type = type)).flatMap (·.shown.fields))
      (definitionOf objects type).fields := by
  unfold definitionOf
  cases hfilter : objects.filter (·.type = type) with
  | nil => exact Settles.of_nodup List.nodup_nil
  | cons first later =>
    have hfirst : first ∈ objects :=
      (List.mem_filter.1 (hfilter ▸ List.mem_cons_self : first ∈ objects.filter _)).1
    have hkeys : (first.shown.fields.map (·.name)).Nodup := by
      simpa [TypedObject.shown, Function.comp_def, Field.ofSample] using h first hfirst
    simp only [RecordType.foldl_merge_fields, List.flatMap_cons]
    exact (Settles.of_nodup hkeys).foldl_mergeField _

def valuesAt (objects : List TypedObject) (type key : String) : List Json :=
  ((objects.filter (·.type = type)).flatMap (·.members)).filterMap fun (k, v) =>
    if k = key then some v else none

theorem mem_valuesAt {objects : List TypedObject} {type key : String} {v : Json} :
    v ∈ valuesAt objects type key ↔ ∃ o ∈ objects, o.type = type ∧ (key, v) ∈ o.members := by
  simp only [valuesAt, List.mem_filterMap, List.mem_flatMap, List.mem_filter, decide_eq_true_eq]
  constructor
  . rintro ⟨⟨k, w⟩, ⟨o, ⟨ho, htype⟩, hmem⟩, hkey⟩
    split at hkey
    . next heq =>
      cases hkey
      exact ⟨o, ho, htype, heq ▸ hmem⟩
    . cases hkey
  . rintro ⟨o, ho, htype, hmem⟩
    exact ⟨(key, v), ⟨o, ⟨ho, htype⟩, hmem⟩, by simp⟩

theorem mem_names_definitionOf {objects : List TypedObject} (h : KeysNodup objects)
    {type key : String} {v : Json} (hv : v ∈ valuesAt objects type key) :
    key ∈ (definitionOf objects type).fields.map (·.name) := by
  obtain ⟨o, ho, htype, hmem⟩ := mem_valuesAt.1 hv
  have hshown : Field.ofSample key v ∈ o.shown.fields := List.mem_map.2 ⟨(key, v), hmem, rfl⟩
  have hfilter : o ∈ objects.filter (·.type = type) := List.mem_filter.2 ⟨ho, by simpa using htype⟩
  exact (settles_definitionOf h type).covers _ (List.mem_flatMap.2 ⟨o, hfilter, hshown⟩)

theorem exists_of_mem_definitionOf {objects : List TypedObject} (h : KeysNodup objects)
    {type : String} {f : Field} (hf : f ∈ (definitionOf objects type).fields) :
    ∃ key, ∃ w ∈ valuesAt objects type key, f = Field.ofSample key w
      ∧ ∀ v ∈ valuesAt objects type key,
        ¬(Field.ofSample key v).refines (Field.ofSample key w) := by
  have hsettles := settles_definitionOf h type
  obtain ⟨o, ho, hshown⟩ := List.mem_flatMap.1 (hsettles.subset f hf)
  obtain ⟨⟨key, w⟩, hmem, rfl⟩ := List.mem_map.1 hshown
  obtain ⟨ho, htype⟩ := List.mem_filter.1 ho
  refine ⟨key, w, mem_valuesAt.2 ⟨o, ho, by simpa using htype, hmem⟩, rfl, ?_⟩
  intro v hv
  obtain ⟨o', ho', htype', hmem'⟩ := mem_valuesAt.1 hv
  have hshown' : Field.ofSample key v ∈ o'.shown.fields := List.mem_map.2 ⟨(key, v), hmem', rfl⟩
  have hfilter : o' ∈ objects.filter (·.type = type) :=
    List.mem_filter.2 ⟨ho', by simpa using htype'⟩
  exact hsettles.settled _ hf _ (List.mem_flatMap.2 ⟨o', hfilter, hshown'⟩) rfl

end Schema
end FixtureLab

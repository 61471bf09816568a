import FixtureLab.Proofs.Schema.Agreement
import FixtureLab.Proofs.Schema.Comparable

/-!
This module contains the order of the inferred types: a type has its place from its first object,
which follows the objects nested in it. Fields that later objects bring along do not move it.
-/

namespace FixtureLab
namespace Schema

def Precedes (types : List RecordType) (a b : String) : Prop :=
  [a, b].Sublist (types.map (·.name))

instance (types : List RecordType) (a b : String) : Decidable (Precedes types a b) :=
  inferInstanceAs (Decidable ([a, b].Sublist (types.map (·.name))))

theorem pair_sublist_iff {α : Type} {a b : α} {before after : List α}
    (h : (before ++ b :: after).Nodup) : [a, b].Sublist (before ++ b :: after) ↔ a ∈ before := by
  constructor
  . intro hsub
    obtain ⟨l, r, heq, ha, hb⟩ := List.cons_sublist_iff.1 hsub
    have hbefore : ¬[b, b].Sublist (before ++ b :: after) := List.nodup_iff_sublist.1 h b
    rcases List.append_eq_append_iff.1 heq with ⟨mid, rfl, hmid⟩ | ⟨mid, rfl, -⟩
    . cases mid with
      | nil => simpa using ha
      | cons x mid =>
        cases hmid
        exact absurd (heq ▸ (List.singleton_sublist.2 (by simp)).append hb) hbefore
    . exact List.mem_append_left _ ha
  . intro ha
    exact (List.singleton_sublist.2 ha).append (List.singleton_sublist.2 List.mem_cons_self)

def objectsBefore (objects : List TypedObject) (type : String) : List TypedObject :=
  objects.takeWhile (·.type ≠ type)

theorem exists_first_object {objects : List TypedObject} {type : String}
    (h : type ∈ objects.map (·.type)) :
    ∃ first after, objects.find? (·.type = type) = some first ∧ first.type = type
      ∧ objects = objectsBefore objects type ++ first :: after
      ∧ type ∉ (objectsBefore objects type).map (·.type) := by
  obtain ⟨names, rest, hnames, hnew⟩ := List.eq_append_cons_of_mem h
  obtain ⟨before, more, rfl, rfl, hmore⟩ := List.map_eq_append_iff.1 hnames
  obtain ⟨first, after, rfl, rfl, -⟩ := List.map_eq_cons_iff.1 hmore
  have hother : ∀ o ∈ before, o.type ≠ first.type :=
    fun o ho heq => hnew (heq ▸ List.mem_map_of_mem ho)
  have hbefore : objectsBefore (before ++ first :: after) first.type = before := by
    rw [objectsBefore, List.takeWhile_append_of_pos (by simpa using hother),
      List.takeWhile_cons_of_neg (by simp), List.append_nil]
  rw [hbefore]
  refine ⟨first, after, ?_, rfl, rfl, hnew⟩
  exact List.find?_eq_some_iff_append.2 ⟨by simp, before, after, rfl, by simpa using hother⟩

theorem precedes_definitionsOf_iff {objects : List TypedObject} {type : String}
    (h : type ∈ objects.map (·.type)) (a : String) :
    Precedes (definitionsOf objects) a type
      ↔
    a ∈ (objectsBefore objects type).map (·.type) := by
  obtain ⟨first, after, -, rfl, hobjects, hnew⟩ := exists_first_object h
  have hnames : (definitionsOf objects).map (·.name) = (objects.map (·.type)).eraseDups := by
    simp [definitionsOf, Function.comp_def]
  have hkeys : objects.map (·.type)
      = (objectsBefore objects first.type).map (·.type) ++ first.type :: after.map (·.type) := by
    rw [← List.map_cons, ← List.map_append, ← hobjects]
  obtain ⟨rest, hsplit⟩ := Table.exists_eraseDups_split hnew (after.map (·.type))
  rw [← hkeys] at hsplit
  have hnodup := Table.nodup_eraseDups (objects.map (·.type))
  rw [hsplit] at hnodup
  rw [Precedes, hnames, hsplit, pair_sublist_iff hnodup, List.mem_eraseDups]

def NestedFirst (objects : List TypedObject) : Prop :=
  ∀ before o after, objects = before ++ o :: after → ∀ o' ∈ objectsBelow o.members, o' ∈ before

namespace NestedFirst

theorem nil : NestedFirst [] := by
  intro before o after h
  simp at h

theorem append {objects more : List TypedObject} (h : NestedFirst objects)
    (hmore : NestedFirst more) : NestedFirst (objects ++ more) := by
  intro before o after heq o' ho'
  rcases List.append_eq_append_iff.1 heq with ⟨mid, rfl, hmid⟩ | ⟨_ | ⟨x, mid⟩, rfl, hmid⟩
  . exact List.mem_append_right _ (hmore mid o after hmid o' ho')
  . simpa using hmore [] o after (by simpa using hmid.symm) o' ho'
  . cases hmid
    exact h before o mid rfl o' ho'

theorem concat {objects : List TypedObject} (h : NestedFirst objects) {o : TypedObject}
    (ho : objectsBelow o.members ⊆ objects) : NestedFirst (objects ++ [o]) := by
  intro before o₀ after heq o' ho'
  rcases List.eq_nil_or_concat after with rfl | ⟨after, last, rfl⟩
  . obtain ⟨rfl, hlast⟩ := List.append_inj' heq rfl
    cases hlast
    exact ho ho'
  . rw [List.concat_eq_append, ← List.cons_append, ← List.append_assoc] at heq
    exact h before o₀ after (List.append_inj' heq rfl).1 o' ho'

end NestedFirst

mutual

theorem nestedFirst_objectsIn (type : String) (v : Json) : NestedFirst (objectsIn type v) := by
  match v with
  | .obj members => exact (nestedFirst_objectsBelow members).concat fun _ ho => ho
  | .arr items =>
    rw [objectsIn]
    split
    . exact nestedFirst_objectsAmong type items
    . exact .nil
  | .null => exact .nil
  | .bool _ => exact .nil
  | .int _ => exact .nil
  | .float _ => exact .nil
  | .str _ => exact .nil

theorem nestedFirst_objectsBelow (members : List (String × Json)) :
    NestedFirst (objectsBelow members) := by
  match members with
  | [] => exact .nil
  | (key, v) :: rest =>
    exact (nestedFirst_objectsIn _ v).append (nestedFirst_objectsBelow rest)

theorem nestedFirst_objectsAmong (type : String) (items : List Json) :
    NestedFirst (objectsAmong type items) := by
  match items with
  | [] => exact .nil
  | .obj members :: rest =>
    rw [objectsAmong, List.append_cons]
    exact (nestedFirst_objectsIn type (.obj members)).append (nestedFirst_objectsAmong type rest)
  | .null :: rest => exact nestedFirst_objectsAmong type rest
  | .bool _ :: rest => exact nestedFirst_objectsAmong type rest
  | .int _ :: rest => exact nestedFirst_objectsAmong type rest
  | .float _ :: rest => exact nestedFirst_objectsAmong type rest
  | .str _ :: rest => exact nestedFirst_objectsAmong type rest
  | .arr _ :: rest => exact nestedFirst_objectsAmong type rest

end

theorem nestedFirst_objectsOf (type : String) (samples : List (String × Json)) :
    NestedFirst (objectsOf type samples) := by
  induction samples with
  | nil => exact .nil
  | cons sample rest ih => exact (nestedFirst_objectsIn type sample.2).append ih

theorem RecordType.mem_of_mem_mergeField {fields : List Field} {f g : Field}
    (h : g ∈ mergeField fields f) : g ∈ fields ∨ g = f := by
  induction fields with
  | nil => exact .inr (List.mem_singleton.1 h)
  | cons e rest ih =>
    rw [mergeField] at h
    split at h
    . split at h
      . exact (List.mem_cons.1 h).symm.imp_left (List.mem_cons_of_mem e)
      . exact .inl h
    . rcases List.mem_cons.1 h with rfl | h
      . exact .inl List.mem_cons_self
      . exact (ih h).imp_left (List.mem_cons_of_mem e)

theorem RecordType.mem_of_mem_foldl_mergeField {fields more : List Field} {g : Field}
    (h : g ∈ more.foldl mergeField fields) : g ∈ fields ∨ g ∈ more := by
  induction more generalizing fields with
  | nil => exact .inl h
  | cons f more ih =>
    rcases ih h with h | h
    . exact (mem_of_mem_mergeField h).imp_right fun heq => List.mem_cons.2 (.inl heq)
    . exact .inr (List.mem_cons_of_mem f h)

theorem exists_member_of_mem_definitionOf {objects : List TypedObject} {type : String} {f : Field}
    (hf : f ∈ (definitionOf objects type).fields) :
    ∃ o ∈ objects, o.type = type ∧ ∃ m ∈ o.members, f = Field.ofSample m.1 m.2 := by
  have hshown : ∃ o ∈ objects.filter (·.type = type), f ∈ o.shown.fields := by
    unfold definitionOf at hf
    cases hfilter : objects.filter (·.type = type) with
    | nil => simp [hfilter] at hf
    | cons first later =>
      simp only [hfilter, RecordType.foldl_merge_fields] at hf
      rcases RecordType.mem_of_mem_foldl_mergeField hf with hf | hf
      . exact ⟨first, List.mem_cons_self, hf⟩
      . obtain ⟨o, ho, hf⟩ := List.mem_flatMap.1 hf
        exact ⟨o, List.mem_cons_of_mem first ho, hf⟩
  obtain ⟨o, ho, hf⟩ := hshown
  obtain ⟨ho, htype⟩ := List.mem_filter.1 ho
  obtain ⟨m, hm, rfl⟩ := List.mem_map.1 hf
  exact ⟨o, ho, by simpa using htype, m, hm, rfl⟩

theorem eq_of_objectName {objects : List TypedObject} {type object : String} {f : Field}
    (hf : f ∈ (definitionOf objects type).fields) (hobject : f.objectName = some object) :
    object = Text.upperCamelCase f.name := by
  obtain ⟨-, -, -, ⟨key, v⟩, -, rfl⟩ := exists_member_of_mem_definitionOf hf
  rw [objectName_ofSample] at hobject
  split at hobject
  . exact (Option.some.inj hobject).symm
  . cases hobject

theorem objectsDefined_definitionsOf (type : String) (samples : List (String × Json)) :
    ObjectsDefined (definitionsOf (objectsOf type samples)) := by
  intro t ht f hf hkind
  obtain ⟨type', -, rfl⟩ := List.mem_map.1 ht
  obtain ⟨o, ho, -, ⟨key, v⟩, hm, rfl⟩ := exists_member_of_mem_definitionOf hf
  refine ⟨Text.upperCamelCase key, ?_, by rw [objectName_ofSample, if_pos hkind]⟩
  obtain ⟨members, hbelow⟩ := exists_object_of_kindOf (Text.upperCamelCase key) hkind
  rw [mem_names_definitionsOf]
  exact List.mem_map_of_mem
    (mem_objectsOf_of_below o ho _ (mem_objectsBelow.2 ⟨_, hm, hbelow⟩))

theorem Inferrer.render_of_samples {name : String} {samples : List (String × Json)} {t : Inferrer}
    (h : ofSamples name samples = .ok t) :
    Source.render t.finish = .ok t.finish.sourceFile.text := by
  apply Definitions.render_eq_sourceFile
  have htypes : t.finish.types = definitionsOf (objectsOf (Text.upperCamelCase name) samples) :=
    (Inferrer.ofSamples_of_ok h).2.1
  rw [error?_eq_none_iff, htypes]
  exact objectsDefined_definitionsOf _ samples

/--
Types stand in the order of their first objects: before a type are those of which an object is
complete before its own first one, as are the types of all objects that the first one holds. A type
that its fields name only because of later objects can stand behind it.
-/
theorem type_order_of_samples {name : String} {samples : List (String × Json)} {t : Inferrer}
    (h : Inferrer.ofSamples name samples = .ok t) :
    let objects := objectsOf (Text.upperCamelCase name) samples
    let types := t.finish.types
    (types.map (·.name)).Nodup
      ∧ ∀ type ∈ types,
        (∀ object, Precedes types object type.name
            ↔ object ∈ (objectsBefore objects type.name).map (·.type))
          ∧ ∃ first, objects.find? (·.type = type.name) = some first
            ∧ ∀ f ∈ type.fields, ∀ object, f.objectName = some object →
              (∃ v, (f.name, v) ∈ first.members ∧ kindOf v = .object) →
              Precedes types object type.name := by
  intro objects types
  have htypes : types = definitionsOf objects := (Inferrer.ofSamples_of_ok h).2.1
  rw [htypes]
  refine ⟨?nodup, ?order⟩
  case nodup =>
    simpa [definitionsOf, Function.comp_def] using Table.nodup_eraseDups (objects.map (·.type))
  case order =>
    intro type htype
    have hmem := (mem_names_definitionsOf objects _).1 (List.mem_map_of_mem htype)
    have hprecedes := precedes_definitionsOf_iff hmem
    obtain ⟨first, after, hfirst, -, hobjects, -⟩ := exists_first_object hmem
    refine ⟨hprecedes, first, hfirst, ?_⟩
    rintro f hf object hobject ⟨v, hv, hkind⟩
    obtain ⟨_, -, rfl⟩ := List.mem_map.1 htype
    cases eq_of_objectName hf hobject
    obtain ⟨members, hbelow⟩ := exists_object_of_kindOf (Text.upperCamelCase f.name) hkind
    have hbefore := nestedFirst_objectsOf _ samples _ first after hobjects _
      (mem_objectsBelow.2 ⟨_, hv, hbelow⟩)
    exact (hprecedes _).2 (List.mem_map_of_mem hbefore)

def partsAndBoxes : List (String × Json) :=
  [("a.json", .obj [("id", .int 1), ("parts", .arr [.obj [], .obj [("item", .obj [])]])]),
    ("b.json", .obj [("box", .obj []), ("item", .null)])]

theorem type_order_of_partsAndBoxes :
    ∃ t, Inferrer.ofSamples "base" partsAndBoxes = .ok t
      ∧ t.finish.types.map (fun type => (type.name, type.fields.filterMap (·.objectName)))
        = [("Parts", ["Item"]), ("Item", []), ("Base", ["Parts", "Box"]), ("Box", [])]
      ∧ Precedes t.finish.types "Parts" "Base"
      ∧ ¬Precedes t.finish.types "Item" "Parts" := by
  have haccepted : (Inferrer.ofSamples "base" partsAndBoxes).toOption.isSome := by decide
  cases h : Inferrer.ofSamples "base" partsAndBoxes with
  | error e => simp [h, Except.toOption] at haccepted
  | ok t =>
    obtain ⟨-, horder⟩ := type_order_of_samples h
    have htypes : t.finish.types = definitionsOf (objectsOf "Base" partsAndBoxes) :=
      (Inferrer.ofSamples_of_ok h).2.1
    have hparts : definitionOf (objectsOf "Base" partsAndBoxes) "Parts" ∈ t.finish.types := by
      rw [htypes]
      decide
    have hbase : definitionOf (objectsOf "Base" partsAndBoxes) "Base" ∈ t.finish.types := by
      rw [htypes]
      decide
    obtain ⟨-, first, hfirst, hnested⟩ := horder _ hbase
    refine ⟨t, rfl, ?types, ?nested, ?late⟩
    case types =>
      rw [htypes]
      decide
    case nested =>
      cases hfirst
      apply hnested
        { name := "parts", kind := .object, objectName := some "Parts", isArray := true }
      . decide
      . rfl
      . exact ⟨.arr [.obj [], .obj [("item", .obj [])]], by simp, rfl⟩
    case late =>
      have hbefore : "Item" ∉
          (objectsBefore (objectsOf "Base" partsAndBoxes) "Parts").map (·.type) := by decide
      exact fun hitem => hbefore (((horder _ hparts).1 "Item").1 hitem)

def latePart : List (String × Json) :=
  [("a.json", .obj [("id", .int 1)]), ("b.json", .obj [("part", .obj [])])]

theorem holder_precedes_latePart :
    ∃ t, Inferrer.ofSamples "base" latePart = .ok t
      ∧ HoldsObject t.finish.types "Base" "Part"
      ∧ ¬Relation.TransGen (HoldsObject t.finish.types) "Part" "Base"
      ∧ ¬Precedes t.finish.types "Part" "Base" := by
  refine ⟨_, rfl, ?holds, ?noCycle, by decide⟩
  case holds =>
    exact ⟨_, .head _, rfl, { name := "part", kind := .object, objectName := some "Part" },
      by decide, rfl, rfl⟩
  case noCycle =>
    intro hcycle
    have hempty : ∀ type ∈ definitionsOf (objectsOf "Base" latePart),
        type.name = "Part" → type.fields = [] := by decide
    obtain ⟨_, ⟨type, htype, hname, f, hf, -⟩, -⟩ := Relation.TransGen.head'_iff.1 hcycle
    rw [hempty type htype hname] at hf
    cases hf

end Schema
end FixtureLab

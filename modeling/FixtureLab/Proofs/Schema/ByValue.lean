import FixtureLab.Proofs.Schema.ClosedForm
import FixtureLab.Proofs.Schema.StructNames
import Mathlib.Data.Fintype.EquivFin
import Mathlib.Data.List.TakeWhile

/-!
This module contains which structs hold others by value, in fields that are not behind a `Vec`. The
structs of a file have a finite size iff none of them holds itself in the end. In the source that is
rendered for samples this is decided by the first known values under the keys of each type.
-/

namespace FixtureLab
namespace Schema

section Settled

variable {objects : List TypedObject} {type key : String}

def firstKnown? (objects : List TypedObject) (type key : String) : Option Json :=
  (valuesAt objects type key).find? (kindOf · ≠ .unknown)

theorem Field.outcome?_eq_some_iff_of_object {shown : List Field} {f : Field}
    (hf : f.kind = .object) :
    outcome? shown = some f ↔ shown.find? (·.kind ≠ .unknown) = some f := by
  have hfind : shown.find? (·.kind ≠ .unknown) = (shown.dropWhile (·.kind = .unknown)).head? := by
    simp only [ne_eq, decide_not]
    exact List.find?_not_eq_head?_dropWhile _ shown
  rw [hfind, outcome?]
  cases hdrop : shown.dropWhile (·.kind = .unknown) with
  | nil =>
    have hunknown : ∀ g ∈ shown, g.kind = .unknown := by
      simpa using List.dropWhile_eq_nil_iff.1 hdrop
    refine ⟨fun h => ?_, fun h => by cases h⟩
    have hmem : f ∈ shown := by
      rcases Option.or_eq_some_iff.1 h with h | ⟨-, h⟩
      . exact List.mem_of_find?_eq_some h
      . exact List.mem_of_head? h
    rw [hunknown f hmem] at hf
    cases hf
  | cons c later =>
    by_cases hint : c.kind = .int64
    . -- What an integer comes to is no object, and neither is the integer.
      simp only [hint, if_true, List.head?_cons]
      constructor
      . intro h
        rcases Option.or_eq_some_iff.1 h with h | ⟨-, h⟩
        . have hfloat := List.find?_some h
          simp [hf] at hfloat
        . exact h
      . intro h
        cases h
        rw [hint] at hf
        cases hf
    . simp only [hint, if_false, List.head?_cons]

theorem RecordType.foldl_mergeField_of_nodup {fields : List Field}
    (h : (fields.map (·.name)).Nodup) : fields.foldl mergeField [] = fields := by
  induction fields using List.reverseRecOn with
  | nil => rfl
  | append_singleton fields f ih =>
    rw [List.map_append, List.nodup_append'] at h
    obtain ⟨hfields, -, hdisjoint⟩ := h
    rw [List.foldl_append, ih hfields, List.foldl_cons, List.foldl_nil]
    exact mergeField_of_not_mem fun hmem => hdisjoint hmem (List.mem_singleton_self _)

theorem fields_definitionOf (h : KeysNodup objects) (type : String) :
    (definitionOf objects type).fields
      =
    ((objects.filter (·.type = type)).flatMap (·.shown.fields)).foldl RecordType.mergeField [] := by
  unfold definitionOf
  cases hfilter : objects.filter (·.type = type) with
  | nil => rfl
  | cons first later =>
    have hfirst : first ∈ objects :=
      (List.mem_filter.1 (hfilter ▸ List.mem_cons_self : first ∈ objects.filter _)).1
    have hkeys : (first.shown.fields.map (·.name)).Nodup := by
      simpa [TypedObject.shown, Function.comp_def, Field.ofSample] using h first hfirst
    simp only [RecordType.foldl_merge_fields, List.flatMap_cons, List.foldl_append]
    rw [RecordType.foldl_mergeField_of_nodup hkeys]

theorem filter_ofSample (key : String) (members : List (String × Json)) :
    (members.map fun (k, v) => Field.ofSample k v).filter (·.name = key)
      =
    (members.filterMap fun (k, v) => if k = key then some v else none).map
      (Field.ofSample key) := by
  induction members with
  | nil => rfl
  | cons m rest ih =>
    obtain ⟨k, v⟩ := m
    rw [List.map_cons, List.filter_cons, ih, List.filterMap_cons]
    by_cases hkey : k = key <;> simp [Field.ofSample, hkey]

theorem field?_definitionOf (h : KeysNodup objects) :
    (definitionOf objects type).field? key
      =
    Field.outcome? ((valuesAt objects type key).map (Field.ofSample key)) := by
  rw [valuesAt, ← filter_ofSample, List.map_flatMap, RecordType.field?, fields_definitionOf h]
  exact RecordType.named?_foldl_mergeField key _

theorem field?_eq_some_iff (h : KeysNodup objects) {f : Field} :
    (definitionOf objects type).field? key = some f
      ↔
    f ∈ (definitionOf objects type).fields ∧ f.name = key := by
  have hnodup := (settles_definitionOf h type).nodup
  constructor
  . intro hf
    exact ⟨List.mem_of_find?_eq_some hf, by simpa using List.find?_some hf⟩
  . rintro ⟨hf, rfl⟩
    have hsome : ((definitionOf objects type).field? f.name).isSome :=
      List.find?_isSome.2 ⟨f, hf, by simp⟩
    obtain ⟨g, hg⟩ := Option.isSome_iff_exists.1 hsome
    have hname : g.name = f.name := by simpa using List.find?_some hg
    rw [hg, List.inj_on_of_nodup_map hnodup (List.mem_of_find?_eq_some hg) hf hname]

theorem exists_single_iff (h : KeysNodup objects) :
    (∃ f ∈ (definitionOf objects type).fields, f.name = key ∧ f.kind = .object ∧ ¬f.isArray)
      ↔
    ∃ members, firstKnown? objects type key = some (.obj members) := by
  have hknown : ∀ f : Field, f.kind = .object →
      ((definitionOf objects type).field? key = some f
        ↔ (firstKnown? objects type key).map (Field.ofSample key) = some f) := by
    intro f hf
    rw [field?_definitionOf h, Field.outcome?_eq_some_iff_of_object hf, List.find?_map]
    rfl
  constructor
  . rintro ⟨f, hf, hname, hkind, hsingle⟩
    obtain ⟨v, hv, rfl⟩ :=
      Option.map_eq_some_iff.1 ((hknown f hkind).1 ((field?_eq_some_iff h).2 ⟨hf, hname⟩))
    cases v with
    | obj members => exact ⟨members, hv⟩
    | arr items => simp [Field.isArrayValue] at hsingle
    | _ => cases hkind
  . rintro ⟨members, hfirst⟩
    have hfield := (hknown (Field.ofSample key (.obj members)) rfl).2 (by rw [hfirst]; rfl)
    obtain ⟨hmem, hname⟩ := (field?_eq_some_iff h).1 hfield
    exact ⟨_, hmem, hname, rfl, by simp [Field.isArrayValue]⟩

end Settled

namespace SourceFile

variable {s : SourceFile} {a : String}

/-- A field of struct `a` can be null and is otherwise a struct `b` of the file. -/
def HoldsByValue (s : SourceFile) (a b : String) : Prop :=
  b ∈ s.structs.map (·.name)
    ∧ ∃ struct ∈ s.structs, struct.name = a
      ∧ ∃ f ∈ struct.fields, f.type = .option (.named b)

instance (s : SourceFile) (a b : String) : Decidable (s.HoldsByValue a b) :=
  inferInstanceAs (Decidable (_ ∧ ∃ struct ∈ s.structs, _))

def FiniteSize (s : SourceFile) (a : String) : Prop := Acc (fun b a => s.HoldsByValue a b) a

theorem FiniteSize.not_holds_itself (h : s.FiniteSize a) :
    ¬Relation.TransGen s.HoldsByValue a a := by
  induction h with
  | intro a _ ih =>
    intro hcycle
    obtain ⟨b, hab, hba⟩ := Relation.TransGen.head'_iff.1 hcycle
    exact ih b hab (.tail' hba hab)

abbrev StructName (s : SourceFile) : Type := { a : String // a ∈ s.structs.map (·.name) }

theorem finiteSize_of_acyclic (h : ∀ a, ¬Relation.TransGen s.HoldsByValue a a) (a : String) :
    s.FiniteSize a := by
  have hwf : WellFounded fun b a : s.StructName =>
      Relation.TransGen s.HoldsByValue a.1 b.1 := by
    have : IsTrans s.StructName fun b a => Relation.TransGen s.HoldsByValue a.1 b.1 :=
      ⟨fun _ _ _ hba hcb => hcb.trans hba⟩
    have : Std.Irrefl fun b a : s.StructName => Relation.TransGen s.HoldsByValue a.1 b.1 :=
      ⟨fun a => h a.1⟩
    exact Finite.wellFounded_of_trans_of_irrefl _
  have hnamed : ∀ a : s.StructName, s.FiniteSize a.1 := by
    intro a
    induction a using hwf.induction with
    | _ a ih => exact Acc.intro a.1 fun b hab => ih ⟨b, hab.1⟩ (.single hab)
  exact Acc.intro a fun b hab => hnamed ⟨b, hab.1⟩

theorem finiteSize_iff_acyclic :
    (∀ struct ∈ s.structs, s.FiniteSize struct.name)
      ↔
    ∀ a, ¬Relation.TransGen s.HoldsByValue a a := by
  refine ⟨fun h a hcycle => ?_, fun h struct _ => finiteSize_of_acyclic h struct.name⟩
  obtain ⟨_, ⟨-, struct, hstruct, rfl, -⟩, -⟩ := Relation.TransGen.head'_iff.1 hcycle
  exact (h struct hstruct).not_holds_itself hcycle

end SourceFile

namespace Field

theorem sourceType_eq_option_named {f : Field} {name : String}
    (h : f.sourceType = .option (.named name)) :
    f.kind ≠ .unknown ∧ ¬f.isArray ∧ name = Source.scalarType f := by
  unfold sourceType at h
  split at h <;> simp_all [SourceType.option, SourceType.vec]

theorem scalarType_of_object {f : Field} (hkind : f.kind = .object) :
    Source.scalarType f = Source.typeIdent f.typeName := by
  rw [Source.scalarType, hkind]

theorem kind_of_scalarType_eq {f : Field} {type : String} (hknown : f.kind ≠ .unknown)
    (h : Source.scalarType f = Source.typeIdent type)
    (hstring : f.kind = .string → Source.typeIdent type ≠ "String") : f.kind = .object := by
  have hsmall : ∀ name ∈ ["i64", "f64", "bool"], name.toList.head?.any Char.isLower := by decide
  have hne : ∀ name ∈ ["i64", "f64", "bool"], name ≠ Source.typeIdent type :=
    fun name hname => (Source.typeIdent_ne_of_isLower (hsmall name hname) type).symm
  unfold Source.scalarType at h
  cases hkind : f.kind with
  | object => rfl
  | unknown => exact absurd hkind hknown
  | string => exact absurd (by simpa [hkind] using h.symm) (hstring hkind)
  | _ => exact absurd (by simpa [hkind] using h) (hne _ (by decide))

end Field

/--
A key of the type that struct `x` is rendered for has an object as its first known value, and struct
`y` is rendered for the type of that.
-/
def HoldsOne (objects : List TypedObject) (x y : String) : Prop :=
  ∃ type key members, firstKnown? objects type key = some (.obj members)
    ∧ Source.typeIdent type = x ∧ Source.typeIdent (Text.upperCamelCase key) = y

theorem not_transGen_holdsOne_self {objects : List TypedObject} (rank : String → Nat)
    (h : ∀ o ∈ objects, ∀ m ∈ o.members, kindOf m.2 = .object → Field.isArrayValue m.2 = false →
      rank (Source.typeIdent (Text.upperCamelCase m.1)) < rank (Source.typeIdent o.type))
    (x : String) : ¬Relation.TransGen (HoldsOne objects) x x := by
  have hstep : ∀ x y, HoldsOne objects x y → rank y < rank x := by
    rintro _ _ ⟨type, key, members, hfirst, rfl, rfl⟩
    obtain ⟨o, ho, rfl, hmember⟩ := mem_valuesAt.1 (List.mem_of_find?_eq_some hfirst)
    exact h o ho (key, .obj members) hmember rfl rfl
  have hless : ∀ y, Relation.TransGen (HoldsOne objects) x y → rank y < rank x := by
    intro y hxy
    induction hxy with
    | single hxy => exact hstep _ _ hxy
    | tail _ hyz ih => exact Nat.lt_trans (hstep _ _ hyz) ih
  exact fun hcycle => Nat.lt_irrefl _ (hless x hcycle)

theorem typeName_of_mem_definitionOf {objects : List TypedObject} {type : String} {f : Field}
    (hf : f ∈ (definitionOf objects type).fields) (hkind : f.kind = .object) :
    f.typeName = Text.upperCamelCase f.name := by
  obtain ⟨-, -, -, ⟨key, v⟩, -, rfl⟩ := exists_member_of_mem_definitionOf hf
  simp only [Field.typeName, hkind, objectName_ofSample, if_true]
  rfl

section Samples

variable {model : String} {samples : List (String × Json)} {d : Definitions} {x y : String}

theorem HoldsOne.holdsByValue (hd : d.types = definitionsOf (objectsOf model samples))
    (hkeys : KeysNodup (objectsOf model samples)) (h : HoldsOne (objectsOf model samples) x y) :
    d.sourceFile.HoldsByValue x y := by
  obtain ⟨type, key, members, hfirst, rfl, rfl⟩ := h
  obtain ⟨o, ho, rfl, hmember⟩ := mem_valuesAt.1 (List.mem_of_find?_eq_some hfirst)
  constructor
  . have hobject := mem_objectsIn_obj (Text.upperCamelCase key) members
    have hbelow := mem_objectsOf_of_below o ho _ (mem_objectsBelow.2 ⟨_, hmember, hobject⟩)
    rw [Definitions.names_sourceFile, hd]
    exact List.mem_map_of_mem ((mem_names_definitionsOf _ _).2 (List.mem_map_of_mem hbelow))
  . obtain ⟨f, hf, rfl, hkind, hsingle⟩ := (exists_single_iff hkeys).2 ⟨members, hfirst⟩
    have htype : definitionOf (objectsOf model samples) o.type ∈ d.types := by
      rw [hd]
      exact List.mem_map_of_mem (List.mem_eraseDups.2 (List.mem_map_of_mem ho))
    refine ⟨_, List.mem_map_of_mem htype, ?_, ?_⟩
    . rw [RecordType.name_toStruct, definitionOf_name]
    . obtain ⟨g, hg, -, hgtype⟩ := RecordType.exists_field_toStruct hf
        ((Source.eqTypes d).contains (definitionOf (objectsOf model samples) o.type).name)
      have hknown : f.kind ≠ .unknown := by simp [hkind]
      refine ⟨g, hg, ?_⟩
      rw [hgtype, Field.sourceType_of_single hknown hsingle, Field.scalarType_of_object hkind,
        typeName_of_mem_definitionOf hf hkind]

theorem holdsByValue_iff (hd : d.types = definitionsOf (objectsOf model samples))
    (hkeys : KeysNodup (objectsOf model samples))
    (hstring : "String" ∈ d.sourceFile.structs.map (·.name) →
      ∀ type ∈ d.types, ∀ f ∈ type.fields, f.kind = .string → f.isArray) :
    d.sourceFile.HoldsByValue x y ↔ HoldsOne (objectsOf model samples) x y := by
  refine ⟨fun h => ?_, HoldsOne.holdsByValue hd hkeys⟩
  obtain ⟨hy, struct, hstruct, rfl, g, hg, hgtype⟩ := h
  obtain ⟨t, ht, rfl⟩ := List.mem_map.1 hstruct
  obtain ⟨f, hf, -, hftype⟩ := RecordType.exists_of_mem_toStruct hg
  obtain ⟨hknown, hsingle, rfl⟩ := Field.sourceType_eq_option_named (hftype ▸ hgtype)
  have hkind : f.kind = .object := by
    rw [Definitions.names_sourceFile] at hy hstring
    obtain ⟨type', htype', heq⟩ := List.mem_map.1 hy
    refine Field.kind_of_scalarType_eq hknown heq.symm fun hkind htext => hsingle ?_
    exact hstring (htext ▸ List.mem_map_of_mem htype') t ht f hf hkind
  rw [hd] at ht
  obtain ⟨type, -, rfl⟩ := List.mem_map.1 ht
  obtain ⟨members, hfirst⟩ := (exists_single_iff hkeys).1 ⟨f, hf, rfl, hkind, hsingle⟩
  refine ⟨type, f.name, members, hfirst, ?_, ?_⟩
  . rw [RecordType.name_toStruct, definitionOf_name]
  . rw [Field.scalarType_of_object hkind, typeName_of_mem_definitionOf hf hkind]

end Samples

/--
In the structs rendered for samples, what is held by value is what the samples have as the first
known value under a key, if that is an object. A struct holds itself, directly or through others,
iff such keys lead from it back to it, and all structs have a finite size iff none does.
-/
theorem finite_size_of_samples {name : String} {samples : List (String × Json)} {t : Inferrer}
    (h : Inferrer.ofSamples name samples = .ok t)
    (hkeys : KeysNodup (objectsOf (Text.upperCamelCase name) samples)) :
    let objects := objectsOf (Text.upperCamelCase name) samples
    let file := t.finish.sourceFile
    Source.render t.finish = .ok file.text
      ∧ (∀ x y, HoldsOne objects x y → file.HoldsByValue x y)
      ∧ (("String" ∈ file.structs.map (·.name) →
            ∀ type ∈ t.finish.types, ∀ f ∈ type.fields, f.kind = .string → f.isArray) →
          (∀ x, Relation.TransGen file.HoldsByValue x x
            ↔ Relation.TransGen (HoldsOne objects) x x)
          ∧ ((∀ struct ∈ file.structs, file.FiniteSize struct.name)
            ↔ ∀ x, ¬Relation.TransGen (HoldsOne objects) x x)) := by
  intro objects file
  have hd : t.finish.types = definitionsOf objects := (Inferrer.ofSamples_of_ok h).2.1
  refine ⟨Inferrer.render_of_samples h, fun x y => HoldsOne.holdsByValue hd hkeys,
    fun hstring => ?_⟩
  have hholds : file.HoldsByValue = HoldsOne objects := by
    funext x y
    exact propext (holdsByValue_iff hd hkeys hstring)
  rw [SourceFile.finiteSize_iff_acyclic, hholds]
  exact ⟨fun _ => .rfl, .rfl⟩

def boughs : List (String × Json) :=
  [("a.json", .obj
      [("node", .obj [("node", .arr [.obj [("leaf", .obj [])], .null]), ("leaf", .null)])]),
    ("b.json", .obj [("leaf", .obj [("node", .arr [])])])]

theorem finite_size_of_boughs :
    ∃ t, Inferrer.ofSamples "t" boughs = .ok t
      ∧ t.finish.sourceFile.structs.map (·.name) = ["Leaf", "Node", "T"]
      ∧ t.finish.sourceFile.HoldsByValue "Node" "Leaf"
      ∧ ∀ struct ∈ t.finish.sourceFile.structs, t.finish.sourceFile.FiniteSize struct.name := by
  have haccepted : (Inferrer.ofSamples "t" boughs).toOption.isSome := by decide
  obtain ⟨t, h⟩ := Inferrer.exists_eq_ok haccepted
  have hd : t.finish.types = definitionsOf (objectsOf "T" boughs) :=
    (Inferrer.ofSamples_of_ok h).2.1
  have hnames : t.finish.sourceFile.structs.map (·.name) = ["Leaf", "Node", "T"] := by
    rw [Definitions.names_sourceFile, hd]
    decide +kernel
  obtain ⟨-, hholds, hfinite⟩ := finite_size_of_samples h (by decide)
  have hsizes := (hfinite (fun hstring => absurd hstring (by rw [hnames]; decide))).2.2
  refine ⟨t, h, hnames, hholds _ _ ?leaf, hsizes ?acyclic⟩
  case leaf => exact ⟨"Node", "leaf", [], by rfl, by decide +kernel, by decide +kernel⟩
  case acyclic =>
    exact not_transGen_holdsOne_self (["Leaf", "Node", "T"].idxOf ·) (by decide +kernel)

def selfNested : List (String × Json) :=
  [("a.json", .obj [("a", .obj [("a", .obj [])])])]

theorem holds_itself_in_selfNested :
    ∃ t, Inferrer.ofSamples "t" selfNested = .ok t
      ∧ Source.render t.finish = .ok t.finish.sourceFile.text
      ∧ t.finish.sourceFile.HoldsByValue "A" "A"
      ∧ ∃ struct ∈ t.finish.sourceFile.structs,
        ¬t.finish.sourceFile.FiniteSize struct.name := by
  have haccepted : (Inferrer.ofSamples "t" selfNested).toOption.isSome := by decide
  obtain ⟨t, h⟩ := Inferrer.exists_eq_ok haccepted
  have hfile : t.finish.sourceFile
      = Definitions.sourceFile { types := definitionsOf (objectsOf "T" selfNested) } :=
    Definitions.sourceFile_congr (Inferrer.ofSamples_of_ok h).2.1
  have hholds : t.finish.sourceFile.HoldsByValue "A" "A" := by
    rw [hfile]
    decide +kernel
  obtain ⟨struct, hstruct, hname, -⟩ := hholds.2
  refine ⟨t, h, Inferrer.render_of_samples h, hholds, struct, hstruct, fun hsize => ?_⟩
  rw [hname] at hsize
  exact hsize.not_holds_itself (.single hholds)

end Schema
end FixtureLab

import FixtureLab.Proofs.Json.Keys
import FixtureLab.Proofs.Schema.Agreement
import FixtureLab.Proofs.Schema.Sampling

/-!
This module contains what the order of samples has no influence on: which samples are accepted,
their entries, the names of types and fields, and every field on which the known values under its
key agree.
-/

namespace FixtureLab
namespace Schema

mutual

theorem keysDistinct_objectsIn (type : String) (v : Json) (h : v.keysDistinct) :
    ∀ o ∈ objectsIn type v, (Json.obj o.members).keysDistinct := by
  match v with
  | .obj members =>
    simp only [objectsIn, List.forall_mem_append, List.forall_mem_singleton]
    exact ⟨keysDistinct_objectsBelow members (Json.keysDistinct_obj.1 h).2, h⟩
  | .arr items =>
    simp only [objectsIn]
    split
    . exact keysDistinct_objectsAmong type items (Json.keysDistinctItems_iff.1 h)
    . simp
  | .null => simp [objectsIn]
  | .bool _ => simp [objectsIn]
  | .int _ => simp [objectsIn]
  | .float _ => simp [objectsIn]
  | .str _ => simp [objectsIn]

theorem keysDistinct_objectsBelow (members : List (String × Json))
    (h : ∀ m ∈ members, m.2.keysDistinct) :
    ∀ o ∈ objectsBelow members, (Json.obj o.members).keysDistinct := by
  match members with
  | [] => simp [objectsBelow]
  | (key, v) :: rest =>
    obtain ⟨hv, hrest⟩ := List.forall_mem_cons.1 h
    simp only [objectsBelow, List.forall_mem_append]
    exact ⟨keysDistinct_objectsIn _ v hv, keysDistinct_objectsBelow rest hrest⟩

theorem keysDistinct_objectsAmong (type : String) (items : List Json)
    (h : ∀ v ∈ items, v.keysDistinct) :
    ∀ o ∈ objectsAmong type items, (Json.obj o.members).keysDistinct := by
  match items with
  | [] => simp [objectsAmong]
  | .obj members :: rest =>
    obtain ⟨hv, hrest⟩ := List.forall_mem_cons.1 h
    simp only [objectsAmong, List.forall_mem_append, List.forall_mem_cons]
    exact ⟨keysDistinct_objectsBelow members (Json.keysDistinct_obj.1 hv).2, hv,
      keysDistinct_objectsAmong type rest hrest⟩
  | .null :: rest => exact keysDistinct_objectsAmong type rest (List.forall_mem_cons.1 h).2
  | .bool _ :: rest => exact keysDistinct_objectsAmong type rest (List.forall_mem_cons.1 h).2
  | .int _ :: rest => exact keysDistinct_objectsAmong type rest (List.forall_mem_cons.1 h).2
  | .float _ :: rest => exact keysDistinct_objectsAmong type rest (List.forall_mem_cons.1 h).2
  | .str _ :: rest => exact keysDistinct_objectsAmong type rest (List.forall_mem_cons.1 h).2
  | .arr _ :: rest => exact keysDistinct_objectsAmong type rest (List.forall_mem_cons.1 h).2

end

theorem keysNodup_objectsOf (type : String) {samples : List (String × Json)}
    (h : ∀ sample ∈ samples, sample.2.keysDistinct) : KeysNodup (objectsOf type samples) := by
  intro o ho
  obtain ⟨sample, hsample, ho⟩ := List.mem_flatMap.1 ho
  exact (Json.keysDistinct_obj.1 (keysDistinct_objectsIn type sample.2 (h sample hsample) o ho)).1

def Definitions.field? (d : Definitions) (type key : String) : Option Field :=
  (d.type? type).bind (·.field? key)

/--
The values under a key whose kinds are known have one shape, and one kind if it is not numeric.
-/
def KnownAgree (vs : List Json) : Prop :=
  ∀ v ∈ vs, ∀ w ∈ vs, kindOf v ≠ .unknown → kindOf w ≠ .unknown →
    Field.isArrayValue v = Field.isArrayValue w
      ∧ (kindOf v = kindOf w ∨ (kindOf v).Numeric ∧ (kindOf w).Numeric)

instance (vs : List Json) : Decidable (KnownAgree vs) :=
  inferInstanceAs (Decidable (∀ v ∈ vs, ∀ w ∈ vs, kindOf v ≠ .unknown → kindOf w ≠ .unknown → _))

theorem Field.ofSample_eq {key : String} {v w : Json} (hkind : kindOf v = kindOf w)
    (hshape : isArrayValue v = isArrayValue w) : ofSample key v = ofSample key w := by
  unfold kindOf at hkind
  simp only [ofSample, hkind, hshape]

theorem KnownAgree.ofSample_eq {vs : List Json} (h : KnownAgree vs) {key : String} {v w : Json}
    (hv : v ∈ vs) (hw : w ∈ vs)
    (hvw : ¬(Field.ofSample key v).refines (Field.ofSample key w))
    (hwv : ¬(Field.ofSample key w).refines (Field.ofSample key v)) :
    Field.ofSample key v = Field.ofSample key w := by
  have hknown := h v hv w hw
  simp only [Field.refines_iff, kind_ofSample, isArray_ofSample] at hvw hwv
  unfold FieldKind.Numeric at hknown
  apply Field.ofSample_eq
  . grind
  . cases hva : Field.isArrayValue v <;> cases hwa : Field.isArrayValue w <;> grind

section Objects

variable {objects objects' : List TypedObject} {d d' : Definitions} {type key : String}

theorem Definitions.type?_of_types (hd : d.types = definitionsOf objects) (type : String) :
    d.type? type
      =
    if type ∈ objects.map (·.type) then some (definitionOf objects type) else none := by
  have hname : (fun t : RecordType => decide (t.name = type)) ∘ definitionOf objects
      = fun name => decide (name = type) := by
    funext name
    simp
  rw [type?, hd, definitionsOf, List.find?_map, hname]
  by_cases hmem : type ∈ objects.map (·.type)
  . rw [if_pos hmem]
    have hsome : ((objects.map (·.type)).eraseDups.find? fun name => decide (name = type)).isSome :=
      List.find?_isSome.2 ⟨type, List.mem_eraseDups.2 hmem, by simp⟩
    obtain ⟨name, hname⟩ := Option.isSome_iff_exists.1 hsome
    have heq : name = type := by simpa using List.find?_some hname
    rw [hname, Option.map_some, heq]
  . rw [if_neg hmem, Option.map_eq_none_iff, List.find?_eq_none]
    intro name hname heq
    exact hmem (by simpa [of_decide_eq_true heq] using hname)

theorem Definitions.field?_of_types (hd : d.types = definitionsOf objects) (type key : String) :
    d.field? type key = (definitionOf objects type).field? key := by
  rw [field?, type?_of_types hd]
  split
  . rfl
  . next hnone =>
    have hfilter : objects.filter (·.type = type) = [] := by
      rw [List.filter_eq_nil_iff]
      exact fun o ho heq => hnone (List.mem_map.2 ⟨o, ho, of_decide_eq_true heq⟩)
    rw [definitionOf, hfilter]
    rfl

theorem mem_definitionOf_of_field? {f : Field}
    (h : (definitionOf objects type).field? key = some f) :
    f ∈ (definitionOf objects type).fields ∧ f.name = key :=
  ⟨List.mem_of_find?_eq_some h, by simpa using List.find?_some h⟩

theorem isSome_field?_iff (h : KeysNodup objects) :
    ((definitionOf objects type).field? key).isSome ↔ ∃ v, v ∈ valuesAt objects type key := by
  have hsettles := settles_definitionOf h type
  constructor
  . intro hsome
    obtain ⟨f, hf⟩ := Option.isSome_iff_exists.1 hsome
    obtain ⟨hmem, hname⟩ := mem_definitionOf_of_field? hf
    obtain ⟨key', w, hw, rfl, -⟩ := exists_of_mem_definitionOf h hmem
    cases hname
    exact ⟨w, hw⟩
  . rintro ⟨v, hv⟩
    obtain ⟨o, ho, htype, hmem⟩ := mem_valuesAt.1 hv
    have hshown : Field.ofSample key v
        ∈ (objects.filter (·.type = type)).flatMap (·.shown.fields) := by
      refine List.mem_flatMap.2 ⟨o, List.mem_filter.2 ⟨ho, by simpa using htype⟩, ?_⟩
      exact List.mem_map.2 ⟨(key, v), hmem, rfl⟩
    obtain ⟨f, hf, hname⟩ := List.mem_map.1 (hsettles.covers _ hshown)
    exact List.find?_isSome.2 ⟨f, hf, decide_eq_true hname⟩

theorem field?_congr (h : KeysNodup objects) (h' : KeysNodup objects')
    (hsame : ∀ o, o ∈ objects ↔ o ∈ objects') (hagree : KnownAgree (valuesAt objects type key)) :
    (definitionOf objects type).field? key = (definitionOf objects' type).field? key := by
  have hvalues : ∀ v, v ∈ valuesAt objects type key ↔ v ∈ valuesAt objects' type key := by
    simp only [mem_valuesAt, hsame, implies_true]
  have hsome : ((definitionOf objects type).field? key).isSome
      ↔ ((definitionOf objects' type).field? key).isSome := by
    simp only [isSome_field?_iff h, isSome_field?_iff h', hvalues]
  cases hf : (definitionOf objects type).field? key with
  | none =>
    rw [hf] at hsome
    exact (Option.not_isSome_iff_eq_none.1 fun h => by cases hsome.2 h).symm
  | some f =>
    cases hf' : (definitionOf objects' type).field? key with
    | none => simp [hf, hf'] at hsome
    | some f' =>
      obtain ⟨hmem, hname⟩ := mem_definitionOf_of_field? hf
      obtain ⟨hmem', hname'⟩ := mem_definitionOf_of_field? hf'
      obtain ⟨_, v, hv, rfl, hsettled⟩ := exists_of_mem_definitionOf h hmem
      obtain ⟨_, w, hw, rfl, hsettled'⟩ := exists_of_mem_definitionOf h' hmem'
      cases hname
      cases hname'
      -- Each of the two fields is among those that the other one was compared with.
      have hvw := hsettled' v ((hvalues v).1 hv)
      have hwv := hsettled w ((hvalues w).2 hw)
      exact congrArg some (hagree.ofSample_eq hv ((hvalues w).2 hw) hvw hwv)

end Objects

theorem Inferrer.ofSamples_perm {name : String} {samples permuted : List (String × Json)}
    {t : Inferrer} (hperm : samples.Perm permuted) (h : ofSamples name samples = .ok t) :
    t = withSamples { model := Text.upperCamelCase name } samples
      ∧ ofSamples name permuted
        = .ok (withSamples { model := Text.upperCamelCase name } permuted) := by
  obtain ⟨t₀, hnew, hadd⟩ := ofSamples_eq_ok_iff.1 h
  cases new_of_ok hnew
  obtain ⟨-, hnodup, hfaultless, rfl⟩ := addValues_eq_ok_iff.1 hadd
  refine ⟨rfl, ofSamples_eq_ok_iff.2 ⟨_, hnew, addValues_eq_ok_iff.2 ⟨?_, ?_, ?_, rfl⟩⟩⟩
  . simp
  . exact (hperm.map _).nodup_iff.1 hnodup
  . exact fun sample hs => hfaultless sample (hperm.mem_iff.2 hs)

/--
Samples are accepted in every order. Each has the same entry then, and the types and their fields
have the same names. A field is the same if the known values under its key agree.
-/
theorem finish_perm {name : String} {samples permuted : List (String × Json)} {t : Inferrer}
    (hperm : samples.Perm permuted) (h : Inferrer.ofSamples name samples = .ok t)
    (hkeys : ∀ sample ∈ samples, sample.2.keysDistinct) :
    ∃ t', Inferrer.ofSamples name permuted = .ok t'
      ∧ (∀ type, (t'.finish.type? type).isSome ↔ (t.finish.type? type).isSome)
      ∧ (∀ type key, (t'.finish.field? type key).isSome ↔ (t.finish.field? type key).isSome)
      ∧ t.finish.samples = samples.map (Inferrer.entry (Text.upperCamelCase name))
      ∧ t'.finish.samples = permuted.map (Inferrer.entry (Text.upperCamelCase name))
      ∧ ∀ type key,
        KnownAgree (valuesAt (objectsOf (Text.upperCamelCase name) samples) type key) →
        t'.finish.field? type key = t.finish.field? type key := by
  obtain ⟨rfl, ht'⟩ := Inferrer.ofSamples_perm hperm h
  have hd := (Inferrer.ofSamples_of_ok h).2.1
  have hd' := (Inferrer.ofSamples_of_ok ht').2.1
  have hnodup : KeysNodup (objectsOf (Text.upperCamelCase name) samples) :=
    keysNodup_objectsOf _ hkeys
  have hnodup' : KeysNodup (objectsOf (Text.upperCamelCase name) permuted) :=
    keysNodup_objectsOf _ fun sample hs => hkeys sample (hperm.mem_iff.2 hs)
  have hobjects : ∀ o, o ∈ objectsOf (Text.upperCamelCase name) samples
      ↔ o ∈ objectsOf (Text.upperCamelCase name) permuted :=
    fun o => (hperm.flatMap_right _).mem_iff
  refine ⟨_, ht', ?types, ?fields, rfl, rfl, ?agreeing⟩
  case types =>
    intro type
    have hnames : type ∈ (objectsOf (Text.upperCamelCase name) samples).map (·.type)
        ↔ type ∈ (objectsOf (Text.upperCamelCase name) permuted).map (·.type) := by
      simp only [List.mem_map, hobjects]
    rw [Definitions.type?_of_types hd', Definitions.type?_of_types hd]
    by_cases hmem : type ∈ (objectsOf (Text.upperCamelCase name) samples).map (·.type)
    . rw [if_pos hmem, if_pos (hnames.1 hmem)]
      rfl
    . rw [if_neg hmem, if_neg (hnames.not.1 hmem)]
  case fields =>
    intro type key
    rw [Definitions.field?_of_types hd', Definitions.field?_of_types hd,
      isSome_field?_iff hnodup', isSome_field?_iff hnodup]
    simp only [mem_valuesAt, hobjects]
  case agreeing =>
    intro type key hagree
    rw [Definitions.field?_of_types hd', Definitions.field?_of_types hd]
    exact (field?_congr hnodup hnodup' hobjects hagree).symm

def reordered : List (String × Json) :=
  [("a.json", .obj [("n", .int 1), ("node", .obj [("n", .null), ("tags", .arr [])])]),
    ("b.json", .obj [("n", .float ⟨false, 0⟩), ("tags", .arr [.null, .str "x"])]),
    ("c.json", .obj [("n", .int 2), ("node", .obj [("node", .null)]), ("tags", .null)])]

theorem finish_reverse_reordered :
    ∃ t t', Inferrer.ofSamples "node" reordered = .ok t
      ∧ Inferrer.ofSamples "node" reordered.reverse = .ok t'
      ∧ (∀ type, (t'.finish.type? type).isSome ↔ (t.finish.type? type).isSome)
      ∧ t'.finish.samples = reordered.reverse.map (Inferrer.entry "Node")
      ∧ t.finish.field? "Node" "n" = some { name := "n", kind := .float64 }
      ∧ t'.finish.field? "Node" "n" = some { name := "n", kind := .float64 }
      ∧ t.finish.field? "Node" "tags" = some { name := "tags", kind := .string, isArray := true }
      ∧ t'.finish.field? "Node" "tags"
        = some { name := "tags", kind := .string, isArray := true } := by
  have hok : (Inferrer.ofSamples "node" reordered).toOption.isSome := by decide
  cases ht : Inferrer.ofSamples "node" reordered with
  | error e => simp [ht, Except.toOption] at hok
  | ok t =>
    have hmodel : Text.upperCamelCase "node" = "Node" := by decide
    obtain ⟨t', ht', htypes, -, -, hsamples, hagreeing⟩ :=
      finish_perm (List.reverse_perm reordered).symm ht (by decide)
    rw [hmodel] at hsamples hagreeing
    have hn := hagreeing "Node" "n" (by decide)
    have htags := hagreeing "Node" "tags" (by decide)
    have hd := (Inferrer.ofSamples_of_ok ht).2.1
    have hn' : t.finish.field? "Node" "n" = some { name := "n", kind := .float64 } := by
      rw [Definitions.field?_of_types hd]
      decide
    have htags' : t.finish.field? "Node" "tags"
        = some { name := "tags", kind := .string, isArray := true } := by
      rw [Definitions.field?_of_types hd]
      decide
    exact ⟨t, t', rfl, ht', htypes, hsamples, hn', hn.trans hn', htags', htags.trans htags'⟩

end Schema
end FixtureLab

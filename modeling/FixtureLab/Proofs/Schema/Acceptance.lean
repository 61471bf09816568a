import FixtureLab.Proofs.Schema.Reading

/-!
This module contains that the source rendered for samples accepts each of the samples, if the values
under a key never conflict and the samples hold nothing that the settled types are not made for.
-/

namespace FixtureLab
namespace Schema

section Definitions

variable {model : String} {samples : List (String × Json)} {d : Definitions}

theorem mem_types_of_field (hkeys : KeysNodup (objectsOf model samples)) {type : String}
    {f : Field} (hf : f ∈ (definitionOf (objectsOf model samples) type).fields)
    (hkind : f.kind = .object) :
    Text.upperCamelCase f.name ∈ (objectsOf model samples).map (·.type) := by
  obtain ⟨key, w, hw, rfl, -⟩ := exists_of_mem_definitionOf hkeys hf
  obtain ⟨o, ho, -, hmem⟩ := mem_valuesAt.1 hw
  obtain ⟨members, hbelow⟩ := exists_object_of_kindOf (Text.upperCamelCase key) hkind
  have hmem' := mem_objectsOf_of_below o ho _ (mem_objectsBelow.2 ⟨_, hmem, hbelow⟩)
  exact List.mem_map.2 ⟨_, hmem', rfl⟩

theorem objectName_of_mem_definitionOf {objects : List TypedObject} (hkeys : KeysNodup objects)
    {type : String} {f : Field} (hf : f ∈ (definitionOf objects type).fields)
    (hkind : f.kind = .object) : f.objectName = some (Text.upperCamelCase f.name) := by
  obtain ⟨key, w, -, rfl, -⟩ := exists_of_mem_definitionOf hkeys hf
  rw [objectName_ofSample, if_pos hkind]
  rfl

theorem error?_eq_none (hd : d.types = definitionsOf (objectsOf model samples))
    (hkeys : KeysNodup (objectsOf model samples)) : Source.error? d = none := by
  simp only [Source.error?, List.findSome?_eq_none_iff]
  intro t ht f hf
  rw [hd] at ht
  obtain ⟨type, -, rfl⟩ := List.mem_map.1 ht
  unfold Source.fieldError?
  split
  . next hkind =>
    have hdefined : (d.type? (Text.upperCamelCase f.name)).isSome := by
      have hname := (mem_names_definitionsOf _ _).2 (mem_types_of_field hkeys hf hkind)
      rw [Definitions.type?, hd, List.find?_isSome]
      simpa using hname
    rw [objectName_of_mem_definitionOf hkeys hf hkind]
    simp [hdefined]
  . rfl

theorem mem_types {objects : List TypedObject} (hd : d.types = definitionsOf objects)
    {o : TypedObject} (ho : o ∈ objects) : definitionOf objects o.type ∈ d.types := by
  rw [hd]
  exact List.mem_map_of_mem (List.mem_eraseDups.2 (List.mem_map_of_mem ho))

theorem importsValue_of_unknown {t : RecordType} (ht : t ∈ d.types) {f : Field}
    (hf : f ∈ t.fields) (hkind : f.kind = .unknown) : d.sourceFile.importsValue := by
  simp only [Definitions.sourceFile, List.any_eq_true]
  exact ⟨t, ht, f, hf, by simp [hkind]⟩

end Definitions

namespace SourceFile

theorem accepts_field {s : SourceFile} {key : String} {vs : List Json} {w v : Json}
    (h : s.Knows (Field.ofSample key w)) (hw : SettledOn key vs w)
    (hfull : ObjectArraysFull vs) (hfit : NumbersFit vs)
    (himport : kindOf w = .unknown → s.importsValue) (hv : v ∈ vs)
    (hnested : ∀ o ∈ objectsIn (Text.upperCamelCase key) v,
      s.Accepts (.named (Source.typeIdent o.type)) (.obj o.members)) :
    s.Accepts (Field.ofSample key w).sourceType v := by
  by_cases hkind : kindOf w = .unknown
  . exact accepts_unknown h hw hkind (himport hkind) hv
  by_cases harray : Field.isArrayValue w
  . apply accepts_array h hw hkind harray hfull hfit hv
    intro hobject members hmem
    cases v with
    | arr items =>
      have hstart : startsWithObject items :=
        (kind_ofSample_arr_eq_object_iff key items).1 hobject
      apply hnested { type := Text.upperCamelCase key, members }
      rw [objectsIn, if_pos hstart]
      exact mem_objectsAmong hmem
    | _ => cases hmem
  . apply accepts_single h hw hkind harray hfit hv
    rintro members rfl
    apply hnested { type := Text.upperCamelCase key, members }
    exact mem_objectsIn_obj (Text.upperCamelCase key) members

section Objects

variable {objects : List TypedObject} {d : Definitions}

theorem optional_of_lacks (hkeys : KeysNodup objects) (hagree : NoConflicts objects)
    (hreadable : Readable objects) {o : TypedObject} (ho : o ∈ objects) {f : Field}
    (hf : f ∈ (definitionOf objects o.type).fields) (hlacks : f.name ∉ o.members.map (·.1)) :
    f.kind ≠ .unknown ∨ f.isArray := by
  obtain ⟨key, w, rfl, hw⟩ := exists_settledOn hkeys hagree hf
  obtain ⟨v, hv, hnotNull⟩ := exists_not_isNull_of_lacks hreadable ho hw.mem hlacks
  -- Otherwise all of its values would be null.
  by_contra hbare
  rw [not_or, not_not, Bool.not_eq_true] at hbare
  exact hnotNull (hw.isNull_of_unknown hbare.1 hbare.2 hv)

theorem wireName_eq_key {struct : Struct} (hread : struct.KeysRead) {g : StructField}
    (hg : g ∈ struct.fields) (hkey : g.wireName ∈ struct.fields.map (·.key)) :
    g.wireName = g.key :=
  (hread g hg).resolve_right fun h => h.2 hkey

theorem mem_keys_toStruct (hkeys : KeysNodup objects) {o : TypedObject} (ho : o ∈ objects)
    {key : String} {v : Json} (hmember : (key, v) ∈ o.members) (eq : Bool) :
    key ∈ (((definitionOf objects o.type).toStruct eq).fields).map (·.key) := by
  have hvalue : v ∈ valuesAt objects o.type key := mem_valuesAt.2 ⟨o, ho, rfl, hmember⟩
  obtain ⟨f, hf, rfl⟩ := List.mem_map.1 (mem_names_definitionOf hkeys hvalue)
  obtain ⟨g, hg, hname, -⟩ := RecordType.exists_field_toStruct hf eq
  exact List.mem_map.2 ⟨g, hg, hname⟩

theorem accepts_object (hd : d.types = definitionsOf objects) (h : NamesDistinct d.types)
    (hread : ∀ struct ∈ d.sourceFile.structs, struct.KeysRead)
    (hkeys : KeysNodup objects) (hagree : NoConflicts objects) (hreadable : Readable objects)
    {o : TypedObject} (ho : o ∈ objects)
    (hnested : ∀ o' ∈ objectsBelow o.members,
      d.sourceFile.Accepts (.named (Source.typeIdent o'.type)) (.obj o'.members)) :
    d.sourceFile.Accepts (.named (Source.typeIdent o.type)) (.obj o.members) := by
  have hmem := mem_types hd ho
  obtain ⟨eq, hstruct⟩ :
      ∃ eq, (definitionOf objects o.type).toStruct eq ∈ d.sourceFile.structs :=
    ⟨_, List.mem_map_of_mem hmem⟩
  have hfilter := h.filter_eq hstruct
  rw [RecordType.name_toStruct, definitionOf_name] at hfilter
  apply Accepts.record hfilter
  case present =>
    intro g hg v hfind
    have hwire : (g.wireName, v) ∈ o.members := Table.mem_of_find?_eq_some hfind
    rw [wireName_eq_key (hread _ hstruct) hg (mem_keys_toStruct hkeys ho hwire eq)] at hwire
    obtain ⟨f, hf, hname, htype⟩ := RecordType.exists_of_mem_toStruct hg
    rw [hname] at hwire
    rw [htype]
    have himport : f.kind = .unknown → d.sourceFile.importsValue := importsValue_of_unknown hmem hf
    have hknows : d.sourceFile.Knows f := fun _ => h.means hmem hf
    obtain ⟨key, w, rfl, hw⟩ := exists_settledOn hkeys hagree hf
    apply accepts_field hknows hw (hreadable.full o ho _ hwire) (hreadable.fit o ho _ hwire) himport
      (mem_valuesAt.2 ⟨o, ho, rfl, hwire⟩)
    intro o' ho'
    exact hnested o' (mem_objectsBelow.2 ⟨(key, v), hwire, ho'⟩)
  case absent =>
    intro g hg hfind
    obtain ⟨f, hf, hname, htype⟩ := RecordType.exists_of_mem_toStruct hg
    have hoptional : f.kind ≠ .unknown ∨ f.isArray := by
      rcases hread _ hstruct g hg with hwire | ⟨hbare, -⟩
      . apply optional_of_lacks hkeys hagree hreadable ho hf
        intro hkey
        have hsome := Table.find?_isSome_iff.2 hkey
        rw [← hname, ← hwire, hfind] at hsome
        cases hsome
      . by_contra hneither
        rw [not_or, not_not] at hneither
        rw [htype, Field.sourceType_of_unknown hneither.1, if_neg hneither.2] at hbare
        exact hbare rfl
    obtain ⟨arg, harg⟩ := Field.sourceType_eq_option hoptional
    have hoption := h.means hmem hf (Field.option_mem_standardTypes hoptional)
    exact ⟨"Option", arg, htype.trans harg, hoption⟩

end Objects

theorem exists_of_samples {name : String} {samples : List (String × Json)} {file : SourceFile}
    (hok : (Inferrer.ofSamples name samples).toOption.isSome)
    (hfile : Definitions.sourceFile
      { types := definitionsOf (objectsOf (Text.upperCamelCase name) samples) } = file) :
    ∃ t, Inferrer.ofSamples name samples = .ok t
      ∧ t.finish.types = definitionsOf (objectsOf (Text.upperCamelCase name) samples)
      ∧ t.finish.sourceFile = file := by
  obtain ⟨t, ht⟩ := Inferrer.exists_eq_ok hok
  have hd := (Inferrer.ofSamples_of_ok ht).2.1
  exact ⟨t, ht, hd, (Definitions.sourceFile_congr hd).trans hfile⟩

theorem accepts_samples {name : String} {samples : List (String × Json)} {t : Inferrer}
    (ht : Inferrer.ofSamples name samples = .ok t)
    (hkeys : KeysNodup (objectsOf (Text.upperCamelCase name) samples))
    (hagree : NoConflicts (objectsOf (Text.upperCamelCase name) samples))
    (hreadable : Readable (objectsOf (Text.upperCamelCase name) samples))
    (hnames : NamesDistinct t.finish.types)
    (hread : ∀ struct ∈ t.finish.sourceFile.structs, struct.KeysRead) :
    Source.render t.finish = .ok t.finish.sourceFile.text
      ∧ ∀ sample ∈ samples, t.finish.sourceFile.Accepts
          (.named (Source.typeIdent (Text.upperCamelCase name))) sample.2 := by
  obtain ⟨hobjects, hd, -⟩ := Inferrer.ofSamples_of_ok ht
  have haccepts := forall_objectsOf fun o ho hnested =>
    accepts_object (d := t.finish) hd hnames hread hkeys hagree hreadable ho fun o' ho' =>
      (hnested o' ho').2
  constructor
  . exact Definitions.render_eq_sourceFile (error?_eq_none hd hkeys)
  . intro sample hsample
    obtain ⟨members, hmembers⟩ := hobjects sample hsample
    rw [hmembers]
    apply haccepts { type := Text.upperCamelCase name, members }
    apply mem_objectsOf hsample
    rw [hmembers]
    exact mem_objectsIn_obj _ members

def readings : List (String × Json) :=
  [("a.json", .obj
      [("g", .arr [.arr [.int 1], .null]),
        ("m", .int (2 ^ 63)),
        ("n", .null),
        ("p", .arr [.obj [("a", .int 1)], .obj [("b", .str "x")]]),
        ("s", .arr [.int 1, .null])]),
    ("b.json", .obj
      [("m", .float ⟨false, 0⟩),
        ("n", .null),
        ("p", .null),
        ("u", .obj [("c", .bool true)])])]

def readingsFile : SourceFile where
  importsValue := true
  structs :=
    [{ name := "P"
       eq := true
       fields :=
        [⟨"a", none, .option (.named "i64")⟩, ⟨"b", none, .option (.named "String")⟩] },
      { name := "T"
        eq := false
        fields :=
          [⟨"g", none, .option (.vec (.named "Value"))⟩,
            ⟨"m", none, .option (.named "f64")⟩,
            ⟨"n", none, .named "Value"⟩,
            ⟨"p", none, .option (.vec (.named "P"))⟩,
            ⟨"s", none, .option (.vec (.option (.named "i64")))⟩,
            ⟨"u", none, .option (.named "U")⟩] },
      { name := "U", eq := true, fields := [⟨"c", none, .option (.named "bool")⟩] }]

def nameAtRest : List (String × Json) :=
  [("a.json", .obj [("value", .obj [("x", .int 1)]), ("\uf900", .int 2)])]

def nameAtRestFile : SourceFile where
  importsValue := false
  structs :=
    [{ name := "Value", eq := true, fields := [⟨"x", none, .option (.named "i64")⟩] },
      { name := "T"
        eq := true
        fields :=
          [⟨"value", none, .option (.named "Value")⟩, ⟨"\uf900", none, .option (.named "i64")⟩] }]

theorem accepts_readings :
    (∃ t, Inferrer.ofSamples "t" readings = .ok t
      ∧ Source.render t.finish = .ok readingsFile.text
      ∧ ∀ sample ∈ readings, readingsFile.Accepts (.named "T") sample.2)
    ∧ ∃ t, Inferrer.ofSamples "t" nameAtRest = .ok t
      ∧ Source.render t.finish = .ok nameAtRestFile.text
      ∧ ∀ sample ∈ nameAtRest, nameAtRestFile.Accepts (.named "T") sample.2 := by
  have hroot : Source.typeIdent (Text.upperCamelCase "t") = "T" := by decide +kernel
  constructor
  . have hok : (Inferrer.ofSamples "t" readings).toOption.isSome := by decide
    obtain ⟨t, ht, hd, hfile⟩ := exists_of_samples hok (show _ = readingsFile by decide +kernel)
    have haccepts := accepts_samples ht (by decide) (by decide) (by decide)
      (by rw [hd]; decide +kernel) (by rw [hfile]; decide +kernel)
    rw [hfile, hroot] at haccepts
    exact ⟨t, ht, haccepts⟩
  . have hok : (Inferrer.ofSamples "t" nameAtRest).toOption.isSome := by decide
    obtain ⟨t, ht, hd, hfile⟩ := exists_of_samples hok (show _ = nameAtRestFile by decide +kernel)
    have haccepts := accepts_samples ht (by decide) (by decide) (by decide)
      (by rw [hd]; decide +kernel) (by rw [hfile]; decide +kernel)
    rw [hfile, hroot] at haccepts
    exact ⟨t, ht, haccepts⟩

def Refused (name : String) (samples : List (String × Json)) : Prop :=
  ∃ t, Inferrer.ofSamples name samples = .ok t
    ∧ KeysNodup (objectsOf (Text.upperCamelCase name) samples)
    ∧ NoConflicts (objectsOf (Text.upperCamelCase name) samples)
    ∧ ∃ sample ∈ samples, ¬t.finish.sourceFile.Accepts
        (.named (Source.typeIdent (Text.upperCamelCase name))) sample.2

theorem refused_of {name : String} {samples : List (String × Json)} (root : String)
    (file : SourceFile) (hok : (Inferrer.ofSamples name samples).toOption.isSome)
    (hkeys : KeysNodup (objectsOf (Text.upperCamelCase name) samples))
    (hagree : NoConflicts (objectsOf (Text.upperCamelCase name) samples))
    (hroot : Source.typeIdent (Text.upperCamelCase name) = root)
    (hfile : Definitions.sourceFile
      { types := definitionsOf (objectsOf (Text.upperCamelCase name) samples) } = file)
    (hrefuses : ∃ sample ∈ samples, ¬file.Accepts (.named root) sample.2) :
    Refused name samples := by
  obtain ⟨t, ht, -, hfile⟩ := exists_of_samples hok hfile
  refine ⟨t, ht, hkeys, hagree, ?_⟩
  rw [hfile, hroot]
  exact hrefuses

def neverSet : List (String × Json) :=
  [("a.json", .obj [("n", .null)]), ("b.json", .obj [])]

theorem refused_neverSet : Refused "t" neverSet := by
  apply refused_of "T"
    { importsValue := true
      structs := [{ name := "T", eq := false, fields := [⟨"n", none, .named "Value"⟩] }] }
    (by decide) (by decide) (by decide) (by decide +kernel) (by decide +kernel)
  refine ⟨("b.json", .obj []), by simp [neverSet], ?_⟩
  intro h
  obtain ⟨-, habsent⟩ := h.of_record (by decide) rfl
  obtain ⟨option, arg, hoption, -⟩ := habsent ⟨"n", none, .named "Value"⟩ (by simp) rfl
  cases hoption

def nullAmongObjects : List (String × Json) :=
  [("a.json", .obj [("p", .arr [.null, .obj []])])]

theorem refused_nullAmongObjects : Refused "t" nullAmongObjects := by
  apply refused_of "T"
    { importsValue := false
      structs :=
        [{ name := "P", eq := true, fields := [] },
          { name := "T"
            eq := true
            fields := [⟨"p", none, .option (.vec (.named "P"))⟩] }] }
    (by decide) (by decide) (by decide) (by decide +kernel) (by decide +kernel)
  refine ⟨_, List.mem_singleton_self _, ?_⟩
  intro h
  obtain ⟨hpresent, -⟩ := h.of_record (by decide) rfl
  have hparts := hpresent ⟨"p", none, .option (.vec (.named "P"))⟩ (by simp) _ rfl
  cases (hparts.of_option (by decide)).of_vec .null (by simp) with
  | value h => exact absurd h.1 (by decide)

def beyondInt64 : List (String × Json) :=
  [("a.json", .obj [("n", .int (2 ^ 63))])]

theorem refused_beyondInt64 : Refused "t" beyondInt64 := by
  apply refused_of "T"
    { importsValue := false
      structs :=
        [{ name := "T", eq := true, fields := [⟨"n", none, .option (.named "i64")⟩] }] }
    (by decide) (by decide) (by decide) (by decide +kernel) (by decide +kernel)
  refine ⟨_, List.mem_singleton_self _, ?_⟩
  intro h
  obtain ⟨hpresent, -⟩ := h.of_record (by decide) rfl
  have hcount := hpresent ⟨"n", none, .option (.named "i64")⟩ (by simp) _ rfl
  cases hcount.of_option (by decide) with
  | i64 _ hn => exact absurd hn.2 (by decide)
  | int h => exact absurd h.1 (by decide)
  | value h => exact absurd h.1 (by decide)

def oneStructName : List (String × Json) :=
  [("a.json", .obj [("a_b", .obj []), ("ab", .obj [])])]

theorem refused_oneStructName : Refused "t" oneStructName := by
  apply refused_of "T"
    { importsValue := false
      structs :=
        [{ name := "Ab", eq := true, fields := [] }, { name := "Ab", eq := true, fields := [] },
          { name := "T"
            eq := true
            fields :=
              [⟨"a_b", none, .option (.named "Ab")⟩, ⟨"ab", none, .option (.named "Ab")⟩] }] }
    (by decide) (by decide) (by decide) (by decide +kernel) (by decide +kernel)
  refine ⟨_, List.mem_singleton_self _, ?_⟩
  intro h
  obtain ⟨hpresent, -⟩ := h.of_record (by decide) rfl
  have hab := hpresent ⟨"ab", none, .option (.named "Ab")⟩ (by simp) _ rfl
  cases hab.of_option (by decide) with
  | value h => exact absurd h.1 (by decide)
  | record h => simp at h

def takenName : List (String × Json) :=
  [("a.json", .obj [("s", .str "x"), ("string", .obj [])])]

theorem refused_takenName : Refused "t" takenName := by
  apply refused_of "T"
    { importsValue := false
      structs :=
        [{ name := "String", eq := true, fields := [] },
          { name := "T"
            eq := true
            fields :=
              [⟨"s", none, .option (.named "String")⟩,
                ⟨"string", none, .option (.named "String")⟩] }] }
    (by decide) (by decide) (by decide) (by decide +kernel) (by decide +kernel)
  refine ⟨_, List.mem_singleton_self _, ?_⟩
  intro h
  obtain ⟨hpresent, -⟩ := h.of_record (by decide) rfl
  have hname := hpresent ⟨"s", none, .option (.named "String")⟩ (by simp) _ rfl
  cases hname.of_option (by decide) with
  | string h => exact absurd (by decide +kernel) h.2
  | value h => exact absurd h.1 (by decide)

def otherKey : List (String × Json) :=
  [("a.json", .obj [("\uf900", .null)])]

theorem refused_otherKey : Refused "t" otherKey := by
  apply refused_of "T"
    { importsValue := true
      structs := [{ name := "T", eq := false, fields := [⟨"\uf900", none, .named "Value"⟩] }] }
    (by decide) (by decide) (by decide) (by decide +kernel) (by decide +kernel)
  refine ⟨_, List.mem_singleton_self _, ?_⟩
  intro h
  obtain ⟨-, habsent⟩ := h.of_record (by decide +kernel) rfl
  obtain ⟨option, arg, hoption, -⟩ :=
    habsent ⟨"\uf900", none, .named "Value"⟩ (by simp) (by decide +kernel)
  cases hoption

theorem refused_without_conflicts :
    Refused "t" neverSet ∧ Refused "t" nullAmongObjects ∧ Refused "t" beyondInt64
      ∧ Refused "t" oneStructName ∧ Refused "t" takenName ∧ Refused "t" otherKey :=
  ⟨refused_neverSet, refused_nullAmongObjects, refused_beyondInt64, refused_oneStructName,
    refused_takenName, refused_otherKey⟩

end SourceFile
end Schema
end FixtureLab

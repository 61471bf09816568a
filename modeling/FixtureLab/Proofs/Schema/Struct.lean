import FixtureLab.Schema.Source
import FixtureLab.Text.Normalize

/-!
This module contains the structs of a source file apart from their text: names, and fields with
their names on the wire and their types. The source that is rendered for definitions is the text of
such a file.
-/

namespace FixtureLab
namespace Schema

inductive SourceType where
  | named (name : String)
  | applied (name : String) (arg : SourceType)
deriving DecidableEq, Repr

def SourceType.text : SourceType → String
  | .named name => name
  | .applied name arg => name ++ "<" ++ arg.text ++ ">"

structure StructField where
  ident : String
  rename : Option String
  type : SourceType
deriving DecidableEq, Repr

namespace StructField

def lines (f : StructField) : List String :=
  (match f.rename with
    | some name =>
      ["    #[serde(rename = " ++ String.ofList (Text.literal name.toList) ++ ")]"]
    | none => []) ++
    ["    pub " ++ f.ident ++ ": " ++ f.type.text ++ ","]

def key (f : StructField) : String :=
  f.rename.getD (String.ofList (Source.dropRaw f.ident.toList))

/-- The key that the field is read from. Identifiers are read in Normalization Form C. -/
def wireName (f : StructField) : String :=
  f.rename.getD (Text.nfc (String.ofList (Source.dropRaw f.ident.toList)))

end StructField

structure Struct where
  name : String
  eq : Bool
  fields : List StructField
deriving DecidableEq, Repr

def Struct.lines (s : Struct) : List String :=
  let derive := "#[derive(Debug, Clone, Default, PartialEq, " ++ (if s.eq then "Eq, " else "") ++
    "Serialize, Deserialize)]"
  let head := "pub struct " ++ s.name ++ " \x7b"
  if s.fields.isEmpty then [derive, head ++ "\x7d"]
  else [derive, head] ++ s.fields.flatMap StructField.lines ++ ["\x7d"]

structure SourceFile where
  importsValue : Bool
  structs : List Struct
deriving DecidableEq, Repr

namespace SourceFile

def lines (s : SourceFile) : List String :=
  ["//! Fixture record types generated by `forcedata json2rs`.",
    "//!",
    "//! Regenerate rather than edit by hand.",
    "",
    "use serde::\x7bDeserialize, Serialize\x7d;"] ++
    (if s.importsValue then ["use serde_json::Value;"] else []) ++
    s.structs.flatMap fun struct => "" :: struct.lines

def text (s : SourceFile) : String := String.join (s.lines.map (· ++ "\n"))

end SourceFile

def SourceType.option (t : SourceType) : SourceType := .applied "Option" t

def SourceType.vec (t : SourceType) : SourceType := .applied "Vec" t

def Field.sourceType (f : Field) : SourceType :=
  let scalar := .named (Source.scalarType f)
  match f.kind, f.isArray with
  | .unknown, false => scalar
  | .unknown, true => .option (.vec scalar)
  | .object, true => .option (.vec scalar)
  | _, true => .option (.vec (.option scalar))
  | _, false => .option scalar

def Field.toStructField (ident : String) (f : Field) : StructField where
  ident
  rename := Source.rename? ident f
  type := f.sourceType

def RecordType.toStruct (t : RecordType) (eq : Bool) : Struct where
  name := Source.typeIdent t.name
  eq
  fields := (Source.fieldIdents [] t.fields).map fun (ident, f) => f.toStructField ident

theorem RecordType.name_toStruct (t : RecordType) (eq : Bool) :
    (t.toStruct eq).name = Source.typeIdent t.name := by
  rw [toStruct]

def Definitions.sourceFile (d : Definitions) : SourceFile where
  importsValue := d.types.any fun type => type.fields.any (·.kind = .unknown)
  structs := d.types.map fun type => type.toStruct ((Source.eqTypes d).contains type.name)

theorem Definitions.names_sourceFile (d : Definitions) :
    d.sourceFile.structs.map (·.name) = (d.types.map (·.name)).map Source.typeIdent := by
  simp [sourceFile, RecordType.name_toStruct]

theorem SourceType.text_option (t : SourceType) : t.option.text = "Option<" ++ t.text ++ ">" := rfl

theorem SourceType.text_vec (t : SourceType) : t.vec.text = "Vec<" ++ t.text ++ ">" := rfl

namespace Field

theorem sourceType_of_unknown {f : Field} (hkind : f.kind = .unknown) :
    f.sourceType
      =
    if f.isArray then .option (.vec (.named "Value")) else .named "Value" := by
  unfold sourceType Source.scalarType
  rw [hkind]
  cases f.isArray <;> rfl

theorem sourceType_of_single {f : Field} (hkind : f.kind ≠ .unknown) (hsingle : ¬f.isArray) :
    f.sourceType = .option (.named (Source.scalarType f)) := by
  unfold sourceType
  rw [Bool.eq_false_iff.2 hsingle]
  cases hk : f.kind <;> simp_all

theorem sourceType_eq_option {f : Field} (h : f.kind ≠ .unknown ∨ f.isArray) :
    ∃ arg, f.sourceType = .option arg := by
  simp only [sourceType]
  split
  . next hkind hsingle => simp [hkind, hsingle] at h
  all_goals exact ⟨_, rfl⟩

theorem sourceType_of_array {f : Field} (hkind : f.kind ≠ .unknown) (harray : f.isArray) :
    f.sourceType
      =
    if f.kind = .object then .option (.vec (.named (Source.scalarType f)))
    else .option (.vec (.option (.named (Source.scalarType f)))) := by
  unfold sourceType
  rw [harray]
  cases hk : f.kind <;> simp_all

end Field

theorem Field.text_sourceType (f : Field) : f.sourceType.text = Source.fieldType f := by
  unfold sourceType Source.fieldType
  cases f.kind <;> cases f.isArray <;>
    simp [SourceType.text_option, SourceType.text_vec, SourceType.text, ← String.toList_inj]

theorem Field.lines_toStructField (ident : String) (f : Field) :
    (f.toStructField ident).lines = Source.fieldLines ident f := by
  cases hrename : Source.rename? ident f <;>
    simp [StructField.lines, Source.fieldLines, toStructField, hrename, f.text_sourceType]

theorem RecordType.lines_toStruct (t : RecordType) (eq : Bool) :
    (t.toStruct eq).lines = Source.structLines t eq := by
  cases hfields : t.fields with
  | nil => simp [Struct.lines, toStruct, Source.structLines, Source.fieldIdents, hfields]
  | cons f rest =>
    simp [Struct.lines, toStruct, Source.structLines, Source.fieldIdents, hfields,
      List.flatMap_map, Field.lines_toStructField]

theorem Definitions.lines_sourceFile (d : Definitions) : d.sourceFile.lines = Source.lines d := by
  simp only [SourceFile.lines, sourceFile, Source.lines, List.flatMap_map,
    RecordType.lines_toStruct]
  rfl

theorem Definitions.sourceFile_congr {d e : Definitions} (h : d.types = e.types) :
    d.sourceFile = e.sourceFile := by
  unfold sourceFile Source.eqTypes
  rw [h]

theorem Definitions.render_eq_sourceFile {d : Definitions} (h : Source.error? d = none) :
    Source.render d = .ok d.sourceFile.text := by
  rw [Source.render, h, SourceFile.text, d.lines_sourceFile]

theorem Definitions.error?_of_render {d : Definitions} {text : String}
    (h : Source.render d = .ok text) : Source.error? d = none := by
  rw [Source.render] at h
  split at h
  . cases h
  . assumption

theorem Definitions.eq_text_of_render {d : Definitions} {text : String}
    (h : Source.render d = .ok text) : text = d.sourceFile.text :=
  (Except.ok.inj ((render_eq_sourceFile (error?_of_render h)).symm.trans h)).symm

theorem Field.key_toStructField (ident : String) (f : Field) :
    (f.toStructField ident).key = f.name := by
  simp only [toStructField, StructField.key, Source.rename?]
  split
  . next h => exact h
  . rfl

theorem Source.map_snd_fieldIdents (seen : List String) (fields : List Field) :
    (Source.fieldIdents seen fields).map (·.2) = fields := by
  induction fields generalizing seen with
  | nil => rfl
  | cons f rest ih => simp [Source.fieldIdents, ih]

theorem RecordType.exists_of_mem_toStruct {t : RecordType} {eq : Bool} {g : StructField}
    (h : g ∈ (t.toStruct eq).fields) :
    ∃ f ∈ t.fields, g.key = f.name ∧ g.type = f.sourceType := by
  obtain ⟨⟨ident, f⟩, hmem, rfl⟩ := List.mem_map.1 h
  have hf : f ∈ t.fields := by
    rw [← Source.map_snd_fieldIdents [] t.fields]
    exact List.mem_map_of_mem hmem
  exact ⟨f, hf, f.key_toStructField ident, rfl⟩

theorem RecordType.exists_field_toStruct {t : RecordType} {f : Field} (hf : f ∈ t.fields)
    (eq : Bool) : ∃ g ∈ (t.toStruct eq).fields, g.key = f.name ∧ g.type = f.sourceType := by
  rw [← Source.map_snd_fieldIdents [] t.fields] at hf
  obtain ⟨⟨ident, f⟩, hmem, rfl⟩ := List.mem_map.1 hf
  exact ⟨f.toStructField ident, List.mem_map_of_mem hmem, f.key_toStructField ident, rfl⟩

end Schema
end FixtureLab

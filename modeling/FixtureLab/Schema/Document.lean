import FixtureLab.Schema.Basic
import FixtureLab.Schema.Error
import FixtureLab.Yaml.Document
import FixtureLab.Yaml.Printer

/-!
This module contains the YAML document of type definitions, in which they are kept between the
inference of types and the generation of source.
-/

namespace FixtureLab
namespace Schema

open Yaml (Node Value)
open Yaml.Document (Decoder)

def Field.toYaml (f : Field) : Value :=
  .map
    [("fieldName", .str f.name),
      ("systemType", .str f.kind.name),
      ("objectName", match f.objectName with
        | some name => .str name
        | none => .null),
      ("isArray", .bool f.isArray)]

def RecordType.toYaml (t : RecordType) : Value :=
  .map [("typeName", .str t.name), ("fields", .seq (t.fields.map Field.toYaml))]

def Sample.toYaml (s : Sample) : Value :=
  .map
    [("file", .str s.file),
      ("rootModel", .str s.rootModel),
      ("fieldTypeMap", .map (s.leaves.map fun (path, type) => (path, .str type)))]

def Definitions.toYaml (d : Definitions) : Value :=
  .map
    [("types", .seq (d.types.map RecordType.toYaml)),
      ("dataFiles", .seq (d.samples.map Sample.toYaml))]

def Definitions.document (d : Definitions) : String := String.ofList d.toYaml.render

def Field.decode (v : Node Nat) : Decoder Field := do
  let found ← Decoder.record ["fieldName", "systemType", "objectName", "isArray"] v
  return {
    name := ← Decoder.required "fieldName" Decoder.text found
    kind := ← Decoder.required "systemType" (Decoder.variant FieldKind.ofName?) found
    objectName := ← Decoder.optional "objectName" none Decoder.text? found
    isArray := ← Decoder.optional "isArray" false Decoder.bool found }

def RecordType.decode (v : Node Nat) : Decoder RecordType := do
  let found ← Decoder.record ["typeName", "fields"] v
  return {
    name := ← Decoder.required "typeName" Decoder.text found
    fields := ← Decoder.optional "fields" [] (Decoder.list Field.decode) found }

def Sample.decode (v : Node Nat) : Decoder Sample := do
  let found ← Decoder.record ["file", "rootModel", "fieldTypeMap"] v
  return {
    file := ← Decoder.required "file" Decoder.text found
    rootModel := ← Decoder.required "rootModel" Decoder.text found
    leaves := ← Decoder.optional "fieldTypeMap" [] (Decoder.table Decoder.text) found }

def Definitions.decode (v : Node Nat) : Decoder Definitions := do
  let found ← Decoder.record ["types", "dataFiles"] v
  return {
    types := ← Decoder.optional "types" [] (Decoder.list RecordType.decode) found
    samples := ← Decoder.optional "dataFiles" [] (Decoder.list Sample.decode) found }

def Definitions.ofDocument (text : String) : Except Error Definitions :=
  match (Yaml.Document.ofString? text).bind (·.decode? Definitions.decode) with
  | some d => .ok d
  | none => .error .invalidDocument

end Schema
end FixtureLab

import FixtureLab.Schema.Basic
import FixtureLab.Schema.Error
import FixtureLab.Text.StringLiteral

/-!
This module contains the Rust source of record types. Every type becomes a struct whose fields can
all be null. A field whose name is no proper identifier gets one, and keeps its name on the wire by
an attribute.
-/

namespace FixtureLab
namespace Schema
namespace Source

def keywords : List String :=
  ["as", "async", "await", "box", "break", "const", "continue", "dyn", "else", "enum", "extern",
    "false", "fn", "for", "if", "impl", "in", "let", "loop", "match", "mod", "move", "mut", "pub",
    "ref", "return", "static", "struct", "trait", "true", "try", "type", "unsafe", "use", "where",
    "while", "yield"]

def reserved : List String := ["crate", "self", "Self", "super"]

def startsWithDigit (s : String) : Bool := (s.toList.head?.map Char.isDigit).getD false

def typeIdent (name : String) : String :=
  let ident := Text.upperCamelCase name
  if startsWithDigit ident then "T" ++ ident else ident

def fieldIdent (name : String) : String :=
  let ident := Text.snakeCase name
  let ident := if ident.isEmpty || startsWithDigit ident then "field_" ++ ident else ident
  if ident ∈ reserved then ident ++ "_"
  else if ident ∈ keywords then "r#" ++ ident
  else ident

/--
The identifiers for the fields of a struct, in order. The second and later fields that fall on one
identifier are numbered. `seen` lists the identifiers of the fields before, without their numbers.
-/
def fieldIdents (seen : List String) : List Field → List (String × Field)
  | [] => []
  | f :: rest =>
    let ident := fieldIdent f.name
    let count := seen.count ident
    let numbered := if count = 0 then ident else ident ++ "_" ++ toString (count + 1)
    (numbered, f) :: fieldIdents (ident :: seen) rest

def scalarType (f : Field) : String :=
  match f.kind with
  | .int64 => "i64"
  | .float64 => "f64"
  | .string => "String"
  | .bool => "bool"
  | .unknown => "Value"
  | .object => typeIdent f.typeName

def fieldType (f : Field) : String :=
  let scalar := scalarType f
  match f.kind, f.isArray with
  | .unknown, false => scalar
  | .unknown, true => "Option<Vec<" ++ scalar ++ ">>"
  | .object, true => "Option<Vec<" ++ scalar ++ ">>"
  | _, true => "Option<Vec<Option<" ++ scalar ++ ">>>"
  | _, false => "Option<" ++ scalar ++ ">"

def dropRaw : List Char → List Char
  | 'r' :: '#' :: rest => dropRaw rest
  | cs => cs

def rename? (ident : String) (f : Field) : Option String :=
  if String.ofList (dropRaw ident.toList) = f.name then none else some f.name

def fieldLines (ident : String) (f : Field) : List String :=
  (match rename? ident f with
    | some name =>
      ["    #[serde(rename = " ++ String.ofList (Text.literal name.toList) ++ ")]"]
    | none => []) ++
    ["    pub " ++ ident ++ ": " ++ fieldType f ++ ","]

def structLines (type : RecordType) (eq : Bool) : List String :=
  let derive := "#[derive(Debug, Clone, Default, PartialEq, " ++ (if eq then "Eq, " else "") ++
    "Serialize, Deserialize)]"
  let head := "pub struct " ++ typeIdent type.name ++ " \x7b"
  if type.fields.isEmpty then [derive, head ++ "\x7d"]
  else
    [derive, head] ++
      (fieldIdents [] type.fields).flatMap (fun (ident, f) => fieldLines ident f) ++ ["\x7d"]

def fieldHasEq (eqTypes : List String) (f : Field) : Bool :=
  match f.kind with
  | .float64 => false
  | .unknown => false
  | .object => (f.objectName.map (eqTypes.contains ·)).getD false
  | _ => true

def strike (types : List RecordType) (eqTypes : List String) : List String :=
  types.foldl (fun eqTypes type =>
    if type.fields.all (fieldHasEq eqTypes) then eqTypes else eqTypes.filter (· ≠ type.name))
    eqTypes

def strikeAll (types : List RecordType) : Nat → List String → List String
  | 0, eqTypes => eqTypes
  | rounds + 1, eqTypes =>
    let next := strike types eqTypes
    if next.length = eqTypes.length then next else strikeAll types rounds next

def eqTypes (d : Definitions) : List String :=
  strikeAll d.types (d.types.length + 1) (d.types.map (·.name)).eraseDups

def fieldError? (d : Definitions) (type : RecordType) (f : Field) : Option Error :=
  if f.kind = .object then
    match f.objectName with
    | none => some (.missingObjectName type.name f.name)
    | some object =>
      if (d.type? object).isSome then none
      else some (.undefinedType type.name f.name object)
  else none

def error? (d : Definitions) : Option Error :=
  d.types.findSome? fun type => type.fields.findSome? (fieldError? d type)

def lines (d : Definitions) : List String :=
  let eqTypes := eqTypes d
  let usesValue := d.types.any fun type => type.fields.any (·.kind = .unknown)
  ["//! Fixture record types generated by `forcedata json2rs`.",
    "//!",
    "//! Regenerate rather than edit by hand.",
    "",
    "use serde::\x7bDeserialize, Serialize\x7d;"] ++
    (if usesValue then ["use serde_json::Value;"] else []) ++
    d.types.flatMap fun type => "" :: structLines type (eqTypes.contains type.name)

def render (d : Definitions) : Except Error String :=
  match error? d with
  | some e => .error e
  | none => .ok (String.join ((lines d).map (· ++ "\n")))

end Source
end Schema
end FixtureLab

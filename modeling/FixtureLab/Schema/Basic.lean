import FixtureLab.Json.Basic
import FixtureLab.Text.Words

/-!
This module contains record types as they are seen in samples: fields with their kinds, and how what
one sample shows of a type is merged with what others show.
-/

namespace FixtureLab
namespace Schema

inductive FieldKind where
  | int64
  | float64
  | string
  | bool
  | object
  | unknown
deriving DecidableEq, Repr, Inhabited

namespace FieldKind

def name : FieldKind → String
  | .int64 => "Int64"
  | .float64 => "Float64"
  | .string => "String"
  | .bool => "Bool"
  | .object => "Object"
  | .unknown => "Unknown"

def all : List FieldKind := [.int64, .float64, .string, .bool, .object, .unknown]

def ofName? (name : String) : Option FieldKind := all.find? (·.name = name)

def of : Json → FieldKind
  | .null => .unknown
  | .bool _ => .bool
  | .int _ => .int64
  | .float _ => .float64
  | .str _ => .string
  | .arr _ => .unknown
  | .obj _ => .object

end FieldKind

structure Field where
  name : String
  kind : FieldKind
  objectName : Option String := none
  isArray : Bool := false
deriving DecidableEq, Repr, Inhabited

namespace Field

def representative? : Json → Option Json
  | .arr items => items.find? (!·.isNull)
  | v => some v

def isArrayValue : Json → Bool
  | .arr _ => true
  | _ => false

def ofSample (name : String) (v : Json) : Field :=
  let kind := ((representative? v).map FieldKind.of).getD .unknown
  { name
    kind
    objectName := if kind = .object then some (Text.upperCamelCase name) else none
    isArray := isArrayValue v }

def typeName (f : Field) : String :=
  match f.kind, f.objectName with
  | .object, some name => name
  | kind, _ => kind.name

/--
Whether a field tells more than an existing one. What was seen first stays, except that a known kind
replaces an unknown one, an array of unknowns replaces a plain unknown, and floats widen integers.
-/
def refines (f existing : Field) : Bool :=
  match existing.kind, f.kind with
  | .unknown, .unknown => f.isArray && !existing.isArray
  | .unknown, _ => true
  | .int64, .float64 => f.isArray == existing.isArray
  | _, _ => false

end Field

structure RecordType where
  name : String
  fields : List Field := []
deriving DecidableEq, Repr, Inhabited

namespace RecordType

def field? (t : RecordType) (name : String) : Option Field := t.fields.find? (·.name = name)

def mergeField (fields : List Field) (f : Field) : List Field :=
  match fields with
  | [] => [f]
  | existing :: rest =>
    if existing.name = f.name then (if f.refines existing then f else existing) :: rest
    else existing :: mergeField rest f

def merge (t other : RecordType) : RecordType :=
  { t with fields := other.fields.foldl mergeField t.fields }

end RecordType

structure Sample where
  file : String
  rootModel : String
  leaves : Table String := []
deriving DecidableEq, Repr, Inhabited

structure Definitions where
  types : List RecordType := []
  samples : List Sample := []
deriving DecidableEq, Repr, Inhabited

namespace Definitions

def type? (d : Definitions) (name : String) : Option RecordType := d.types.find? (·.name = name)

end Definitions

end Schema
end FixtureLab

import FixtureLab.Json.Fields

/-!
This module contains the record types of the sample fixtures and their JSON form. Every field can be
null: a field that a fixture does not set is written as null.
-/

namespace FixtureLab
namespace Catalog

open Json (Raw)

structure HairStyle where
deriving DecidableEq, Repr, Inhabited

structure Friends where
  id : Option Int := none
  name : Option String := none
deriving DecidableEq, Repr, Inhabited

structure Android where
  manufacturer : Option String := none
  model : Option String := none
deriving DecidableEq, Repr, Inhabited

structure Ios where
  manufacturer : Option String := none
  model : Option String := none
deriving DecidableEq, Repr, Inhabited

structure Device where
  android : Option Android := none
  ios : Option Ios := none
deriving DecidableEq, Repr, Inhabited

structure Base where
  id : Option String := none
  isActive : Option Bool := none
  age : Option Int := none
  name : Option String := none
  gender : Option String := none
  eyeColor : Json := .null
  hairStyle : Option HairStyle := none
  salary : Option Int := none
  friends : Option (List Friends) := none
  groups : Option (List (Option Int)) := none
  rooms : Option (List (Option String)) := none
  device : Option Device := none
  qualifications : Option (List Json) := none
deriving Repr, Inhabited

def nullable {α : Type} (toJson : α → Json) : Option α → Json
  | none => .null
  | some a => toJson a

def list {α : Type} (toJson : α → Json) (items : List α) : Json := .arr (items.map toJson)

namespace HairStyle

def toJson (_ : HairStyle) : Json := .obj []

def ofRaw? (v : Raw) : Option HairStyle := do
  let _ ← v.fields? [] 0
  return {}

end HairStyle

namespace Friends

def fieldNames : List String := ["id", "name"]

def toJson (x : Friends) : Json := .obj [("id", nullable .int x.id), ("name", nullable .str x.name)]

def ofRaw? (v : Raw) : Option Friends := do
  let fields ← v.fields? fieldNames fieldNames.length
  let id ← Raw.optional? Raw.int64? fields "id"
  let name ← Raw.optional? Raw.string? fields "name"
  return { id, name }

end Friends

namespace Android

def fieldNames : List String := ["manufacturer", "model"]

def toJson (x : Android) : Json :=
  .obj [("manufacturer", nullable .str x.manufacturer), ("model", nullable .str x.model)]

def ofRaw? (v : Raw) : Option Android := do
  let fields ← v.fields? fieldNames fieldNames.length
  let manufacturer ← Raw.optional? Raw.string? fields "manufacturer"
  let model ← Raw.optional? Raw.string? fields "model"
  return { manufacturer, model }

end Android

namespace Ios

def fieldNames : List String := ["manufacturer", "model"]

def toJson (x : Ios) : Json :=
  .obj [("manufacturer", nullable .str x.manufacturer), ("model", nullable .str x.model)]

def ofRaw? (v : Raw) : Option Ios := do
  let fields ← v.fields? fieldNames fieldNames.length
  let manufacturer ← Raw.optional? Raw.string? fields "manufacturer"
  let model ← Raw.optional? Raw.string? fields "model"
  return { manufacturer, model }

end Ios

namespace Device

def fieldNames : List String := ["android", "ios"]

def toJson (x : Device) : Json :=
  .obj [("android", nullable Android.toJson x.android), ("ios", nullable Ios.toJson x.ios)]

def ofRaw? (v : Raw) : Option Device := do
  let fields ← v.fields? fieldNames fieldNames.length
  let android ← Raw.optional? Android.ofRaw? fields "android"
  let ios ← Raw.optional? Ios.ofRaw? fields "ios"
  return { android, ios }

end Device

namespace Base

def fieldNames : List String :=
  ["id", "is_active", "age", "name", "gender", "eye_color", "hair_style", "salery", "friends",
    "groups", "rooms", "device", "qualifications"]

def toJson (x : Base) : Json :=
  .obj
    [("id", nullable .str x.id),
      ("is_active", nullable .bool x.isActive),
      ("age", nullable .int x.age),
      ("name", nullable .str x.name),
      ("gender", nullable .str x.gender),
      ("eye_color", x.eyeColor),
      ("hair_style", nullable HairStyle.toJson x.hairStyle),
      ("salery", nullable .int x.salary),
      ("friends", nullable (list Friends.toJson) x.friends),
      ("groups", nullable (list (nullable .int)) x.groups),
      ("rooms", nullable (list (nullable .str)) x.rooms),
      ("device", nullable Device.toJson x.device),
      ("qualifications", nullable .arr x.qualifications)]

def ofRaw? (v : Raw) : Option Base := do
  let fields ← v.fields? fieldNames fieldNames.length
  let id ← Raw.optional? Raw.string? fields "id"
  let isActive ← Raw.optional? Raw.bool? fields "is_active"
  let age ← Raw.optional? Raw.int64? fields "age"
  let name ← Raw.optional? Raw.string? fields "name"
  let gender ← Raw.optional? Raw.string? fields "gender"
  let eyeColor ← (← fields.lookup "eye_color").value? (Raw.maxDepth - 1)
  let hairStyle ← Raw.optional? HairStyle.ofRaw? fields "hair_style"
  let salary ← Raw.optional? Raw.int64? fields "salery"
  let friends ← Raw.optional? (Raw.list? Friends.ofRaw?) fields "friends"
  let groups ← Raw.optional? (Raw.list? (Raw.nullable? Raw.int64?)) fields "groups"
  let rooms ← Raw.optional? (Raw.list? (Raw.nullable? Raw.string?)) fields "rooms"
  let device ← Raw.optional? Device.ofRaw? fields "device"
  let qualifications ←
    Raw.optional? (Raw.list? (Raw.value? (Raw.maxDepth - 2))) fields "qualifications"
  return {
    id, isActive, age, name, gender, eyeColor, hairStyle, salary, friends, groups, rooms, device,
    qualifications }

end Base

inductive Kind where
  | base
  | hairStyle
  | friends
  | device
  | android
  | ios
deriving DecidableEq, Repr

namespace Kind

def name : Kind → String
  | .base => "Base"
  | .hairStyle => "HairStyle"
  | .friends => "Friends"
  | .device => "Device"
  | .android => "Android"
  | .ios => "Ios"

def all : List Kind := [.base, .hairStyle, .friends, .device, .android, .ios]

def ofName? (name : String) : Option Kind := all.find? (·.name = name)

end Kind

inductive Fixture where
  | base (value : Base)
  | hairStyle (value : HairStyle)
  | friends (value : Friends)
  | device (value : Device)
  | android (value : Android)
  | ios (value : Ios)
deriving Repr, Inhabited

namespace Fixture

def kind : Fixture → Kind
  | .base _ => .base
  | .hairStyle _ => .hairStyle
  | .friends _ => .friends
  | .device _ => .device
  | .android _ => .android
  | .ios _ => .ios

def toJson : Fixture → Json
  | .base x => x.toJson
  | .hairStyle x => x.toJson
  | .friends x => x.toJson
  | .device x => x.toJson
  | .android x => x.toJson
  | .ios x => x.toJson

def ofRaw? (kind : Kind) (v : Raw) : Option Fixture :=
  match kind with
  | .base => (Base.ofRaw? v).map .base
  | .hairStyle => (HairStyle.ofRaw? v).map .hairStyle
  | .friends => (Friends.ofRaw? v).map .friends
  | .device => (Device.ofRaw? v).map .device
  | .android => (Android.ofRaw? v).map .android
  | .ios => (Ios.ofRaw? v).map .ios

def ofString? (kind : Kind) (s : String) : Option Fixture := (Raw.ofString? s).bind (ofRaw? kind)

def ofKind? (kind : Kind) (x : Fixture) : Option Fixture := if x.kind = kind then some x else none

def base? : Fixture → Option Base
  | .base x => some x
  | _ => none

def hairStyle? : Fixture → Option HairStyle
  | .hairStyle x => some x
  | _ => none

def friends? : Fixture → Option Friends
  | .friends x => some x
  | _ => none

def device? : Fixture → Option Device
  | .device x => some x
  | _ => none

def android? : Fixture → Option Android
  | .android x => some x
  | _ => none

def ios? : Fixture → Option Ios
  | .ios x => some x
  | _ => none

end Fixture

end Catalog
end FixtureLab

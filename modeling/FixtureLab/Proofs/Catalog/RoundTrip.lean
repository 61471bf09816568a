import FixtureLab.Catalog.Model
import FixtureLab.Proofs.Json.Fields

/-!
This module contains that fixtures are read back from the text that they are printed as.
-/

namespace FixtureLab
namespace Catalog

open Json (IsInt64 Raw)

theorem nullable?_toRaw {α : Type} {read : Raw → Option α} {toJson : α → Json} {o : Option α}
    (hnull : read .null = none) (h : ∀ a ∈ o, read (toJson a).toRaw = some a) :
    Raw.nullable? read (nullable toJson o).toRaw = some o := by
  cases o with
  | none => rfl
  | some a => exact Raw.nullable?_of_eq_some hnull (h a rfl)

structure IsRecord (names : List String) (v : Json) : Prop where
  eq_obj : v = .obj v.members
  keys : v.members.map (·.1) = names
  nodup : names.Nodup

def spelled (v : Json) : List (String × Raw) := v.members.map fun m => (m.1, m.2.toRaw)

namespace IsRecord

variable {names : List String} {v : Json}

theorem fields?_toRaw (h : IsRecord names v) :
    Raw.fields? names names.length v.toRaw = some (spelled v) := by
  obtain ⟨heq, rfl, hnodup⟩ := h
  have hfields := Raw.fields?_obj hnodup (fun m hm => List.mem_map_of_mem hm)
    (v.members.map (·.1)).length
  rwa [← heq] at hfields

theorem lookup_spelled (h : IsRecord names v) {name : String} {w : Json}
    (hmem : (name, w) ∈ v.members) : (spelled v).lookup name = some w.toRaw := by
  obtain ⟨-, rfl, hnodup⟩ := h
  obtain ⟨before, after, hsplit⟩ := List.append_of_mem hmem
  rw [hsplit, List.map_append, List.map_cons, List.nodup_append] at hnodup
  apply List.lookup_eq_some_iff.2
  refine ⟨before.map fun m => (m.1, m.2.toRaw), after.map fun m => (m.1, m.2.toRaw), ?_, ?_⟩
  . simp [spelled, hsplit]
  . intro entry hentry
    obtain ⟨m, hm, rfl⟩ := List.mem_map.1 hentry
    have hne := hnodup.2.2 m.1 (List.mem_map_of_mem hm) name List.mem_cons_self
    simpa using hne.symm

theorem optional?_spelled (h : IsRecord names v) {α : Type} {read : Raw → Option α}
    {toJson : α → Json} {o : Option α} {name : String}
    (hmem : (name, nullable toJson o) ∈ v.members) (hnull : read .null = none)
    (hread : ∀ a ∈ o, read (toJson a).toRaw = some a) :
    Raw.optional? read (spelled v) name = some o := by
  rw [Raw.optional?, h.lookup_spelled hmem]
  exact nullable?_toRaw hnull hread

theorem string?_spelled (h : IsRecord names v) {o : Option String} {name : String}
    (hmem : (name, nullable .str o) ∈ v.members) :
    Raw.optional? Raw.string? (spelled v) name = some o :=
  h.optional?_spelled hmem rfl fun s _ => Raw.string?_toRaw s

theorem int64?_spelled (h : IsRecord names v) {o : Option Int} {name : String}
    (hmem : (name, nullable .int o) ∈ v.members) (ho : ∀ n ∈ o, IsInt64 n) :
    Raw.optional? Raw.int64? (spelled v) name = some o :=
  h.optional?_spelled hmem rfl fun n hn => Raw.int64?_toRaw (ho n hn)

end IsRecord

theorem list?_toRaw {α : Type} {read : Raw → Option α} {toJson : α → Json} {as : List α}
    (h : ∀ a ∈ as, read (toJson a).toRaw = some a) :
    Raw.list? read (list toJson as).toRaw = some as := by
  have hlist := Raw.list?_toRaw (f := id) h
  rwa [List.map_id] at hlist

@[simp]
theorem floatFree_nullable_iff {α : Type} {toJson : α → Json} {o : Option α} :
    (nullable toJson o).floatFree ↔ ∀ a ∈ o, (toJson a).floatFree := by
  cases o <;> simp [nullable, Json.floatFree]

@[simp]
theorem floatFree_list_iff {α : Type} {toJson : α → Json} {as : List α} :
    (list toJson as).floatFree ↔ ∀ a ∈ as, (toJson a).floatFree :=
  Json.floatFreeItems_iff.trans List.forall_mem_map

namespace HairStyle

theorem ofRaw?_toRaw (x : HairStyle) : ofRaw? x.toJson.toRaw = some x := rfl

end HairStyle

namespace Friends

theorem isRecord_toJson (x : Friends) : IsRecord fieldNames x.toJson := ⟨rfl, rfl, by decide⟩

theorem ofRaw?_toRaw {x : Friends} (h : ∀ n ∈ x.id, IsInt64 n) :
    ofRaw? x.toJson.toRaw = some x := by
  have hrecord := x.isRecord_toJson
  have hid : Raw.optional? Raw.int64? (spelled x.toJson) "id" = some x.id :=
    hrecord.int64?_spelled (by simp [toJson, Json.members]) h
  have hname : Raw.optional? Raw.string? (spelled x.toJson) "name" = some x.name :=
    hrecord.string?_spelled (by simp [toJson, Json.members])
  simp [ofRaw?, hrecord.fields?_toRaw, hid, hname]

theorem isInt64_of_ofRaw? {raw : Raw} {x : Friends} (h : ofRaw? raw = some x) :
    ∀ n ∈ x.id, IsInt64 n := by
  simp only [ofRaw?, Option.bind_eq_bind, Option.bind_eq_some_iff] at h
  obtain ⟨fields, -, id, hid, name, -, heq⟩ := h
  cases heq
  exact Raw.forall_of_optional? hid fun _ _ _ => Raw.isInt64_of_int64?

theorem floatFree_toJson (x : Friends) : x.toJson.floatFree := by
  apply Json.floatFreeMembers_iff.2
  simp [Json.floatFree]

end Friends

namespace Android

theorem isRecord_toJson (x : Android) : IsRecord fieldNames x.toJson := ⟨rfl, rfl, by decide⟩

theorem ofRaw?_toRaw (x : Android) : ofRaw? x.toJson.toRaw = some x := by
  have hrecord := x.isRecord_toJson
  have hmanufacturer :
      Raw.optional? Raw.string? (spelled x.toJson) "manufacturer" = some x.manufacturer :=
    hrecord.string?_spelled (by simp [toJson, Json.members])
  have hmodel : Raw.optional? Raw.string? (spelled x.toJson) "model" = some x.model :=
    hrecord.string?_spelled (by simp [toJson, Json.members])
  simp [ofRaw?, hrecord.fields?_toRaw, hmanufacturer, hmodel]

theorem floatFree_toJson (x : Android) : x.toJson.floatFree := by
  apply Json.floatFreeMembers_iff.2
  simp [Json.floatFree]

end Android

namespace Ios

theorem isRecord_toJson (x : Ios) : IsRecord fieldNames x.toJson := ⟨rfl, rfl, by decide⟩

theorem ofRaw?_toRaw (x : Ios) : ofRaw? x.toJson.toRaw = some x := by
  have hrecord := x.isRecord_toJson
  have hmanufacturer :
      Raw.optional? Raw.string? (spelled x.toJson) "manufacturer" = some x.manufacturer :=
    hrecord.string?_spelled (by simp [toJson, Json.members])
  have hmodel : Raw.optional? Raw.string? (spelled x.toJson) "model" = some x.model :=
    hrecord.string?_spelled (by simp [toJson, Json.members])
  simp [ofRaw?, hrecord.fields?_toRaw, hmanufacturer, hmodel]

theorem floatFree_toJson (x : Ios) : x.toJson.floatFree := by
  apply Json.floatFreeMembers_iff.2
  simp [Json.floatFree]

end Ios

namespace Device

theorem isRecord_toJson (x : Device) : IsRecord fieldNames x.toJson := ⟨rfl, rfl, by decide⟩

theorem ofRaw?_toRaw (x : Device) : ofRaw? x.toJson.toRaw = some x := by
  have hrecord := x.isRecord_toJson
  have handroid : Raw.optional? Android.ofRaw? (spelled x.toJson) "android" = some x.android :=
    hrecord.optional?_spelled (by simp [toJson, Json.members]) rfl fun a _ => a.ofRaw?_toRaw
  have hios : Raw.optional? Ios.ofRaw? (spelled x.toJson) "ios" = some x.ios :=
    hrecord.optional?_spelled (by simp [toJson, Json.members]) rfl fun a _ => a.ofRaw?_toRaw
  simp [ofRaw?, hrecord.fields?_toRaw, handroid, hios]

theorem floatFree_toJson (x : Device) : x.toJson.floatFree := by
  apply Json.floatFreeMembers_iff.2
  simp [Android.floatFree_toJson, Ios.floatFree_toJson]

end Device

namespace Base

structure Readable (x : Base) : Prop where
  age : ∀ n ∈ x.age, IsInt64 n
  salary : ∀ n ∈ x.salary, IsInt64 n
  friends : ∀ friends ∈ x.friends, ∀ friend ∈ friends, ∀ n ∈ friend.id, IsInt64 n
  groups : ∀ groups ∈ x.groups, ∀ group ∈ groups, ∀ n ∈ group, IsInt64 n
  eyeColor : Raw.Known (Raw.maxDepth - 1) true x.eyeColor
  qualifications : ∀ vs ∈ x.qualifications, ∀ v ∈ vs, Raw.Known (Raw.maxDepth - 2) true v

theorem isRecord_toJson (x : Base) : IsRecord fieldNames x.toJson := ⟨rfl, rfl, by decide⟩

theorem ofRaw?_toRaw {x : Base} (h : x.Readable) : ofRaw? x.toJson.toRaw = some x := by
  have hrecord := x.isRecord_toJson
  have hid : Raw.optional? Raw.string? (spelled x.toJson) "id" = some x.id :=
    hrecord.string?_spelled (by simp [toJson, Json.members])
  have hactive : Raw.optional? Raw.bool? (spelled x.toJson) "is_active" = some x.isActive :=
    hrecord.optional?_spelled (by simp [toJson, Json.members]) rfl fun b _ => Raw.bool?_toRaw b
  have hage : Raw.optional? Raw.int64? (spelled x.toJson) "age" = some x.age :=
    hrecord.int64?_spelled (by simp [toJson, Json.members]) h.age
  have hname : Raw.optional? Raw.string? (spelled x.toJson) "name" = some x.name :=
    hrecord.string?_spelled (by simp [toJson, Json.members])
  have hgender : Raw.optional? Raw.string? (spelled x.toJson) "gender" = some x.gender :=
    hrecord.string?_spelled (by simp [toJson, Json.members])
  have heye : (spelled x.toJson).lookup "eye_color" = some x.eyeColor.toRaw :=
    hrecord.lookup_spelled (by simp [toJson, Json.members])
  have heye' := Raw.value?_toRaw x.eyeColor (h.eyeColor.floatFree rfl) h.eyeColor.wellFormed
    h.eyeColor.depth_le
  have hhair : Raw.optional? HairStyle.ofRaw? (spelled x.toJson) "hair_style" = some x.hairStyle :=
    hrecord.optional?_spelled (by simp [toJson, Json.members]) rfl fun a _ => a.ofRaw?_toRaw
  have hsalary : Raw.optional? Raw.int64? (spelled x.toJson) "salery" = some x.salary :=
    hrecord.int64?_spelled (by simp [toJson, Json.members]) h.salary
  have hfriends : Raw.optional? (Raw.list? Friends.ofRaw?) (spelled x.toJson) "friends"
      = some x.friends :=
    hrecord.optional?_spelled (by simp [toJson, Json.members]) rfl fun friends hfriends =>
      list?_toRaw fun friend hfriend =>
        Friends.ofRaw?_toRaw (h.friends friends hfriends friend hfriend)
  have hgroups : Raw.optional? (Raw.list? (Raw.nullable? Raw.int64?)) (spelled x.toJson) "groups"
      = some x.groups :=
    hrecord.optional?_spelled (by simp [toJson, Json.members]) rfl fun groups hgroups =>
      list?_toRaw fun group hgroup => nullable?_toRaw rfl fun n hn =>
        Raw.int64?_toRaw (h.groups groups hgroups group hgroup n hn)
  have hrooms : Raw.optional? (Raw.list? (Raw.nullable? Raw.string?)) (spelled x.toJson) "rooms"
      = some x.rooms :=
    hrecord.optional?_spelled (by simp [toJson, Json.members]) rfl fun rooms _ =>
      list?_toRaw fun room _ => nullable?_toRaw rfl fun s _ => Raw.string?_toRaw s
  have hdevice : Raw.optional? Device.ofRaw? (spelled x.toJson) "device" = some x.device :=
    hrecord.optional?_spelled (by simp [toJson, Json.members]) rfl fun a _ => a.ofRaw?_toRaw
  have hvalues : ∀ vs ∈ x.qualifications,
      Raw.list? (Raw.value? (Raw.maxDepth - 2)) (Json.arr vs).toRaw = some vs := by
    intro vs hvs
    have hlist : Raw.list? (Raw.value? (Raw.maxDepth - 2)) (list (fun v => v) vs).toRaw = some vs :=
      list?_toRaw fun v hv =>
        have hknown := h.qualifications vs hvs v hv
        Raw.value?_toRaw v (hknown.floatFree rfl) hknown.wellFormed hknown.depth_le
    rwa [list, List.map_id'] at hlist
  have hqualifications : Raw.optional? (Raw.list? (Raw.value? (Raw.maxDepth - 2)))
      (spelled x.toJson) "qualifications" = some x.qualifications :=
    hrecord.optional?_spelled (by simp [toJson, Json.members]) rfl hvalues
  -- The reader asks for the fields one after the other, in the order of their names.
  unfold ofRaw?
  refine Option.bind_eq_some_iff.2 ⟨_, hrecord.fields?_toRaw, ?_⟩
  refine Option.bind_eq_some_iff.2 ⟨_, hid, ?_⟩
  refine Option.bind_eq_some_iff.2 ⟨_, hactive, ?_⟩
  refine Option.bind_eq_some_iff.2 ⟨_, hage, ?_⟩
  refine Option.bind_eq_some_iff.2 ⟨_, hname, ?_⟩
  refine Option.bind_eq_some_iff.2 ⟨_, hgender, ?_⟩
  refine Option.bind_eq_some_iff.2 ⟨_, heye, ?_⟩
  refine Option.bind_eq_some_iff.2 ⟨_, heye', ?_⟩
  refine Option.bind_eq_some_iff.2 ⟨_, hhair, ?_⟩
  refine Option.bind_eq_some_iff.2 ⟨_, hsalary, ?_⟩
  refine Option.bind_eq_some_iff.2 ⟨_, hfriends, ?_⟩
  refine Option.bind_eq_some_iff.2 ⟨_, hgroups, ?_⟩
  refine Option.bind_eq_some_iff.2 ⟨_, hrooms, ?_⟩
  refine Option.bind_eq_some_iff.2 ⟨_, hdevice, ?_⟩
  refine Option.bind_eq_some_iff.2 ⟨_, hqualifications, ?_⟩
  rfl

theorem readable_of_ofRaw? {raw : Raw} {x : Base} (h : ofRaw? raw = some x)
    (hfree : raw.floatFree) : x.Readable := by
  unfold ofRaw? at h
  obtain ⟨fields, hfields, h⟩ := Option.bind_eq_some_iff.1 h
  obtain ⟨id, -, h⟩ := Option.bind_eq_some_iff.1 h
  obtain ⟨active, -, h⟩ := Option.bind_eq_some_iff.1 h
  obtain ⟨age, hage, h⟩ := Option.bind_eq_some_iff.1 h
  obtain ⟨name, -, h⟩ := Option.bind_eq_some_iff.1 h
  obtain ⟨gender, -, h⟩ := Option.bind_eq_some_iff.1 h
  obtain ⟨eyeRaw, hlookup, h⟩ := Option.bind_eq_some_iff.1 h
  obtain ⟨eye, heye, h⟩ := Option.bind_eq_some_iff.1 h
  obtain ⟨hair, -, h⟩ := Option.bind_eq_some_iff.1 h
  obtain ⟨salary, hsalary, h⟩ := Option.bind_eq_some_iff.1 h
  obtain ⟨friends, hfriends, h⟩ := Option.bind_eq_some_iff.1 h
  obtain ⟨groups, hgroups, h⟩ := Option.bind_eq_some_iff.1 h
  obtain ⟨rooms, -, h⟩ := Option.bind_eq_some_iff.1 h
  obtain ⟨device, -, h⟩ := Option.bind_eq_some_iff.1 h
  obtain ⟨qualifications, hqualifications, h⟩ := Option.bind_eq_some_iff.1 h
  have hfree := Raw.floatFree_of_fields? hfields hfree
  cases h
  refine ⟨?_, ?_, ?_, ?_, ?_, ?_⟩
  . exact Raw.forall_of_optional? hage fun _ _ _ => Raw.isInt64_of_int64?
  . exact Raw.forall_of_optional? hsalary fun _ _ _ => Raw.isInt64_of_int64?
  . exact Raw.forall_of_optional? hfriends fun _ _ _ hlist =>
      Raw.forall_of_list? hlist fun _ _ _ => Friends.isInt64_of_ofRaw?
  . exact Raw.forall_of_optional? hgroups fun _ _ _ hlist =>
      Raw.forall_of_list? hlist fun _ _ _ hnullable =>
        Raw.forall_of_nullable? hnullable fun _ => Raw.isInt64_of_int64?
  . have hknown := Raw.known_of_value? heye
    rwa [hfree _ (Raw.mem_of_lookup_eq_some hlookup)] at hknown
  . refine Raw.forall_of_optional? hqualifications fun f hf _ hlist =>
      Raw.forall_of_list? hlist fun item v hitem hv => ?_
    have hknown := Raw.known_of_value? hv
    rwa [hitem (hfree f hf)] at hknown

theorem floatFree_toJson {x : Base} (h : x.Readable) : x.toJson.floatFree := by
  apply Json.floatFreeMembers_iff.2
  have hvalues : ∀ vs ∈ x.qualifications, Json.floatFreeItems vs := fun vs hvs =>
    Json.floatFreeItems_iff.2 fun v hv => (h.qualifications vs hvs v hv).floatFree rfl
  have hhair : ∀ style : HairStyle, style.toJson.floatFree := fun _ => rfl
  simpa [Json.floatFree, h.eyeColor.floatFree rfl, hhair, Friends.floatFree_toJson,
    Device.floatFree_toJson] using hvalues

end Base

namespace Fixture

def integers : Fixture → List Int
  | .base x => x.age.toList ++ x.salary.toList ++ (x.friends.getD []).flatMap (·.id.toList) ++
    (x.groups.getD []).flatMap (·.toList)
  | .friends x => x.id.toList
  | _ => []

def untyped : Fixture → List Json
  | .base x => x.eyeColor :: x.qualifications.getD []
  | _ => []

structure WellFormed (x : Fixture) : Prop where
  integers : ∀ n ∈ x.integers, IsInt64 n
  untyped : ∀ v ∈ x.untyped, v.wellFormed

def FloatFree (x : Fixture) : Prop := ∀ v ∈ x.untyped, v.floatFree

def Readable : Fixture → Prop
  | .base x => x.Readable
  | .friends x => ∀ n ∈ x.id, IsInt64 n
  | _ => True

theorem readable_of_wellFormed {x : Fixture} (h : x.WellFormed) (hfree : x.FloatFree)
    (hdepth : x.toJson.depth ≤ Raw.maxDepth) : x.Readable := by
  obtain ⟨hintegers, huntyped⟩ := h
  cases x with
  | base x =>
    have hmembers := Json.depthMembers_le_iff.1 (Nat.le_of_succ_le_succ hdepth)
    have heye : x.eyeColor ∈ untyped (.base x) := List.mem_cons_self
    have hvalue : ∀ vs ∈ x.qualifications, ∀ v ∈ vs, v ∈ untyped (.base x) := by
      intro vs hvs v hv
      rw [Option.mem_def] at hvs
      simp [untyped, hvs, hv]
    refine ⟨?_, ?_, ?_, ?_, ?_, ?_⟩
    . intro n hn
      exact hintegers n (by simp [integers, Option.mem_def.1 hn])
    . intro n hn
      exact hintegers n (by simp [integers, Option.mem_def.1 hn])
    . intro friends hfriends friend hfriend n hn
      rw [Option.mem_def] at hfriends hn
      refine hintegers n ?_
      simp only [integers, hfriends, Option.getD_some, List.mem_append, List.mem_flatMap]
      exact .inl (.inr ⟨friend, hfriend, by simp [hn]⟩)
    . intro groups hgroups group hgroup n hn
      rw [Option.mem_def] at hgroups hn
      refine hintegers n ?_
      simp only [integers, hgroups, Option.getD_some, List.mem_append, List.mem_flatMap]
      exact .inr ⟨group, hgroup, by simp [hn]⟩
    . have hdepth := hmembers ("eye_color", x.eyeColor) (by simp)
      exact ⟨huntyped _ heye, hdepth, fun _ => hfree _ heye⟩
    . intro vs hvs v hv
      have hdepth := hmembers ("qualifications", .arr vs) (by simp [Option.mem_def.1 hvs, nullable])
      have hitems := Json.depthItems_le_iff.1 (Nat.le_of_succ_le_succ hdepth) v hv
      exact ⟨huntyped v (hvalue vs hvs v hv), hitems, fun _ => hfree v (hvalue vs hvs v hv)⟩
  | friends x => exact fun n hn => hintegers n (Option.mem_toList.2 hn)
  | _ => trivial

theorem readable_of_ofRaw? {kind : Kind} {raw : Raw} {x : Fixture} (h : ofRaw? kind raw = some x)
    (hfree : raw.floatFree) : x.kind = kind ∧ x.Readable := by
  cases kind
  all_goals
    obtain ⟨a, ha, rfl⟩ := Option.map_eq_some_iff.1 h
    refine ⟨rfl, ?_⟩
  case base => exact Base.readable_of_ofRaw? ha hfree
  case friends => exact Friends.isInt64_of_ofRaw? ha
  all_goals trivial

theorem ofRaw?_toRaw {x : Fixture} (h : x.Readable) : ofRaw? x.kind x.toJson.toRaw = some x := by
  cases x with
  | base x => exact Option.map_eq_some_iff.2 ⟨x, Base.ofRaw?_toRaw h, rfl⟩
  | hairStyle x => rfl
  | friends x => exact Option.map_eq_some_iff.2 ⟨x, Friends.ofRaw?_toRaw h, rfl⟩
  | device x => exact Option.map_eq_some_iff.2 ⟨x, x.ofRaw?_toRaw, rfl⟩
  | android x => exact Option.map_eq_some_iff.2 ⟨x, x.ofRaw?_toRaw, rfl⟩
  | ios x => exact Option.map_eq_some_iff.2 ⟨x, x.ofRaw?_toRaw, rfl⟩

theorem floatFree_toJson {x : Fixture} (h : x.Readable) : x.toJson.floatFree := by
  cases x with
  | base x => exact Base.floatFree_toJson h
  | hairStyle x => rfl
  | friends x => exact x.floatFree_toJson
  | device x => exact x.floatFree_toJson
  | android x => exact x.floatFree_toJson
  | ios x => exact x.floatFree_toJson

def print (x : Fixture) : String := String.ofList x.toJson.pretty

theorem ofString?_print {x : Fixture} (h : x.Readable) : ofString? x.kind x.print = some x := by
  rw [ofString?, Raw.ofString?, print, String.toList_ofList,
    Raw.ofChars?_pretty (floatFree_toJson h)]
  exact ofRaw?_toRaw h

def reprint? (kind : Kind) (text : String) : Option String := (ofString? kind text).map print

end Fixture

theorem printed_fixtures_read_back :
    (∀ x : Fixture, x.WellFormed → x.FloatFree → x.toJson.depth ≤ Raw.maxDepth →
      Fixture.ofString? x.kind x.print = some x)
    ∧ ∀ (kind : Kind) (text printed : String), (∀ raw ∈ Raw.ofString? text, raw.floatFree) →
        Fixture.reprint? kind text = some printed →
          Fixture.ofString? kind printed = Fixture.ofString? kind text
          ∧ Fixture.reprint? kind printed = some printed := by
  constructor
  . intro x hx hfree hdepth
    exact Fixture.ofString?_print (Fixture.readable_of_wellFormed hx hfree hdepth)
  . intro kind text printed hfree hprinted
    obtain ⟨x, hx, rfl⟩ := Option.map_eq_some_iff.1 hprinted
    obtain ⟨raw, hraw, hread⟩ := Option.bind_eq_some_iff.1 hx
    obtain ⟨rfl, hreadable⟩ := Fixture.readable_of_ofRaw? hread (hfree raw hraw)
    have hback := Fixture.ofString?_print hreadable
    refine ⟨hback.trans hx.symm, ?_⟩
    rw [Fixture.reprint?, hback, Option.map_some]

def fullBase : Base :=
  { id := some "\"\\\x00é"
    age := some (2 ^ 63 - 1)
    eyeColor := .obj [("", .int (2 ^ 64 - 1)), ("é", .arr [.null, .int (-2 ^ 63), .obj []])]
    hairStyle := some {}
    salary := some (-2 ^ 63)
    friends := some [{ id := some 0 }, {}]
    groups := some [none, some (-1)]
    rooms := some []
    device := some { ios := some {} }
    qualifications := some [.null, .arr []] }

def looseText : String :=
  "\x7b \"eye_color\": \x7b\"b\": 1, \"a\": [null], \"b\": 18446744073709551615\x7d,"
    ++ "\"x\": \x7b\x7d, \"friends\": [[-9223372036854775808, null], \x7b\x7d],"
    ++ "\"rooms\": [null, \"r\"] \x7d"

theorem fullBase_looseText_read_back :
    Fixture.ofString? .base (Fixture.base fullBase).print = some (.base fullBase)
    ∧ ∃ printed, Fixture.reprint? .base looseText = some printed
        ∧ Fixture.ofString? .base printed = Fixture.ofString? .base looseText
        ∧ Fixture.reprint? .base printed = some printed := by
  have hread : (Fixture.reprint? .base looseText).isSome := by decide +kernel
  obtain ⟨printed, hprinted⟩ := Option.isSome_iff_exists.1 hread
  have hfree : ∀ raw ∈ Raw.ofString? looseText, raw.floatFree := by decide +kernel
  have hformed : (Fixture.base fullBase).WellFormed := ⟨by decide +kernel, by decide +kernel⟩
  have hfree' : (Fixture.base fullBase).FloatFree := by
    unfold Fixture.FloatFree
    decide +kernel
  exact ⟨printed_fixtures_read_back.1 (.base fullBase) hformed hfree' (by decide +kernel),
    printed, hprinted, printed_fixtures_read_back.2 .base looseText printed hfree hprinted⟩

end Catalog
end FixtureLab

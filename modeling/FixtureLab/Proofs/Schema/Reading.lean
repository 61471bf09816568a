import FixtureLab.Proofs.Schema.Agreement
import FixtureLab.Proofs.Schema.Struct
import FixtureLab.Proofs.Table
import FixtureLab.Proofs.Text.Normalize

/-!
This module contains which values are accepted by the types of a source file, and that the source
rendered for samples accepts each of them, if nothing in the samples conflicts and they hold nothing
that the settled types are not made for.
-/

namespace FixtureLab
namespace Schema

namespace SourceFile

def Means (s : SourceFile) (name standard : String) : Prop :=
  Text.nfc name = standard ∧ standard ∉ s.structs.map (Text.nfc ·.name)

inductive Accepts (s : SourceFile) : SourceType → Json → Prop where
  | null {name : String} {arg : SourceType} (h : s.Means name "Option") :
    Accepts s (.applied name arg) .null
  | some {name : String} {arg : SourceType} {v : Json} (h : s.Means name "Option")
    (hv : Accepts s arg v) : Accepts s (.applied name arg) v
  | vec {name : String} {arg : SourceType} {items : List Json} (h : s.Means name "Vec")
    (hitems : ∀ v ∈ items, Accepts s arg v) : Accepts s (.applied name arg) (.arr items)
  | i64 {name : String} {n : Int} (h : s.Means name "i64") (hn : -2 ^ 63 ≤ n ∧ n < 2 ^ 63) :
    Accepts s (.named name) (.int n)
  | int {name : String} {n : Int} (h : s.Means name "f64") : Accepts s (.named name) (.int n)
  | float {name : String} {x : Binary64} (h : s.Means name "f64") :
    Accepts s (.named name) (.float x)
  | string {name : String} {text : String} (h : s.Means name "String") :
    Accepts s (.named name) (.str text)
  | bool {name : String} {b : Bool} (h : s.Means name "bool") : Accepts s (.named name) (.bool b)
  | value {name : String} {v : Json} (h : s.Means name "Value") (himport : s.importsValue) :
    Accepts s (.named name) v
  | record {name : String} {struct : Struct} {members : List (String × Json)}
    (h : s.structs.filter (Text.nfc ·.name = Text.nfc name) = [struct])
    (present : ∀ f ∈ struct.fields, ∀ v, Table.find? f.wireName members = .some v →
      Accepts s f.type v)
    (absent : ∀ f ∈ struct.fields, Table.find? f.wireName members = .none →
      ∃ option arg, f.type = .applied option arg ∧ s.Means option "Option") :
    Accepts s (.named name) (.obj members)

end SourceFile

namespace Field

def standardScalars (f : Field) : List String :=
  if f.kind = .object then [] else [Source.scalarType f]

def standardTypes (f : Field) : List String :=
  if f.isArray then "Option" :: "Vec" :: f.standardScalars
  else if f.kind = .unknown then f.standardScalars
  else "Option" :: f.standardScalars

theorem scalarType_mem_standardTypes {f : Field} (h : f.kind ≠ .object) :
    Source.scalarType f ∈ f.standardTypes := by
  have hscalar : Source.scalarType f ∈ f.standardScalars := by simp [standardScalars, h]
  unfold standardTypes
  split
  . simp [hscalar]
  split <;> simp [hscalar]

theorem option_mem_standardTypes {f : Field} (h : f.kind ≠ .unknown ∨ f.isArray) :
    "Option" ∈ f.standardTypes := by
  unfold standardTypes
  split
  . exact List.mem_cons_self
  . next hsingle => simp [h.resolve_right hsingle]

theorem vec_mem_standardTypes {f : Field} (h : f.isArray) : "Vec" ∈ f.standardTypes := by
  simp [standardTypes, h]

theorem mem_standardNames {f : Field} {name : String} (h : name ∈ f.standardTypes) :
    name ∈ ["Option", "Vec", "i64", "f64", "String", "bool", "Value"] := by
  have hscalar : name ∈ f.standardScalars → name ∈ ["i64", "f64", "String", "bool", "Value"] := by
    unfold standardScalars Source.scalarType
    cases f.kind <;> simp +contextual
  have hcases : name = "Option" ∨ name = "Vec" ∨ name ∈ f.standardScalars := by
    unfold standardTypes at h
    split at h
    . simpa using h
    split at h
    . exact .inr (.inr h)
    . exact (List.mem_cons.1 h).imp_right .inr
  exact List.mem_cons.2 (hcases.imp_right fun h => List.mem_cons.2 (h.imp_right hscalar))

theorem nfc_of_mem_standardTypes {f : Field} {name : String} (h : name ∈ f.standardTypes) :
    Text.nfc name = name := by
  have hplain : ∀ name ∈ ["Option", "Vec", "i64", "f64", "String", "bool", "Value"],
      name.toList.all (·.toNat < 0xC0) := by decide
  exact Text.nfc_eq_self (by simpa using hplain name (mem_standardNames h))

end Field

def RecordType.structName (t : RecordType) : String := Text.nfc (Source.typeIdent t.name)

/--
No two structs have one name, and none has that of a standard type that a field is emitted with.
-/
structure NamesDistinct (types : List RecordType) : Prop where
  structs : (types.map (·.structName)).Nodup
  standard : ∀ t ∈ types, ∀ f ∈ t.fields, ∀ name ∈ f.standardTypes,
    name ∉ types.map (·.structName)

instance (types : List RecordType) : Decidable (NamesDistinct types) :=
  decidable_of_iff
    ((types.map (·.structName)).Nodup
      ∧ ∀ t ∈ types, ∀ f ∈ t.fields, ∀ name ∈ f.standardTypes, name ∉ types.map (·.structName))
    ⟨fun ⟨structs, standard⟩ => ⟨structs, standard⟩, fun h => ⟨h.structs, h.standard⟩⟩

/--
A field that is read from another key than it is written for need not be there, and no field of the
struct is written for that other key.
-/
def Struct.KeysRead (s : Struct) : Prop :=
  ∀ f ∈ s.fields, f.wireName = f.key
    ∨ f.type ≠ .named "Value" ∧ f.wireName ∉ s.fields.map (·.key)

instance (s : Struct) : Decidable s.KeysRead :=
  inferInstanceAs (Decidable (∀ f ∈ s.fields, f.wireName = f.key
    ∨ f.type ≠ .named "Value" ∧ f.wireName ∉ s.fields.map (·.key)))

theorem filter_eq_of_nodup {α : Type} {f : α → String} {l : List α} (h : (l.map f).Nodup) {a : α}
    (ha : a ∈ l) : l.filter (f · = f a) = [a] := by
  induction l with
  | nil => cases ha
  | cons b rest ih =>
    obtain ⟨hnew, hrest⟩ := List.nodup_cons.1 h
    rcases List.mem_cons.1 ha with rfl | ha
    . have hnone : rest.filter (f · = f a) = [] := by
        rw [List.filter_eq_nil_iff]
        intro c hc
        have hne : f c ≠ f a := fun heq => hnew (List.mem_map.2 ⟨c, hc, heq⟩)
        simpa using hne
      rw [List.filter_cons_of_pos (by simp), hnone]
    . have hne : f b ≠ f a := fun heq => hnew (List.mem_map.2 ⟨a, ha, heq.symm⟩)
      rw [List.filter_cons_of_neg (by simpa using hne), ih hrest ha]

section Names

variable {d : Definitions}

theorem structNames_sourceFile (d : Definitions) :
    d.sourceFile.structs.map (Text.nfc ·.name) = d.types.map (·.structName) := by
  have hnames := congrArg (List.map Text.nfc) d.names_sourceFile
  rw [List.map_map, List.map_map, List.map_map] at hnames
  exact hnames

theorem NamesDistinct.means (h : NamesDistinct d.types) {t : RecordType} (ht : t ∈ d.types)
    {f : Field} (hf : f ∈ t.fields) {name : String} (hname : name ∈ f.standardTypes) :
    d.sourceFile.Means name name := by
  refine ⟨Field.nfc_of_mem_standardTypes hname, ?_⟩
  rw [structNames_sourceFile]
  exact h.standard t ht f hf name hname

theorem NamesDistinct.filter_eq (h : NamesDistinct d.types) {struct : Struct}
    (hmem : struct ∈ d.sourceFile.structs) :
    d.sourceFile.structs.filter (Text.nfc ·.name = Text.nfc struct.name) = [struct] :=
  filter_eq_of_nodup (structNames_sourceFile d ▸ h.structs) hmem

end Names

namespace SourceFile

theorem scalarType_ofSample (key : String) (w : Json) :
    Source.scalarType (Field.ofSample key w)
      =
    match kindOf w with
    | .int64 => "i64"
    | .float64 => "f64"
    | .string => "String"
    | .bool => "bool"
    | .unknown => "Value"
    | .object => Source.typeIdent (Text.upperCamelCase key) := by
  unfold Source.scalarType Field.typeName
  rw [objectName_ofSample, kind_ofSample]
  cases kindOf w <;> rfl

variable {s : SourceFile}

theorem accepts_option (h : s.Means "Option" "Option") {arg : SourceType} {v : Json}
    (hv : ¬v.isNull → s.Accepts arg v) : s.Accepts (.option arg) v := by
  cases v with
  | null => exact .null h
  | _ => exact .some h (hv (by simp [Json.isNull]))

theorem Accepts.of_option {arg : SourceType} {v : Json} (h : s.Accepts (.option arg) v)
    (hv : ¬v.isNull) : s.Accepts arg v := by
  cases h with
  | null => exact absurd rfl hv
  | some _ h => exact h
  | vec hname => exact absurd hname.1 (by decide +kernel)

theorem Accepts.of_vec {arg : SourceType} {items : List Json}
    (h : s.Accepts (.vec arg) (.arr items)) : ∀ v ∈ items, s.Accepts arg v := by
  cases h with
  | some hname => exact absurd hname.1 (by decide +kernel)
  | vec _ h => exact h

theorem Accepts.of_record {name : String} {struct : Struct} {members : List (String × Json)}
    (h : s.Accepts (.named name) (.obj members)) (hname : Text.nfc name ≠ "Value")
    (hstruct : s.structs.filter (Text.nfc ·.name = Text.nfc name) = [struct]) :
    (∀ f ∈ struct.fields, ∀ v, Table.find? f.wireName members = .some v → s.Accepts f.type v)
      ∧ ∀ f ∈ struct.fields, Table.find? f.wireName members = none →
        ∃ option arg, f.type = .applied option arg ∧ s.Means option "Option" := by
  cases h with
  | value h => exact absurd h.1 hname
  | record h present absent =>
    cases List.singleton_inj.1 (hstruct.symm.trans h)
    exact ⟨present, absent⟩

theorem accepts_vec (h : s.Means "Vec" "Vec") {arg : SourceType} {v : Json}
    (harray : Field.isArrayValue v) (hitems : ∀ x ∈ v.items, s.Accepts arg x) :
    s.Accepts (.vec arg) v := by
  cases v with
  | arr items => exact .vec h hitems
  | _ => cases harray

theorem accepts_scalar {key : String} {w x : Json}
    (h : kindOf w ≠ .object →
      s.Means (Source.scalarType (Field.ofSample key w)) (Source.scalarType (Field.ofSample key w)))
    (hkind : FieldKind.of x = kindOf w ∨ kindOf w = .float64 ∧ FieldKind.of x = .int64)
    (hknown : kindOf w ≠ .unknown) (hfit : kindOf w = .int64 → x.fitsInt64)
    (hnested : ∀ members, x = .obj members →
      s.Accepts (.named (Source.typeIdent (Text.upperCamelCase key))) x) :
    s.Accepts (.named (Source.scalarType (Field.ofSample key w))) x := by
  rw [scalarType_ofSample] at h ⊢
  cases hw : kindOf w with
  | unknown => exact absurd hw hknown
  | object =>
    cases x with
    | obj members => exact hnested members rfl
    | _ => simp [hw, FieldKind.of] at hkind
  | int64 =>
    rw [hw] at h
    cases x with
    | int n => exact .i64 (h (by decide)) (by simpa [Json.fitsInt64] using hfit hw)
    | _ => simp [hw, FieldKind.of] at hkind
  | float64 =>
    rw [hw] at h
    cases x with
    | int n => exact .int (h (by decide))
    | float x => exact .float (h (by decide))
    | _ => simp [hw, FieldKind.of] at hkind
  | string =>
    rw [hw] at h
    cases x with
    | str text => exact .string (h (by decide))
    | _ => simp [hw, FieldKind.of] at hkind
  | bool =>
    rw [hw] at h
    cases x with
    | bool b => exact .bool (h (by decide))
    | _ => simp [hw, FieldKind.of] at hkind

section Field

variable {key : String} {vs : List Json} {w v : Json}

def Knows (s : SourceFile) (f : Field) : Prop := ∀ name ∈ f.standardTypes, s.Means name name

theorem Knows.scalar (h : s.Knows (Field.ofSample key w)) (hkind : kindOf w ≠ .object) :
    s.Means (Source.scalarType (Field.ofSample key w))
      (Source.scalarType (Field.ofSample key w)) :=
  h _ (Field.scalarType_mem_standardTypes hkind)

theorem Knows.option (h : s.Knows (Field.ofSample key w))
    (hw : kindOf w ≠ .unknown ∨ Field.isArrayValue w) : s.Means "Option" "Option" :=
  h _ (Field.option_mem_standardTypes hw)

theorem Knows.vec (h : s.Knows (Field.ofSample key w)) (hw : Field.isArrayValue w) :
    s.Means "Vec" "Vec" :=
  h _ (Field.vec_mem_standardTypes hw)

theorem accepts_unknown (h : s.Knows (Field.ofSample key w)) (hw : SettledOn key vs w)
    (hkind : kindOf w = .unknown) (himport : s.importsValue) (hv : v ∈ vs) :
    s.Accepts (Field.ofSample key w).sourceType v := by
  have hvalue : s.Means "Value" "Value" := by
    have hscalar := h.scalar (by simp [hkind])
    rwa [scalarType_ofSample, hkind] at hscalar
  rw [Field.sourceType_of_unknown hkind]
  split
  . next harray =>
    have hwNotNull : ¬w.isNull := by
      intro hnull
      cases w <;> simp_all [Json.isNull, Field.isArrayValue]
    apply accepts_option (h.option (.inr harray))
    intro hnotNull
    apply accepts_vec (h.vec harray)
    . rw [hw.isArrayValue_eq hwNotNull hv hnotNull]
      exact harray
    . exact fun x _ => .value hvalue himport
  . exact .value hvalue himport

theorem accepts_single (h : s.Knows (Field.ofSample key w)) (hw : SettledOn key vs w)
    (hkind : kindOf w ≠ .unknown) (hsingle : ¬Field.isArrayValue w) (hfit : NumbersFit vs)
    (hv : v ∈ vs)
    (hnested : ∀ members, v = .obj members →
      s.Accepts (.named (Source.typeIdent (Text.upperCamelCase key))) v) :
    s.Accepts (Field.ofSample key w).sourceType v := by
  rw [Field.sourceType_of_single hkind hsingle]
  apply accepts_option (h.option (.inl hkind))
  intro hnotNull
  have hshape : ¬Field.isArrayValue v := by
    rwa [hw.isArrayValue_eq (not_isNull_of_kindOf hkind) hv hnotNull]
  have hknown : kindOf v ≠ .unknown :=
    fun hunknown => hnotNull (isNull_of_kindOf hunknown (Bool.eq_false_iff.2 hshape))
  apply accepts_scalar h.scalar _ hkind _ hnested
  . rw [of_eq_kindOf hshape]
    exact hw.kindOf_eq hkind hv hknown
  . exact fun hint => (hw.fitsInt64 hint hfit hv).1

theorem accepts_array (h : s.Knows (Field.ofSample key w)) (hw : SettledOn key vs w)
    (hkind : kindOf w ≠ .unknown) (harray : Field.isArrayValue w) (hfull : ObjectArraysFull vs)
    (hfit : NumbersFit vs) (hv : v ∈ vs)
    (hnested : kindOf v = .object → ∀ members, .obj members ∈ v.items →
      s.Accepts (.named (Source.typeIdent (Text.upperCamelCase key))) (.obj members)) :
    s.Accepts (Field.ofSample key w).sourceType v := by
  have hscalar : ∀ x ∈ v.items, ¬x.isNull →
      s.Accepts (.named (Source.scalarType (Field.ofSample key w))) x := by
    intro x hx hnotNull
    have hof := hw.of_item harray hkind hv hx hnotNull
    apply accepts_scalar h.scalar (.inl hof) hkind
    . exact fun hint => (hw.fitsInt64 hint hfit hv).2 x hx
    . rintro members rfl
      apply hnested _ members hx
      rw [hw.kindOf_eq_of_item harray hkind hv hx hnotNull, ← hof]
      rfl
  have hshape : ¬v.isNull → Field.isArrayValue v := by
    intro hnotNull
    rwa [hw.isArrayValue_eq (not_isNull_of_kindOf hkind) hv hnotNull]
  have hoption := h.option (.inl hkind)
  have hvec := h.vec harray
  rw [Field.sourceType_of_array hkind harray]
  split
  . next hobject =>
    apply accepts_option hoption
    intro hnotNull
    apply accepts_vec hvec (hshape hnotNull)
    -- The elements have no `Option` around them, so none of them may be null.
    exact fun x hx => hscalar x hx (hfull ⟨w, hw.mem, hobject⟩ v hv x hx)
  . apply accepts_option hoption
    intro hnotNull
    apply accepts_vec hvec (hshape hnotNull)
    exact fun x hx => accepts_option hoption (hscalar x hx)

end Field

end SourceFile
end Schema
end FixtureLab

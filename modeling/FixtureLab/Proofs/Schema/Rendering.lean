import FixtureLab.Proofs.Schema.Comparable
import FixtureLab.Proofs.Schema.WireNames

/-!
This module contains which definitions are refused, and what the source for all others declares. The
first object field that names no type is reported. Without such a field there is a struct for every
type, and whatever the types of fields name is declared by the source, imported or built in.
-/

namespace FixtureLab
namespace Schema

def Dangling (types : List RecordType) (f : Field) : Prop :=
  f.kind = .object ∧ ∀ t ∈ types, f.objectName ≠ some t.name

def FirstDangling (types : List RecordType) (t : RecordType) (f : Field) : Prop :=
  ∃ before after earlier later,
    types = before ++ t :: after ∧ t.fields = earlier ++ f :: later
    ∧ Dangling types f
    ∧ (∀ g ∈ earlier, ¬Dangling types g)
    ∧ ∀ u ∈ before, ∀ g ∈ u.fields, ¬Dangling types g

def danglingError (t : RecordType) (f : Field) : Error :=
  match f.objectName with
  | none => .missingObjectName t.name f.name
  | some object => .undefinedType t.name f.name object

section Dangling

variable {d : Definitions} {t : RecordType} {f : Field}

theorem not_dangling_iff {types : List RecordType} :
    ¬Dangling types f
      ↔
    (f.kind = .object → ∃ name ∈ types.map (·.name), f.objectName = some name) := by
  simp [Dangling]

theorem Definitions.isSome_type?_iff {name : String} :
    (d.type? name).isSome ↔ ∃ t ∈ d.types, t.name = name := by
  simp [type?, List.find?_isSome]

theorem fieldError?_of_dangling (h : Dangling d.types f) :
    Source.fieldError? d t f = some (danglingError t f) := by
  unfold Source.fieldError? danglingError
  rw [if_pos h.1]
  cases hobject : f.objectName with
  | none => rfl
  | some object =>
    have hundefined : ¬(d.type? object).isSome := by
      rw [Definitions.isSome_type?_iff]
      rintro ⟨u, hu, rfl⟩
      exact h.2 u hu hobject
    simp only [hundefined, Bool.false_eq_true, if_false]

theorem fieldError?_of_not_dangling (h : ¬Dangling d.types f) :
    Source.fieldError? d t f = none := by
  unfold Source.fieldError?
  split
  . next hkind =>
    obtain ⟨name, hname, hobject⟩ := not_dangling_iff.1 h hkind
    have hdefined : (d.type? name).isSome :=
      Definitions.isSome_type?_iff.2 (List.mem_map.1 hname)
    simp only [hobject, hdefined, if_true]
  . rfl

theorem fieldError?_eq_none_iff : Source.fieldError? d t f = none ↔ ¬Dangling d.types f := by
  refine ⟨fun hnone h => ?_, fieldError?_of_not_dangling⟩
  rw [fieldError?_of_dangling h] at hnone
  cases hnone

theorem fieldError?_eq_some_iff {e : Error} :
    Source.fieldError? d t f = some e ↔ Dangling d.types f ∧ e = danglingError t f := by
  constructor
  . intro h
    have hdangling : Dangling d.types f := by
      by_contra hnot
      rw [fieldError?_of_not_dangling hnot] at h
      cases h
    rw [fieldError?_of_dangling hdangling] at h
    exact ⟨hdangling, (Option.some.inj h).symm⟩
  . rintro ⟨h, rfl⟩
    exact fieldError?_of_dangling h

theorem error?_eq_some_iff {e : Error} :
    Source.error? d = some e ↔ ∃ t f, FirstDangling d.types t f ∧ e = danglingError t f := by
  simp only [Source.error?, List.findSome?_eq_some_iff, List.findSome?_eq_none_iff,
    fieldError?_eq_some_iff, fieldError?_eq_none_iff]
  constructor
  . rintro ⟨before, t, after, htypes, ⟨earlier, f, later, hfields, ⟨hf, he⟩, hearlier⟩, hbefore⟩
    exact ⟨t, f, ⟨before, after, earlier, later, htypes, hfields, hf, hearlier, hbefore⟩, he⟩
  . rintro ⟨t, f, ⟨before, after, earlier, later, htypes, hfields, hf, hearlier, hbefore⟩, he⟩
    exact ⟨before, t, after, htypes, ⟨earlier, f, later, hfields, ⟨hf, he⟩, hearlier⟩, hbefore⟩

theorem render_eq_error_iff {e : Error} :
    Source.render d = .error e ↔ Source.error? d = some e := by
  unfold Source.render
  cases Source.error? d <;> simp

theorem exists_render_eq_ok_iff :
    (∃ text, Source.render d = .ok text) ↔ ObjectsDefined d.types := by
  rw [← error?_eq_none_iff]
  exact ⟨fun ⟨_, h⟩ => Definitions.error?_of_render h,
    fun h => ⟨_, Definitions.render_eq_sourceFile h⟩⟩

end Dangling

namespace Source

def declaredName? (line : String) : Option String :=
  (line.toList.dropPrefix? "pub struct ".toList).map fun rest =>
    String.ofList (rest.takeWhile (· ≠ ' '))

def declaredNames (text : String) : List String := (textLines text).filterMap declaredName?

def isImport (line : String) : Bool := "use ".toList.isPrefixOf line.toList

def imports (text : String) : List String := (textLines text).filter isImport

section Lines

theorem declaredName?_eq_none {line : String} (h : line.toList.head? ≠ some 'p') :
    declaredName? line = none := by
  unfold declaredName?
  cases hline : line.toList with
  | nil => simp [List.dropPrefix?]
  | cons c rest =>
    rw [hline, List.head?_cons, ne_eq, Option.some.injEq] at h
    simp [List.dropPrefix?, h]

theorem declaredName?_head (name rest : String) {cs : List Char} (h : rest.toList = ' ' :: cs) :
    declaredName? ("pub struct " ++ typeIdent name ++ rest) = some (typeIdent name) := by
  have hname : ∀ c ∈ (typeIdent name).toList, (!decide (c = ' ')) = true := by
    intro c hc
    have hblank : ' ' ∉ (typeIdent name).toList := (IdentText.typeIdent name).not_mem (by decide)
    simpa using ne_of_mem_of_not_mem hc hblank
  have htake : ((typeIdent name).toList ++ ' ' :: cs).takeWhile (fun c => !decide (c = ' '))
      = (typeIdent name).toList := by
    rw [List.takeWhile_append_of_pos hname, List.takeWhile_cons_of_neg (by decide),
      List.append_nil]
  simp [declaredName?, List.dropPrefix?, h, htake]

theorem head?_fieldLines (ident : String) (f : Field) :
    ∀ line ∈ fieldLines ident f, line.toList.head? = some ' ' := by
  unfold fieldLines
  cases rename? ident f <;> simp

theorem head?_flatMap_fieldLines (idents : List (String × Field)) :
    ∀ line ∈ idents.flatMap fun p => fieldLines p.1 p.2, line.toList.head? = some ' ' := by
  intro line hline
  obtain ⟨p, -, hline⟩ := List.mem_flatMap.1 hline
  exact head?_fieldLines p.1 p.2 line hline

theorem filterMap_structLines (t : RecordType) (eq : Bool) :
    (structLines t eq).filterMap declaredName? = [typeIdent t.name] := by
  have hderive : declaredName? ("#[derive(Debug, Clone, Default, PartialEq, " ++
      (if eq then "Eq, " else "") ++ "Serialize, Deserialize)]") = none :=
    declaredName?_eq_none (by simp)
  have hend : declaredName? "\x7d" = none := declaredName?_eq_none (by simp)
  have hopen : declaredName? ("pub struct " ++ typeIdent t.name ++ " \x7b")
      = some (typeIdent t.name) := declaredName?_head t.name " \x7b" rfl
  have hempty : declaredName? ("pub struct " ++ typeIdent t.name ++ " \x7b" ++ "\x7d")
      = some (typeIdent t.name) := by
    rw [String.append_assoc]
    exact declaredName?_head t.name (" \x7b" ++ "\x7d") rfl
  simp only [structLines]
  split
  . simp only [List.filterMap_cons, hderive, hempty, List.filterMap_nil]
  . simp only [List.filterMap_append, List.filterMap_cons, hderive, hopen, hend,
      List.filterMap_nil, List.append_nil]
    refine List.append_right_eq_self.2 (List.filterMap_eq_nil_iff.2 fun line hline => ?_)
    exact declaredName?_eq_none (by simp [head?_flatMap_fieldLines _ line hline])

theorem declaredNames_lines (d : Definitions) :
    (lines d).filterMap declaredName? = d.types.map (typeIdent ·.name) := by
  have hblank : declaredName? "" = none := declaredName?_eq_none (by simp)
  have htypes : ∀ eq : String → Bool,
      (d.types.flatMap fun t => "" :: structLines t (eq t.name)).filterMap declaredName?
        = d.types.map (typeIdent ·.name) := by
    intro eq
    induction d.types with
    | nil => rfl
    | cons t rest ih =>
      rw [List.flatMap_cons, List.filterMap_append, ih, List.filterMap_cons_none hblank,
        filterMap_structLines]
      rfl
  simp only [lines]
  rw [List.filterMap_append, htypes (eqTypes d).contains]
  split <;> rfl

theorem isImport_eq_false {line : String} (h : line.toList.head? ≠ some 'u') :
    isImport line = false := by
  unfold isImport
  cases hline : line.toList with
  | nil => rfl
  | cons c rest =>
    rw [hline, List.head?_cons, ne_eq, Option.some.injEq] at h
    simp [List.isPrefixOf, Ne.symm h]

theorem head?_structLines_ne (t : RecordType) (eq : Bool) :
    ∀ line ∈ structLines t eq, line.toList.head? ≠ some 'u' := by
  simp only [structLines]
  split
  . simp
  . simp only [List.forall_mem_append]
    refine ⟨⟨by simp, fun line hline => ?_⟩, by simp⟩
    simp [head?_flatMap_fieldLines _ line hline]

theorem filter_isImport_lines (d : Definitions) :
    (lines d).filter isImport
      =
    "use serde::\x7bDeserialize, Serialize\x7d;" ::
      if d.sourceFile.importsValue then ["use serde_json::Value;"] else [] := by
  have htypes : (d.types.flatMap fun t =>
      "" :: structLines t ((eqTypes d).contains t.name)).filter isImport = [] := by
    rw [List.filter_eq_nil_iff]
    intro line hline
    obtain ⟨t, -, hline⟩ := List.mem_flatMap.1 hline
    rw [Bool.not_eq_true]
    rcases List.mem_cons.1 hline with rfl | hline
    . rfl
    . exact isImport_eq_false (head?_structLines_ne t _ line hline)
  have hvalue : d.sourceFile.importsValue
      = d.types.any fun type => type.fields.any (·.kind = .unknown) := rfl
  simp only [lines]
  rw [hvalue, List.filter_append, htypes]
  generalize d.types.any (fun type => type.fields.any (·.kind = .unknown)) = usesValue
  cases usesValue <;> rfl

theorem textLines_of_render {d : Definitions} {text : String} (h : render d = .ok text) :
    textLines text = lines d ++ [""] := by
  rw [Definitions.eq_text_of_render h, SourceFile.text, d.lines_sourceFile]
  exact textLines_join (newline_not_mem_lines d)

theorem declaredNames_of_render {d : Definitions} {text : String} (h : render d = .ok text) :
    declaredNames text = d.types.map (typeIdent ·.name) := by
  rw [declaredNames, textLines_of_render h, List.filterMap_append, declaredNames_lines]
  exact List.append_nil _

theorem value_mem_imports_iff {d : Definitions} {text : String} (h : render d = .ok text) :
    "use serde_json::Value;" ∈ imports text ↔ d.sourceFile.importsValue := by
  rw [imports, textLines_of_render h, List.filter_append, filter_isImport_lines]
  cases d.sourceFile.importsValue <;> decide

end Lines

end Source

def SourceType.names : SourceType → List String
  | .named name => [name]
  | .applied name arg => name :: arg.names

namespace SourceFile

def scope (s : SourceFile) : List String :=
  ["Option", "Vec", "i64", "f64", "String", "bool"] ++
    (if s.importsValue then ["Value"] else []) ++ s.structs.map (·.name)

def Closed (s : SourceFile) : Prop :=
  ∀ struct ∈ s.structs, ∀ g ∈ struct.fields, ∀ name ∈ g.type.names, name ∈ s.scope

end SourceFile

namespace Field

theorem mem_names_sourceType {f : Field} {name : String} (h : name ∈ f.sourceType.names) :
    name = "Option" ∨ name = "Vec" ∨ name = Source.scalarType f := by
  unfold sourceType at h
  cases hk : f.kind <;> cases harray : f.isArray <;>
    simp_all [SourceType.names, SourceType.option, SourceType.vec] <;> tauto

theorem scalarType_mem_names (f : Field) : Source.scalarType f ∈ f.sourceType.names := by
  unfold sourceType
  cases f.kind <;> cases f.isArray <;>
    simp [SourceType.names, SourceType.option, SourceType.vec]

theorem scalarType_of_not_object {f : Field} (h : f.kind ≠ .object) :
    Source.scalarType f ∈ ["i64", "f64", "String", "bool"]
      ∨ Source.scalarType f = "Value" ∧ f.kind = .unknown := by
  unfold Source.scalarType
  cases hk : f.kind <;> simp_all

end Field

structure IsFieldFor (types : List RecordType) (f : Field) (g : StructField) : Prop where
  key : g.key = f.name
  type : g.type = f.sourceType
  of_object : f.kind = .object → ∃ t ∈ types, f.objectName = some t.name
    ∧ Source.typeIdent t.name ∈ g.type.names
    ∧ ∀ name ∈ g.type.names, name ∈ ["Option", "Vec", Source.typeIdent t.name]
  of_not_object : f.kind ≠ .object → ∀ name ∈ g.type.names,
    name ∈ ["Option", "Vec", "i64", "f64", "String", "bool"] ∨ name = "Value" ∧ f.kind = .unknown

structure IsStructFor (types : List RecordType) (t : RecordType) (s : Struct) : Prop where
  name : s.name = Source.typeIdent t.name
  fields : List.Forall₂ (IsFieldFor types) t.fields s.fields

section Structs

variable {types : List RecordType}

theorem isFieldFor (hdefined : ObjectsDefined types) {t : RecordType} (ht : t ∈ types) {f : Field}
    (hf : f ∈ t.fields) {g : StructField} (hkey : g.key = f.name)
    (htype : g.type = f.sourceType) : IsFieldFor types f g := by
  have hnames : ∀ name ∈ f.sourceType.names,
      name = "Option" ∨ name = "Vec" ∨ name = Source.scalarType f :=
    fun _ => Field.mem_names_sourceType
  constructor
  case key => exact hkey
  case type => exact htype
  case of_object =>
    intro hkind
    obtain ⟨_, hname, hobject⟩ := hdefined t ht f hf hkind
    obtain ⟨u, hu, rfl⟩ := List.mem_map.1 hname
    have hscalar : Source.scalarType f = Source.typeIdent u.name := by
      simp [Source.scalarType, Field.typeName, hkind, hobject]
    refine ⟨u, hu, hobject, ?_⟩
    rw [htype, ← hscalar]
    exact ⟨f.scalarType_mem_names, fun name hname => by simpa using hnames name hname⟩
  case of_not_object =>
    intro hkind name hname
    rcases hnames name (htype ▸ hname) with rfl | rfl | rfl
    . simp
    . simp
    . rcases Field.scalarType_of_not_object hkind with h | h
      . exact .inl (List.mem_append_right ["Option", "Vec"] h)
      . exact .inr h

theorem isStructFor_toStruct (hdefined : ObjectsDefined types) {t : RecordType} (ht : t ∈ types)
    (eq : Bool) : IsStructFor types t (t.toStruct eq) := by
  have hfields : List.Forall₂ (IsFieldFor types) ((Source.fieldIdents [] t.fields).map (·.2))
      (t.toStruct eq).fields := by
    rw [RecordType.toStruct, List.forall₂_map_left_iff, List.forall₂_map_right_iff,
      List.forall₂_same]
    intro p hp
    have hf : p.2 ∈ t.fields := by
      rw [← Source.map_snd_fieldIdents [] t.fields]
      exact List.mem_map_of_mem hp
    exact isFieldFor hdefined ht hf (p.2.key_toStructField p.1) rfl
  rw [Source.map_snd_fieldIdents] at hfields
  exact ⟨t.name_toStruct eq, hfields⟩

theorem forall₂_isStructFor {d : Definitions} (hdefined : ObjectsDefined d.types) :
    List.Forall₂ (IsStructFor d.types) d.types d.sourceFile.structs := by
  rw [Definitions.sourceFile, List.forall₂_map_right_iff, List.forall₂_same]
  exact fun t ht => isStructFor_toStruct hdefined ht _

end Structs

namespace Definitions

variable {d : Definitions}

theorem importsValue_iff :
    d.sourceFile.importsValue
      ↔
    ∃ t ∈ d.types, ∃ f ∈ t.fields, f.kind ≠ .object ∧ "Value" ∈ f.sourceType.names := by
  have hvalue : ∀ f : Field,
      f.kind = .unknown ↔ f.kind ≠ .object ∧ "Value" ∈ f.sourceType.names := by
    intro f
    constructor
    . intro hkind
      have hscalar : Source.scalarType f = "Value" := by simp [Source.scalarType, hkind]
      exact ⟨by simp [hkind], hscalar ▸ f.scalarType_mem_names⟩
    . rintro ⟨hkind, hmem⟩
      rcases Field.mem_names_sourceType hmem with h | h | h
      . exact absurd h (by decide)
      . exact absurd h (by decide)
      . rcases Field.scalarType_of_not_object hkind with hscalar | hscalar
        . rw [← h] at hscalar
          exact absurd hscalar (by decide)
        . exact hscalar.2
  simp only [sourceFile, List.any_eq_true, decide_eq_true_eq, hvalue]

theorem closed_sourceFile (hdefined : ObjectsDefined d.types) : d.sourceFile.Closed := by
  intro struct hstruct g hg name hname
  obtain ⟨t, ht, rfl⟩ := List.mem_map.1 hstruct
  obtain ⟨f, hf, hkey, htype⟩ := RecordType.exists_of_mem_toStruct hg
  have hfield := isFieldFor hdefined ht hf hkey htype
  rw [SourceFile.scope, names_sourceFile]
  by_cases hkind : f.kind = .object
  . obtain ⟨u, hu, -, -, hnames⟩ := hfield.of_object hkind
    have hstructName : Source.typeIdent u.name ∈ (d.types.map (·.name)).map Source.typeIdent :=
      List.mem_map_of_mem (List.mem_map_of_mem hu)
    rcases List.mem_cons.1 (hnames name hname) with rfl | hrest
    . simp
    . rcases List.mem_cons.1 hrest with rfl | hrest
      . simp
      . rw [List.mem_singleton.1 hrest]
        exact List.mem_append_right _ hstructName
  . rcases hfield.of_not_object hkind name hname with hmem | ⟨rfl, hunknown⟩
    . exact List.mem_append_left _ (List.mem_append_left _ hmem)
    . have himport : d.sourceFile.importsValue :=
        importsValue_iff.2 ⟨t, ht, f, hf, hkind, htype ▸ hname⟩
      simp [himport]

theorem importsValue_iff_of_not_declared (hdefined : ObjectsDefined d.types)
    (hfree : "Value" ∉ d.sourceFile.structs.map (·.name)) :
    d.sourceFile.importsValue
      ↔
    ∃ struct ∈ d.sourceFile.structs, ∃ g ∈ struct.fields, "Value" ∈ g.type.names := by
  constructor
  . intro himport
    obtain ⟨t, ht, f, hf, -, hvalue⟩ := importsValue_iff.1 himport
    obtain ⟨g, hg, -, htype⟩ :=
      RecordType.exists_field_toStruct hf ((Source.eqTypes d).contains t.name)
    exact ⟨_, List.mem_map_of_mem ht, g, hg, htype ▸ hvalue⟩
  . rintro ⟨struct, hstruct, g, hg, hvalue⟩
    have hscope := closed_sourceFile hdefined struct hstruct g hg _ hvalue
    by_contra himport
    simp [SourceFile.scope, himport, hfree] at hscope

end Definitions

/--
Definitions are refused iff an object field names no type, and the first such field is reported. The
source for all others declares one struct for each type, in their order, and what the types of
fields name is in scope. `Value` is imported iff a field that holds no struct has it in its type; if
no struct takes the name either, iff any field has.
-/
theorem render_refuses_dangling (d : Definitions) :
    ((∃ text, Source.render d = .ok text)
        ↔ ∀ t ∈ d.types, ∀ f ∈ t.fields, f.kind = .object →
          ∃ u ∈ d.types, f.objectName = some u.name)
      ∧ (∀ e, Source.render d = .error e
        ↔ ∃ t f, FirstDangling d.types t f ∧ e = danglingError t f)
      ∧ ∀ text, Source.render d = .ok text →
        text = d.sourceFile.text
        ∧ Source.declaredNames text = d.types.map (Source.typeIdent ·.name)
        ∧ List.Forall₂ (IsStructFor d.types) d.types d.sourceFile.structs
        ∧ d.sourceFile.Closed
        ∧ ("use serde_json::Value;" ∈ Source.imports text
          ↔ ∃ t ∈ d.types, ∃ f ∈ t.fields, f.kind ≠ .object ∧ "Value" ∈ f.sourceType.names)
        ∧ ("Value" ∉ Source.declaredNames text →
          ("use serde_json::Value;" ∈ Source.imports text
            ↔ ∃ struct ∈ d.sourceFile.structs, ∃ g ∈ struct.fields, "Value" ∈ g.type.names)) := by
  refine ⟨?accepted, ?refused, fun text h => ?_⟩
  case accepted =>
    rw [exists_render_eq_ok_iff]
    simp [ObjectsDefined]
  case refused =>
    intro e
    rw [render_eq_error_iff, error?_eq_some_iff]
  have hdefined : ObjectsDefined d.types := exists_render_eq_ok_iff.1 ⟨text, h⟩
  have hnames : Source.declaredNames text = d.sourceFile.structs.map (·.name) := by
    rw [Source.declaredNames_of_render h, Definitions.names_sourceFile, List.map_map,
      Function.comp_def]
  refine ⟨Definitions.eq_text_of_render h, Source.declaredNames_of_render h,
    forall₂_isStructFor hdefined, Definitions.closed_sourceFile hdefined, ?_, fun hfree => ?_⟩
  . rw [Source.value_mem_imports_iff h]
    exact Definitions.importsValue_iff
  . rw [Source.value_mem_imports_iff h]
    exact Definitions.importsValue_iff_of_not_declared hdefined (hnames ▸ hfree)

end Schema
end FixtureLab

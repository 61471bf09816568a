import FixtureLab.Proofs.Schema.Struct
import FixtureLab.Proofs.Text.Literal
import FixtureLab.Proofs.Text.Words

/-!
This module contains the names that the fields of rendered structs have on the wire. They can be
read off the text line by line. With the identifiers as they are spelled, they are the names of the
fields in the definitions, whatever these are. A compiler reads identifiers in Normalization Form C.
-/

namespace FixtureLab
namespace Schema
namespace Source

def textLines (text : String) : List String := (text.toList.splitOn '\n').map String.ofList

def unraw : List Char → List Char
  | 'r' :: '#' :: rest => rest
  | cs => cs

structure WireNames where
  fields : List String := []
  structs : List (List String) := []
deriving DecidableEq, Repr

/--
Read a line in front of others. The name in an attribute takes the place of that of the identifier,
which `read` makes of its spelling.
-/
def WireNames.line (read : String → String) (line : String) (names : WireNames) :
    Option WireNames :=
  if "pub struct ".toList.isPrefixOf line.toList then
    some { structs := names.fields :: names.structs }
  else match line.toList.dropPrefix? "    pub ".toList with
  | some rest =>
    let name := read (String.ofList (unraw (rest.takeWhile (· ≠ ':'))))
    some { names with fields := name :: names.fields }
  | none =>
    match line.toList.dropPrefix? "    #[serde(rename = ".toList with
    | some rest =>
      match Text.readLiteral? rest, names.fields with
      | some (cs, [')', ']']), _ :: fields =>
        some { names with fields := String.ofList cs :: fields }
      | _, _ => none
    | none => some names

/--
The names on the wire of the fields that a text declares, struct by struct: what the attribute in
front of a field denotes, or else what `read` makes of the field's identifier.
-/
def wireNames? (read : String → String) (text : String) : Option (List (List String)) :=
  match (textLines text).foldrM (WireNames.line read) {} with
  | some { fields := [], structs } => some structs
  | _ => none

theorem textLines_join {lines : List String} (h : ∀ line ∈ lines, '\n' ∉ line.toList) :
    textLines (String.join (lines.map (· ++ "\n"))) = lines ++ [""] := by
  have htext : (String.join (lines.map (· ++ "\n"))).toList
      = ['\n'].intercalate (lines.map String.toList ++ [[]]) := by
    rw [String.toList_join, List.flatMap_map]
    induction lines with
    | nil => rfl
    | cons line rest ih =>
      rw [List.flatMap_cons, ih fun l hl => h l (List.mem_cons_of_mem line hl)]
      cases rest <;> simp [List.intercalate_cons_cons]
  have hlines : ∀ line ∈ lines.map String.toList ++ [[]], '\n' ∉ line := by
    simpa [or_imp, forall_and] using h
  rw [textLines, htext, List.splitOn_intercalate '\n' hlines (by simp)]
  simp [Function.comp_def]

def IdentText (s : String) : Prop := ∀ c ∈ s.toList, Text.IdentChar c

namespace IdentText

theorem append {s t : String} (hs : IdentText s) (ht : IdentText t) : IdentText (s ++ t) := by
  simpa [IdentText, or_imp, forall_and] using ⟨hs, ht⟩

theorem of_nat (n : Nat) : IdentText (toString n) := by
  intro c hc
  rw [Nat.toString_eq_ofList_toDigits, String.toList_ofList] at hc
  exact .of_isDigit (Nat.isDigit_of_mem_toDigits (by decide) (by decide) hc)

theorem of_letters {s : String} (h : ∀ c ∈ s.toList, 'A'.toNat ≤ c.toNat) : IdentText s :=
  fun c hc => .inr (h c hc)

theorem not_mem {s : String} (h : IdentText s) {c : Char} (hc : ¬Text.IdentChar c) :
    c ∉ s.toList :=
  fun hmem => hc (h c hmem)

theorem dropRaw {s : String} (h : IdentText s) : Source.dropRaw s.toList = s.toList := by
  have hmark : '#' ∉ s.toList := h.not_mem (by decide)
  unfold Source.dropRaw
  split <;> simp_all

theorem unraw {s : String} (h : IdentText s) : Source.unraw s.toList = s.toList := by
  have hmark : '#' ∉ s.toList := h.not_mem (by decide)
  unfold Source.unraw
  split <;> simp_all

theorem typeIdent (name : String) : IdentText (Source.typeIdent name) := by
  have hcamel : IdentText (Text.upperCamelCase name) := fun _ => .of_mem_upperCamelCase
  have hstart : IdentText "T" := .of_letters (by simp)
  simp only [Source.typeIdent]
  split
  . exact hstart.append hcamel
  . exact hcamel

end IdentText

def FieldIdent (ident : String) : Prop :=
  ∃ body, IdentText body ∧ (ident = body ∨ ident = "r#" ++ body)

namespace FieldIdent

theorem escape {ident : String} (h : IdentText ident) :
    FieldIdent (if ident ∈ reserved then ident ++ "_"
      else if ident ∈ keywords then "r#" ++ ident
      else ident) := by
  split
  . have hend : IdentText "_" := .of_letters (by simp)
    exact ⟨_, h.append hend, .inl rfl⟩
  . split
    . exact ⟨_, h, .inr rfl⟩
    . exact ⟨_, h, .inl rfl⟩

theorem fieldIdent (name : String) : FieldIdent (Source.fieldIdent name) := by
  have hsnake : IdentText (Text.snakeCase name) := fun _ => .of_mem_snakeCase
  have hstart : IdentText "field_" := .of_letters (by simp)
  unfold Source.fieldIdent
  apply escape
  split
  . exact hstart.append hsnake
  . exact hsnake

theorem append {ident rest : String} (h : FieldIdent ident) (hrest : IdentText rest) :
    FieldIdent (ident ++ rest) := by
  obtain ⟨body, hbody, rfl | rfl⟩ := h
  . exact ⟨_, hbody.append hrest, .inl rfl⟩
  . exact ⟨_, hbody.append hrest, .inr (String.append_assoc ..)⟩

theorem of_mem_fieldIdents {seen : List String} {fields : List Field} {p : String × Field}
    (h : p ∈ fieldIdents seen fields) : FieldIdent p.1 := by
  induction fields generalizing seen with
  | nil => cases h
  | cons f rest ih =>
    simp only [fieldIdents, List.mem_cons] at h
    rcases h with rfl | h
    . have hunder : IdentText "_" := .of_letters (by simp)
      dsimp only
      split
      . exact fieldIdent f.name
      . exact ((fieldIdent f.name).append hunder).append (.of_nat _)
    . exact ih h

theorem not_mem {ident : String} (h : FieldIdent ident) {c : Char} (hc : ¬Text.IdentChar c)
    (hmark : c ≠ '#') : c ∉ ident.toList := by
  obtain ⟨body, hbody, rfl | rfl⟩ := h
  . exact hbody.not_mem hc
  . have hr : c ≠ 'r' := by
      rintro rfl
      exact hc (by decide)
    simp [hr, hmark, hbody.not_mem hc]

theorem dropRaw_eq_unraw {ident : String} (h : FieldIdent ident) :
    dropRaw ident.toList = unraw ident.toList := by
  obtain ⟨body, hident, rfl | rfl⟩ := h
  . rw [hident.dropRaw, hident.unraw]
  . simpa [Source.dropRaw, Source.unraw] using hident.dropRaw

end FieldIdent

def nameOnWire (read : String → String) (ident : String) (f : Field) : String :=
  if (rename? ident f).isSome then f.name else read f.name

def namesOnWire (read : String → String) (type : RecordType) : List String :=
  (fieldIdents [] type.fields).map fun p => nameOnWire read p.1 p.2

theorem namesOnWire_eq_iff (read : String → String) (type : RecordType) :
    namesOnWire read type = type.fields.map (·.name)
      ↔
    ∀ p ∈ fieldIdents [] type.fields, rename? p.1 p.2 = none → read p.2.name = p.2.name := by
  have hnames : type.fields.map (·.name) = (fieldIdents [] type.fields).map (·.2.name) := by
    have hmap := congrArg (List.map Field.name) (map_snd_fieldIdents [] type.fields)
    rw [← hmap, List.map_map]
    rfl
  rw [hnames, namesOnWire, List.map_inj_left]
  refine forall₂_congr fun p _ => ?_
  rw [nameOnWire]
  cases rename? p.1 p.2 <;> simp

section Lines

variable {read : String → String} {names : WireNames}

theorem WireNames.line_struct (name rest : String) :
    line read ("pub struct " ++ name ++ rest) names
      =
    some { structs := names.fields :: names.structs } := by
  simp [line]

theorem WireNames.line_field {ident : String} (h : ':' ∉ ident.toList) (type : String) :
    line read ("    pub " ++ ident ++ ": " ++ type ++ ",") names
      =
    some { names with fields := read (String.ofList (unraw ident.toList)) :: names.fields } := by
  have hother : ∀ c ∈ ident.toList, (!decide (c = ':')) = true := by
    intro c hc
    simpa using ne_of_mem_of_not_mem hc h
  have hident : ∀ rest,
      (ident.toList ++ ':' :: rest).takeWhile (fun c => !decide (c = ':')) = ident.toList := by
    intro rest
    rw [List.takeWhile_append_of_pos hother, List.takeWhile_cons_of_neg (by decide),
      List.append_nil]
  simp [line, List.isPrefixOf, List.dropPrefix?, hident]

theorem WireNames.line_attribute (name ident : String) :
    line read ("    #[serde(rename = " ++ String.ofList (Text.literal name.toList) ++ ")]")
        { names with fields := ident :: names.fields }
      =
    some { names with fields := name :: names.fields } := by
  simp [line, List.isPrefixOf, List.dropPrefix?, Text.readLiteral?_literal]

def Passed (line : String) : Prop := line.toList.head? ≠ some 'p' ∧ line.toList.head? ≠ some ' '

theorem WireNames.line_passed {text : String} (h : Passed text) :
    line read text names = some names := by
  obtain ⟨hletter, hblank⟩ := h
  unfold line
  cases htext : text.toList with
  | nil => simp [List.dropPrefix?]
  | cons c rest =>
    rw [htext, List.head?_cons, ne_eq, Option.some.injEq] at hletter hblank
    simp [List.isPrefixOf, List.dropPrefix?, hblank, Ne.symm hletter]

theorem foldrM_passed {lines : List String} (h : ∀ line ∈ lines, Passed line) :
    lines.foldrM (WireNames.line read) names = some names := by
  induction lines with
  | nil => rfl
  | cons line rest ih =>
    obtain ⟨hline, hrest⟩ := List.forall_mem_cons.1 h
    rw [List.foldrM_cons, ih hrest]
    exact WireNames.line_passed hline

theorem foldrM_fieldLines {ident : String} (h : FieldIdent ident) (f : Field) :
    (fieldLines ident f).foldrM (WireNames.line read) names
      =
    some { names with fields := nameOnWire read ident f :: names.fields } := by
  have hfield : WireNames.line read
      ("    pub " ++ ident ++ ": " ++ fieldType f ++ ",") names = some _ :=
    WireNames.line_field (h.not_mem (by decide) (by decide)) (fieldType f)
  unfold fieldLines nameOnWire rename?
  rw [h.dropRaw_eq_unraw]
  by_cases hname : String.ofList (unraw ident.toList) = f.name
  . rw [if_pos hname]
    simp [hfield, hname]
  . rw [if_neg hname]
    simp [hfield, WireNames.line_attribute]

theorem foldrM_fields {fields : List (String × Field)} (h : ∀ p ∈ fields, FieldIdent p.1)
    (names : WireNames) :
    (fields.flatMap fun (ident, f) => fieldLines ident f).foldrM (WireNames.line read) names
      =
    some { names with
      fields := fields.map (fun p => nameOnWire read p.1 p.2) ++ names.fields } := by
  induction fields with
  | nil => rfl
  | cons p rest ih =>
    obtain ⟨hp, hrest⟩ := List.forall_mem_cons.1 h
    rw [List.flatMap_cons, List.foldrM_append, ih hrest]
    exact foldrM_fieldLines hp p.2

theorem foldrM_structLines (type : RecordType) (eq : Bool) (structs : List (List String)) :
    (structLines type eq).foldrM (WireNames.line read) { structs }
      =
    some { structs := namesOnWire read type :: structs } := by
  have hidents : ∀ p ∈ fieldIdents [] type.fields, FieldIdent p.1 :=
    fun _ => FieldIdent.of_mem_fieldIdents
  have hfields := @foldrM_fields read _ hidents { structs }
  have hderive : ∀ names, WireNames.line read ("#[derive(Debug, Clone, Default, PartialEq, " ++
      (if eq then "Eq, " else "") ++ "Serialize, Deserialize)]") names = some names :=
    fun names => WireNames.line_passed (by simp [Passed])
  have hend : ∀ names, WireNames.line read "\x7d" names = some names :=
    fun names => WireNames.line_passed (by simp [Passed])
  simp only [structLines]
  generalize "#[derive(Debug, Clone, Default, PartialEq, " ++ (if eq then "Eq, " else "") ++
    "Serialize, Deserialize)]" = derive at hderive ⊢
  split
  . next hempty =>
    rw [namesOnWire, List.isEmpty_iff.1 hempty, String.append_assoc]
    simp [hderive, WireNames.line_struct, fieldIdents]
  . simp only [List.foldrM_append, List.foldrM_cons, List.foldrM_nil]
    simp [hderive, hend, hfields, namesOnWire, WireNames.line_struct]

theorem foldrM_lines (d : Definitions) :
    (lines d).foldrM (WireNames.line read) {}
      =
    some { structs := d.types.map (namesOnWire read) } := by
  have hblank : ∀ names, WireNames.line read "" names = some names :=
    fun names => WireNames.line_passed (by simp [Passed])
  have htypes : ∀ eq : String → Bool,
      (d.types.flatMap fun type => "" :: structLines type (eq type.name)).foldrM
          (WireNames.line read) {}
        = some { structs := d.types.map (namesOnWire read) } := by
    intro eq
    induction d.types with
    | nil => rfl
    | cons type rest ih =>
      rw [List.flatMap_cons, List.foldrM_append, ih]
      simp [foldrM_structLines, hblank]
  simp only [lines]
  rw [List.foldrM_append, htypes (eqTypes d).contains]
  apply foldrM_passed
  split <;> simp [Passed]

end Lines

section Newlines

theorem newline_not_mem_typeIdent (name : String) : '\n' ∉ (typeIdent name).toList :=
  (IdentText.typeIdent name).not_mem (by decide)

theorem newline_not_mem_fieldType (f : Field) : '\n' ∉ (fieldType f).toList := by
  have hscalar : '\n' ∉ (scalarType f).toList := by
    unfold scalarType
    cases f.kind <;> simp [newline_not_mem_typeIdent]
  unfold fieldType
  cases f.kind <;> cases f.isArray <;> simp [hscalar]

theorem newline_not_mem_fieldLines {ident : String} (h : FieldIdent ident) (f : Field) :
    ∀ line ∈ fieldLines ident f, '\n' ∉ line.toList := by
  have hident : '\n' ∉ ident.toList := h.not_mem (by decide) (by decide)
  unfold fieldLines
  cases rename? ident f <;>
    simp [hident, newline_not_mem_fieldType, Text.newline_not_mem_literal]

theorem newline_not_mem_structLines (type : RecordType) (eq : Bool) :
    ∀ line ∈ structLines type eq, '\n' ∉ line.toList := by
  have hfields : ∀ line ∈ (fieldIdents [] type.fields).flatMap
      (fun (ident, f) => fieldLines ident f), '\n' ∉ line.toList := by
    intro line hline
    obtain ⟨p, hp, hline⟩ := List.mem_flatMap.1 hline
    exact newline_not_mem_fieldLines (.of_mem_fieldIdents hp) p.2 line hline
  have hderive : '\n' ∉ (if eq then "Eq, " else "").toList := by
    cases eq <;> simp
  simp only [structLines]
  split
  . simp [hderive, newline_not_mem_typeIdent]
  . simp only [List.forall_mem_append]
    refine ⟨⟨?_, hfields⟩, by simp⟩
    simp [hderive, newline_not_mem_typeIdent]

theorem newline_not_mem_lines (d : Definitions) : ∀ line ∈ lines d, '\n' ∉ line.toList := by
  have hstructs : ∀ line ∈ d.types.flatMap fun type =>
      "" :: structLines type ((eqTypes d).contains type.name), '\n' ∉ line.toList := by
    intro line hline
    obtain ⟨type, -, hline⟩ := List.mem_flatMap.1 hline
    rcases List.mem_cons.1 hline with rfl | hline
    . simp
    . exact newline_not_mem_structLines type _ line hline
  simp only [lines, List.forall_mem_append]
  refine ⟨⟨by simp, ?_⟩, hstructs⟩
  split <;> simp

end Newlines

theorem wireNames?_eq {d : Definitions} {text : String} (h : render d = .ok text)
    (read : String → String) : wireNames? read text = some (d.types.map (namesOnWire read)) := by
  simp only [render] at h
  split at h
  . cases h
  . cases h
    have hlast : [""].foldrM (WireNames.line read) {} = some {} := rfl
    rw [wireNames?, textLines_join (newline_not_mem_lines d), List.foldrM_append, hlast]
    simp [foldrM_lines]

theorem wireNames?_eq_names_iff {d : Definitions} {text : String} (h : render d = .ok text)
    (read : String → String) :
    wireNames? read text = some (d.types.map fun type => type.fields.map (·.name))
      ↔
    ∀ type ∈ d.types, ∀ p ∈ fieldIdents [] type.fields,
      rename? p.1 p.2 = none → read p.2.name = p.2.name := by
  rw [wireNames?_eq h, Option.some_inj, List.map_inj_left]
  exact forall₂_congr fun type _ => namesOnWire_eq_iff read type

end Source

/--
With the identifiers as they are spelled, the names on the wire are the names of the fields. With
the identifiers as they are read, a field without an attribute has the Normalization Form C of its
name, so that all is well iff these names are in that form.
-/
theorem wireNames_of_source {d : Definitions} {text : String} (h : Source.render d = .ok text) :
    Source.wireNames? id text = some (d.types.map fun type => type.fields.map (·.name))
      ∧ Source.wireNames? Text.nfc text
        = some (d.types.map fun type => (Source.fieldIdents [] type.fields).map fun p =>
          if (Source.rename? p.1 p.2).isSome then p.2.name else Text.nfc p.2.name)
      ∧ (Source.wireNames? Text.nfc text
          = some (d.types.map fun type => type.fields.map (·.name))
        ↔ ∀ type ∈ d.types, ∀ p ∈ Source.fieldIdents [] type.fields,
          Source.rename? p.1 p.2 = none → Text.nfc p.2.name = p.2.name) := by
  refine ⟨?_, Source.wireNames?_eq h Text.nfc, Source.wireNames?_eq_names_iff h Text.nfc⟩
  exact (Source.wireNames?_eq_names_iff h id).2 fun _ _ _ _ _ => rfl

def oddlyNamed : Definitions where
  types :=
    [{ name := "Odd"
       fields :=
        [{ name := "type", kind := .int64 }, { name := "self", kind := .bool },
          { name := "2nd", kind := .string }, { name := "", kind := .unknown },
          { name := "a_b", kind := .int64 }, { name := "a-b", kind := .int64 },
          { name := "r#fn", kind := .float64 },
          { name := "say \"C:\\\"\n\r\x00\x07\u200b", kind := .object
            objectName := some "None" }] },
      { name := "None" }]

theorem wireNames_of_oddlyNamed :
    ∃ text, Source.render oddlyNamed = .ok text
      ∧ oddlyNamed.types.map (fun type => (Source.fieldIdents [] type.fields).map (·.1))
        = [["r#type", "self_", "field_2nd", "field_", "a_b", "a_b_2", "r_fn", "say_c"], []]
      ∧ Source.wireNames? Text.nfc text
        = some [["type", "self", "2nd", "", "a_b", "a-b", "r#fn",
            "say \"C:\\\"\n\r\x00\x07\u200b"], []] := by
  have herror : Source.error? oddlyNamed = none := by decide
  have hrender := Definitions.render_eq_sourceFile herror
  exact ⟨_, hrender, by decide +kernel,
    (wireNames_of_source hrender).2.2.2 (by decide +kernel)⟩

def compatibleName : Definitions where
  types := [{ name := "Item", fields := [{ name := "\uf900", kind := .int64 }] }]

theorem other_wireName_of_compatibleName :
    Source.render compatibleName = .ok compatibleName.sourceFile.text
      ∧ Source.wireNames? Text.nfc compatibleName.sourceFile.text = some [["\u8c48"]]
      ∧ "\u8c48" ≠ "\uf900" := by
  have hrender : Source.render compatibleName = .ok compatibleName.sourceFile.text :=
    Definitions.render_eq_sourceFile (by decide)
  exact ⟨hrender, (Source.wireNames?_eq hrender Text.nfc).trans (by decide +kernel), by decide⟩

end Schema
end FixtureLab

import FixtureLab.Proofs.Schema.LegalIdents
import FixtureLab.Proofs.Schema.TypeOrder
import FixtureLab.Proofs.Text.CamelCase

/-!
This module contains the names of the structs that are rendered for samples. Types are named after
the model and after keys, and a struct has the name of its type in camel case once more. Structs can
only have one name if their types are spelled with the same letters and digits.
-/

namespace FixtureLab
namespace Schema

section Keys

def keysOf (objects : List TypedObject) : List String := objects.flatMap (·.members.map (·.1))

theorem mem_keysOf {objects : List TypedObject} {o : TypedObject} (ho : o ∈ objects)
    {m : String × Json} (hm : m ∈ o.members) : m.1 ∈ keysOf objects :=
  List.mem_flatMap.2 ⟨o, ho, List.mem_map_of_mem hm⟩

theorem type_eq_or_below_of_among {type : String} {items : List Json} {o : TypedObject}
    (h : o ∈ objectsAmong type items) :
    o.type = type ∨ ∃ o' ∈ objectsAmong type items, o ∈ objectsBelow o'.members := by
  induction items with
  | nil => cases h
  | cons v rest ih =>
    cases v with
    | obj members =>
      simp only [objectsAmong, List.mem_append, List.mem_cons] at h ⊢
      rcases h with h | rfl | h
      . exact .inr ⟨_, .inr (.inl rfl), h⟩
      . exact .inl rfl
      . exact (ih h).imp_right fun ⟨o', ho', hbelow⟩ => ⟨o', .inr (.inr ho'), hbelow⟩
    | _ => exact ih h

theorem type_eq_or_below {type : String} {v : Json} {o : TypedObject} (h : o ∈ objectsIn type v) :
    o.type = type ∨ ∃ o' ∈ objectsIn type v, o ∈ objectsBelow o'.members := by
  cases v with
  | obj members =>
    rw [objectsIn] at h
    rcases List.mem_append.1 h with h | h
    . exact .inr ⟨_, mem_objectsIn_obj type members, h⟩
    . exact .inl (List.mem_singleton.1 h ▸ rfl)
  | arr items =>
    rw [objectsIn] at h ⊢
    split at h
    . next hstart =>
      rw [if_pos hstart]
      exact type_eq_or_below_of_among h
    . cases h
  | _ => cases h

theorem type_eq_or_key {type : String} {samples : List (String × Json)} :
    ∀ o ∈ objectsOf type samples,
      o.type = type
        ∨ ∃ key ∈ keysOf (objectsOf type samples), o.type = Text.upperCamelCase key := by
  have hbelow : ∀ o ∈ objectsOf type samples, ∀ o' ∈ objectsBelow o.members,
      ∃ key ∈ keysOf (objectsOf type samples), o'.type = Text.upperCamelCase key := by
    apply forall_objectsOf
    intro o ho ih o' ho'
    obtain ⟨m, hm, ho'⟩ := mem_objectsBelow.1 ho'
    rcases type_eq_or_below ho' with heq | ⟨o'', ho'', hin⟩
    . exact ⟨m.1, mem_keysOf ho hm, heq⟩
    . exact (ih o'' (mem_objectsBelow.2 ⟨m, hm, ho''⟩)).2 o' hin
  intro o ho
  obtain ⟨sample, hsample, ho⟩ := List.mem_flatMap.1 ho
  exact (type_eq_or_below ho).imp_right fun ⟨o', ho', hin⟩ =>
    hbelow o' (mem_objectsOf hsample ho') o hin

end Keys

namespace Source

def spelling (name : String) : List Char :=
  let cs := Text.letters name
  if startsWithDigit (String.ofList cs) then 't' :: cs else cs

theorem spelling_congr {a b : String} (h : Text.letters a = Text.letters b) :
    spelling a = spelling b := by
  unfold spelling
  rw [h]

theorem startsWithDigit_upperCamelCase {name : String} (h : Text.AsciiText name.toList) :
    startsWithDigit (Text.upperCamelCase name)
      =
    startsWithDigit (String.ofList (Text.letters name)) := by
  have hdigit : ∀ c, Text.AsciiChar c → c.toLower.isDigit = c.isDigit :=
    Text.forall_ascii (by decide +kernel)
  unfold startsWithDigit
  rw [← Text.map_toLower_upperCamelCase h, String.toList_ofList, List.head?_map, Option.map_map]
  cases hhead : (Text.upperCamelCase name).toList.head? with
  | none => rfl
  | some c =>
    have hc : Text.AsciiChar c := Text.asciiText_upperCamelCase h c (List.mem_of_head? hhead)
    simp [hdigit c hc]

theorem spelling_typeIdent {name : String} (h : Text.AsciiText name.toList) :
    spelling (typeIdent name) = spelling name := by
  have hletters := Text.letters_upperCamelCase h
  by_cases hdigit : startsWithDigit (String.ofList (Text.letters name))
  . have hident : typeIdent name = "T" ++ Text.upperCamelCase name :=
      if_pos ((startsWithDigit_upperCamelCase h).trans hdigit)
    have hmarked : Text.letters ("T" ++ Text.upperCamelCase name) = 't' :: Text.letters name := by
      rw [← hletters]
      simp [Text.letters]
    have hletter : ¬startsWithDigit (String.ofList ('t' :: Text.letters name)) := by
      simp [startsWithDigit]
    unfold spelling
    rw [hident, hmarked, if_neg hletter, if_pos hdigit]
  . have hident : typeIdent name = Text.upperCamelCase name :=
      if_neg ((startsWithDigit_upperCamelCase h).symm ▸ hdigit)
    rw [hident]
    exact spelling_congr hletters

structure NamedAfter (key ident : String) : Prop where
  eq_empty_iff : ident = "" ↔ ∀ c ∈ key.toList, ¬Text.isAlphanumeric c
  keyword : ident ∈ strictKeywords ++ reservedKeywords → ident = "Self"
  spelling_eq : Text.AsciiText key.toList → spelling ident = spelling key

theorem typeIdent_eq_empty_iff (name : String) :
    typeIdent name = "" ↔ Text.upperCamelCase name = "" := by
  simp only [typeIdent]
  split
  . next hdigit =>
    have hne : Text.upperCamelCase name ≠ "" := by
      intro hempty
      simp [hempty, startsWithDigit] at hdigit
    simp [hne]
  . rfl

theorem isLower_of_head?_typeIdent {name : String} {c : Char}
    (hc : (typeIdent name).toList.head? = some c) : c.isLower = false := by
  simp only [typeIdent] at hc
  split at hc
  . have heq : 'T' = c := by simpa using hc
    rw [← heq]
    rfl
  . exact Text.isLower_of_head?_upperCamelCase hc

theorem typeIdent_ne_of_isLower {word : String} (h : word.toList.head?.any Char.isLower)
    (name : String) : typeIdent name ≠ word := by
  rintro rfl
  obtain ⟨c, hc, hlower⟩ := (Option.any_eq_true _ _).1 h
  rw [isLower_of_head?_typeIdent hc] at hlower
  cases hlower

theorem namedAfter_typeIdent (key : String) :
    NamedAfter key (typeIdent (Text.upperCamelCase key)) := by
  constructor
  case eq_empty_iff =>
    rw [typeIdent_eq_empty_iff, Text.upperCamelCase_upperCamelCase_eq_empty_iff,
      Text.upperCamelCase_eq_empty_iff]
  case keyword =>
    have hsmall : ∀ word ∈ strictKeywords ++ reservedKeywords,
        word = "Self" ∨ word.toList.head?.any Char.isLower := by decide
    exact fun hmem => (hsmall _ hmem).resolve_right fun h => typeIdent_ne_of_isLower h _ rfl
  case spelling_eq =>
    intro hascii
    rw [spelling_typeIdent (Text.asciiText_upperCamelCase hascii)]
    exact spelling_congr (Text.letters_upperCamelCase hascii)

end Source

def usedNames : List String := ["Serialize", "Deserialize", "Value", "Option", "Vec", "String"]

structure SourceFile.NamesProper (s : SourceFile) : Prop where
  nonempty : "" ∉ s.structs.map (·.name)
  nodup : (s.structs.map (·.name)).Nodup
  not_keyword : ∀ name ∈ s.structs.map (·.name),
    name ∉ Source.strictKeywords ++ Source.reservedKeywords
  not_used : ∀ name ∈ s.structs.map (·.name), name ∉ usedNames

/-- The names of ASCII characters differ in more than case, also from those that cannot be used. -/
structure TypeNamesApart (names : List String) : Prop where
  ascii : ∀ name ∈ names, Text.AsciiText name.toList
  nonempty : "" ∉ names
  nodup : (names.map Source.spelling).Nodup
  free : ∀ name ∈ names, Source.spelling name ∉ ("Self" :: usedNames).map Source.spelling

theorem Inferrer.model_ne_empty {name : String} {t : Inferrer} (h : Inferrer.new name = .ok t) :
    Text.upperCamelCase name ≠ "" := by
  intro hempty
  simp [Inferrer.new, hempty] at h

theorem TypeNamesApart.namesProper {d : Definitions}
    (hnamed : ∀ type ∈ d.types, ∃ key, type.name = Text.upperCamelCase key)
    (h : TypeNamesApart (d.types.map (·.name))) : d.sourceFile.NamesProper := by
  have hspelling : ∀ name ∈ d.types.map (·.name),
      Source.spelling (Source.typeIdent name) = Source.spelling name :=
    fun name hname => Source.spelling_typeIdent (h.ascii name hname)
  have hfree : ∀ name ∈ d.types.map (·.name), Source.typeIdent name ∉ "Self" :: usedNames :=
    fun name hname hmem => by
      apply h.free name hname
      rw [← hspelling name hname]
      exact List.mem_map_of_mem hmem
  have hnamed' : ∀ name ∈ d.types.map (·.name), ∃ key, name = Text.upperCamelCase key := by
    simpa using hnamed
  constructor <;> rw [Definitions.names_sourceFile]
  case nonempty =>
    intro hmem
    obtain ⟨name, hname, hempty⟩ := List.mem_map.1 hmem
    obtain ⟨key, rfl⟩ := hnamed' name hname
    rw [Source.typeIdent_eq_empty_iff, Text.upperCamelCase_upperCamelCase_eq_empty_iff] at hempty
    exact h.nonempty (hempty ▸ hname)
  case nodup =>
    have hsame : ((d.types.map (·.name)).map Source.typeIdent).map Source.spelling
        = (d.types.map (·.name)).map Source.spelling := by
      rw [List.map_map, Function.comp_def]
      exact List.map_congr_left hspelling
    have hnodup := h.nodup
    rw [← hsame] at hnodup
    exact hnodup.of_map Source.spelling
  case not_keyword =>
    rw [List.forall_mem_map]
    intro name hname hmem
    obtain ⟨key, rfl⟩ := hnamed' name hname
    apply hfree _ hname
    rw [(Source.namedAfter_typeIdent key).keyword hmem]
    exact List.mem_cons_self
  case not_used =>
    rw [List.forall_mem_map]
    intro name hname hmem
    exact hfree name hname (List.mem_cons_of_mem _ hmem)

/--
The structs that are rendered for samples are named after the model and after keys. Such a name is
only empty if the key has nothing alphanumeric, which the model has, the only keyword among them is
`Self`, and all names are proper if those of the types are spelled apart.
-/
theorem structNames_of_samples {name : String} {samples : List (String × Json)} {t : Inferrer}
    (h : Inferrer.ofSamples name samples = .ok t) :
    let keys := keysOf (objectsOf (Text.upperCamelCase name) samples)
    let types := t.finish.types
    Source.render t.finish = .ok t.finish.sourceFile.text
      ∧ t.finish.sourceFile.structs.map (·.name) = (types.map (·.name)).map Source.typeIdent
      ∧ (types.map (·.name)).Nodup
      ∧ Source.typeIdent (Text.upperCamelCase name) ≠ ""
      ∧ (∀ type ∈ types, ∃ key ∈ name :: keys, type.name = Text.upperCamelCase key
          ∧ Source.NamedAfter key (Source.typeIdent type.name))
      ∧ (TypeNamesApart (types.map (·.name)) → t.finish.sourceFile.NamesProper) := by
  intro keys types
  have htypes : types = definitionsOf (objectsOf (Text.upperCamelCase name) samples) :=
    (Inferrer.ofSamples_of_ok h).2.1
  have hnamed : ∀ type ∈ types, ∃ key ∈ name :: keys, type.name = Text.upperCamelCase key := by
    intro type htype
    have hmem := List.mem_map_of_mem (f := (·.name)) htype
    rw [htypes, mem_names_definitionsOf] at hmem
    obtain ⟨o, ho, hname⟩ := List.mem_map.1 hmem
    rw [← hname]
    rcases type_eq_or_key o ho with heq | ⟨key, hkey, heq⟩
    . exact ⟨name, List.mem_cons_self, heq⟩
    . exact ⟨key, List.mem_cons_of_mem _ hkey, heq⟩
  refine ⟨Inferrer.render_of_samples h, Definitions.names_sourceFile _, ?nodup, ?model, ?named,
    ?apart⟩
  case nodup =>
    rw [htypes]
    simpa [definitionsOf, Function.comp_def] using Table.nodup_eraseDups _
  case model =>
    obtain ⟨t₀, hnew, -⟩ := Inferrer.ofSamples_eq_ok_iff.1 h
    rw [Ne, Source.typeIdent_eq_empty_iff, Text.upperCamelCase_upperCamelCase_eq_empty_iff]
    exact Inferrer.model_ne_empty hnew
  case named =>
    intro type htype
    obtain ⟨key, hkey, heq⟩ := hnamed type htype
    refine ⟨key, hkey, heq, ?_⟩
    rw [heq]
    exact Source.namedAfter_typeIdent key
  case apart =>
    apply TypeNamesApart.namesProper
    intro type htype
    obtain ⟨key, -, heq⟩ := hnamed type htype
    exact ⟨key, heq⟩

def ordersAndParts : List (String × Json) :=
  [("a.json", .obj
      [("ORDERS", .arr [.obj [("2nd part", .obj [])]]), ("x_y", .obj [("orders", .null)])]),
    ("b.json", .obj [("orders", .arr [])])]

theorem structNames_of_ordersAndParts :
    ∃ t, Inferrer.ofSamples "shop" ordersAndParts = .ok t
      ∧ t.finish.types.map (·.name) = ["2ndPart", "Orders", "XY", "Shop"]
      ∧ t.finish.sourceFile.structs.map (·.name) = ["T2ndPart", "Orders", "Xy", "Shop"]
      ∧ t.finish.sourceFile.NamesProper := by
  have haccepted : (Inferrer.ofSamples "shop" ordersAndParts).toOption.isSome := by decide
  obtain ⟨t, h⟩ := Inferrer.exists_eq_ok haccepted
  obtain ⟨-, hstructs, -, -, -, hproper⟩ := structNames_of_samples h
  have htypes : t.finish.types = definitionsOf (objectsOf "Shop" ordersAndParts) :=
    (Inferrer.ofSamples_of_ok h).2.1
  have hnames : t.finish.types.map (·.name) = ["2ndPart", "Orders", "XY", "Shop"] := by
    rw [htypes]
    decide
  rw [hnames] at hstructs hproper
  refine ⟨t, h, hnames, hstructs.trans (by decide +kernel), hproper ?_⟩
  constructor <;> decide +kernel

def improperKeys : List (String × Json) :=
  [("a.json", .obj
    [("-", .obj []), ("a_b", .obj []), ("ab", .obj []), ("self", .obj []), ("value", .obj [])])]

theorem names_not_proper_of_improperKeys :
    ∃ t, Inferrer.ofSamples "t" improperKeys = .ok t
      ∧ Source.render t.finish = .ok t.finish.sourceFile.text
      ∧ t.finish.sourceFile.structs.map (·.name) = ["", "Ab", "Ab", "Self", "Value", "T"]
      ∧ ¬t.finish.sourceFile.NamesProper := by
  have haccepted : (Inferrer.ofSamples "t" improperKeys).toOption.isSome := by decide
  obtain ⟨t, h⟩ := Inferrer.exists_eq_ok haccepted
  have htypes : t.finish.types = definitionsOf (objectsOf "T" improperKeys) :=
    (Inferrer.ofSamples_of_ok h).2.1
  have hnames : t.finish.sourceFile.structs.map (·.name)
      = ["", "Ab", "Ab", "Self", "Value", "T"] := by
    rw [Definitions.names_sourceFile, htypes]
    decide +kernel
  refine ⟨t, h, Inferrer.render_of_samples h, hnames, fun hproper => ?_⟩
  have hnonempty := hproper.nonempty
  simp [hnames] at hnonempty

end Schema
end FixtureLab

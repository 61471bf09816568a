import FixtureLab.Proofs.Schema.FieldIdents
import FixtureLab.Proofs.Text.Ascii

/-!
This module contains which identifiers of fields are legal in the edition of 2021. Names of ASCII
characters come to legal identifiers, except for ten words that the language reserves and that are
neither marked nor changed.
-/

namespace FixtureLab
namespace Schema
namespace Source

def strictKeywords : List String :=
  ["as", "async", "await", "break", "const", "continue", "crate", "dyn", "else", "enum", "extern",
    "false", "fn", "for", "if", "impl", "in", "let", "loop", "match", "mod", "move", "mut", "pub",
    "ref", "return", "self", "Self", "static", "struct", "super", "trait", "true", "type", "unsafe",
    "use", "where", "while"]

def reservedKeywords : List String :=
  ["abstract", "become", "box", "do", "final", "macro", "override", "priv", "try", "typeof",
    "unsized", "virtual", "yield"]

def unmarkable : List String := ["crate", "self", "Self", "super"]

structure IsWord (s : String) : Prop where
  chars : ∀ c ∈ s.toList, c.isAlphanum ∨ c = '_'
  start : ∃ c, s.toList.head? = some c ∧ c.isDigit = false
  ne_underscore : s ≠ "_"

inductive LegalIdent : String → Prop where
  | plain {word : String} (h : IsWord word) (hword : word ∉ strictKeywords ++ reservedKeywords) :
    LegalIdent word
  | raw {word : String} (h : IsWord word) (hword : word ∉ unmarkable) : LegalIdent ("r#" ++ word)

def unmarkedKeywords : List String :=
  ["abstract", "become", "do", "final", "macro", "override", "priv", "typeof", "unsized", "virtual"]

theorem mem_tables_of_keyword :
    ∀ word ∈ strictKeywords ++ reservedKeywords,
      word ∈ keywords ∨ word ∈ reserved ∨ word ∈ unmarkedKeywords := by
  decide

namespace IsWord

variable {s t : String}

theorem append (h : IsWord s) (ht : ∀ c ∈ t.toList, c.isAlphanum ∨ c = '_') :
    IsWord (s ++ t) := by
  obtain ⟨c, hhead, hdigit⟩ := h.start
  obtain ⟨rest, hs⟩ := List.head?_eq_some_iff.1 hhead
  constructor
  case chars => simpa [or_imp, forall_and] using ⟨h.chars, ht⟩
  case start => exact ⟨c, by simp [hs], hdigit⟩
  case ne_underscore =>
    intro heq
    have hlist := congrArg String.toList heq
    simp only [String.toList_append, hs, List.cons_append] at hlist
    injection hlist with hc hrest
    apply h.ne_underscore
    rw [← String.toList_inj, hs, hc, (List.append_eq_nil_iff.1 hrest).1]
    rfl

theorem bareWord {name : String} (hname : Text.AsciiText name.toList) :
    IsWord (Source.bareWord name) := by
  have hsnake : ∀ c ∈ (Text.snakeCase name).toList, c.isAlphanum ∨ c = '_' :=
    fun _ => Text.isAlphanum_of_mem_snakeCase hname
  unfold Source.bareWord
  split
  . have hstart : IsWord "field_" := ⟨by simp, ⟨'f', by decide, by decide⟩, by decide⟩
    exact hstart.append hsnake
  . next hstart =>
    rw [Bool.or_eq_true, not_or, String.isEmpty_iff, Bool.not_eq_true] at hstart
    obtain ⟨hnonempty, hdigit⟩ := hstart
    obtain ⟨c, rest, hlist⟩ := List.exists_cons_of_ne_nil (mt String.toList_eq_nil_iff.1 hnonempty)
    have hhead : (Text.snakeCase name).toList.head? = some c := by simp [hlist]
    constructor
    case chars => exact hsnake
    case start => exact ⟨c, hhead, by simpa [startsWithDigit, hhead] using hdigit⟩
    case ne_underscore =>
      intro heq
      have halnum : '_'.isAlphanum := Text.isAlphanum_of_head?_snakeCase hname (by simp [heq])
      exact absurd halnum (by decide)

theorem fieldWord {name : String} (hname : Text.AsciiText name.toList) :
    IsWord (Source.fieldWord name) := by
  unfold Source.fieldWord
  split
  . exact (bareWord hname).append (by simp)
  . exact bareWord hname

theorem numbered (h : IsWord s) (n : Nat) : IsWord (numbered s n) := by
  have hdigits : ∀ c ∈ (toString n).toList, c.isAlphanum ∨ c = '_' := by
    intro c hc
    rw [Nat.toString_eq_ofList_toDigits, String.toList_ofList] at hc
    simp [Char.isAlphanum, Literal.isDigit_of_mem_digits hc]
  unfold Source.numbered
  split
  . exact h
  . exact (h.append (by simp)).append hdigits

end IsWord

theorem underscore_mem_numbered (s : String) {n : Nat} (hn : n ≠ 1) :
    '_' ∈ (numbered s n).toList := by
  simp [numbered, hn]

theorem numbered_raw (s : String) (n : Nat) : numbered ("r#" ++ s) n = "r#" ++ numbered s n := by
  unfold numbered
  split <;> simp [String.append_assoc]

theorem LegalIdent.not_mem_unmarked {ident : String} (h : LegalIdent ident) :
    ident ∉ unmarkedKeywords := by
  have hkeywords : ∀ word ∈ unmarkedKeywords, word ∈ strictKeywords ++ reservedKeywords := by decide
  have hplain : ∀ word ∈ unmarkedKeywords, '#' ∉ word.toList := by decide
  intro hmem
  cases h with
  | plain _ hword => exact hword (hkeywords _ hmem)
  | raw => exact hplain _ hmem (by simp)

theorem legalIdent_numbered_iff {name : String} (hname : Text.AsciiText name.toList) (n : Nat) :
    LegalIdent (numbered (fieldIdent name) n)
      ↔ numbered (fieldIdent name) n ∉ unmarkedKeywords := by
  have hkeywords : ∀ word ∈ strictKeywords ++ reservedKeywords, '_' ∉ word.toList := by decide
  have hunmarkable : ∀ word ∈ unmarkable, '_' ∉ word.toList := by decide
  have hword : IsWord (numbered (fieldWord name) n) := (IsWord.fieldWord hname).numbered n
  refine ⟨LegalIdent.not_mem_unmarked, fun hunmarked => ?_⟩
  rw [fieldIdent_eq] at hunmarked ⊢
  by_cases hmem : fieldWord name ∈ keywords
  . rw [if_pos hmem, numbered_raw]
    refine .raw hword fun hreserved => ?_
    by_cases hn : n = 1
    . simp only [numbered, if_pos hn] at hreserved
      exact fieldWord_not_mem_reserved name hreserved
    . exact hunmarkable _ hreserved (underscore_mem_numbered _ hn)
  . rw [if_neg hmem] at hunmarked ⊢
    refine .plain hword fun hkeyword => ?_
    by_cases hn : n = 1
    . simp only [numbered, if_pos hn] at hkeyword hunmarked
      rcases mem_tables_of_keyword _ hkeyword with h | h | h
      . exact hmem h
      . exact fieldWord_not_mem_reserved name h
      . exact hunmarked h
    . exact hkeywords _ hkeyword (underscore_mem_numbered _ hn)

theorem fieldIdent_eq_unmarked_iff {word : String} (hword : word ∈ unmarkedKeywords)
    (name : String) : fieldIdent name = word ↔ Text.snakeCase name = word := by
  have hletters : ∀ word ∈ unmarkedKeywords, '_' ∉ word.toList ∧ '#' ∉ word.toList := by decide
  obtain ⟨hunder, hmark⟩ := hletters word hword
  constructor
  . intro heq
    -- Whatever is added to a name in snake case has one of the two characters.
    rw [fieldIdent_eq] at heq
    split at heq
    . simp [← heq] at hmark
    . unfold fieldWord at heq
      split at heq
      . simp [← heq] at hunder
      . unfold bareWord at heq
        split at heq
        . simp [← heq] at hunder
        . exact heq
  . rintro rfl
    have hplain : ∀ word ∈ unmarkedKeywords, (word.isEmpty || startsWithDigit word) = false
        ∧ word ∉ reserved ∧ word ∉ keywords := by decide
    obtain ⟨hstart, hreserved, hkeyword⟩ := hplain _ hword
    simp [fieldIdent_eq, fieldWord, bareWord, hstart, hreserved, hkeyword]

theorem mem_idents_iff_of_unmarked {word : String} (hword : word ∈ unmarkedKeywords)
    (fields : List Field) :
    word ∈ (fieldIdents [] fields).map (·.1) ↔ ∃ f ∈ fields, Text.snakeCase f.name = word := by
  have hunder : ∀ word ∈ unmarkedKeywords, '_' ∉ word.toList := by decide
  rw [fst_fieldIdents]
  constructor
  . intro hmem
    obtain ⟨⟨ident, n⟩, hnumber, heq⟩ := List.mem_map.1 hmem
    have hn : n = 1 := by
      by_contra hn
      exact hunder word hword (heq ▸ underscore_mem_numbered ident hn)
    subst hn
    have hcount := (mem_withNumbers_iff.1 hnumber).2
    rw [List.count_nil, Nat.zero_add, List.one_le_count_iff] at hcount
    obtain ⟨f, hf, rfl⟩ := List.mem_map.1 hcount
    exact ⟨f, hf, (fieldIdent_eq_unmarked_iff hword f.name).1 (by simpa [numbered] using heq)⟩
  . rintro ⟨f, hf, hsnake⟩
    have hident := (fieldIdent_eq_unmarked_iff hword f.name).2 hsnake
    have hmem : word ∈ fields.map fun f => fieldIdent f.name := List.mem_map.2 ⟨f, hf, hident⟩
    refine List.mem_map.2 ⟨(word, 1), mem_withNumbers_iff.2 ?_, by simp [numbered]⟩
    rw [List.count_nil, Nat.zero_add, List.one_le_count_iff]
    exact ⟨Nat.zero_lt_one, hmem⟩

structure IdentsLegal (t : RecordType) (s : Struct) : Prop where
  legal_iff : ∀ f ∈ s.fields, Text.AsciiText f.key.toList →
    (LegalIdent f.ident ↔ f.ident ∉ unmarkedKeywords)
  unmarked_iff : ∀ word ∈ unmarkedKeywords,
    word ∈ s.fields.map (·.ident) ↔ ∃ f ∈ t.fields, Text.snakeCase f.name = word

theorem identsLegal_toStruct (t : RecordType) (eq : Bool) : IdentsLegal t (t.toStruct eq) := by
  constructor
  case legal_iff =>
    intro g hg hname
    obtain ⟨⟨ident, f⟩, hmem, rfl⟩ := List.mem_map.1 hg
    obtain ⟨n, -, hident⟩ := exists_number_of_mem hmem
    rw [Field.key_toStructField] at hname
    have hlegal := legalIdent_numbered_iff hname n
    rw [← hident] at hlegal
    exact hlegal
  case unmarked_iff =>
    intro word hword
    rw [idents_toStruct]
    exact mem_idents_iff_of_unmarked hword t.fields

end Source

/--
In the source for any definitions, names of ASCII characters come to legal identifiers. The only
exceptions are ten reserved words, and a struct has one of them as an identifier iff the name of one
of its fields reads so in snake case.
-/
theorem legalIdents_of_source {d : Definitions} {text : String} (h : Source.render d = .ok text) :
    text = d.sourceFile.text ∧ List.Forall₂ Source.IdentsLegal d.types d.sourceFile.structs := by
  constructor
  . exact Definitions.eq_text_of_render h
  . exact d.forall₂_structs Source.identsLegal_toStruct

def keywordNames : RecordType where
  name := "Words"
  fields :=
    [{ name := "Yield", kind := .int64 }, { name := "SELF", kind := .int64 },
      { name := "-", kind := .int64 }, { name := "Final", kind := .int64 },
      { name := "final", kind := .int64 }]

theorem legalIdents_of_keywordNames :
    let d : Definitions := { types := [keywordNames] }
    Source.render d = .ok d.sourceFile.text
      ∧ ∃ s, d.sourceFile.structs = [s]
        ∧ s.fields.map (·.ident) = ["r#yield", "self_", "field_", "final", "final_2"]
        ∧ ∀ f ∈ s.fields, Source.LegalIdent f.ident ↔ f.ident ≠ "final" := by
  intro d
  have hrender : Source.render d = .ok d.sourceFile.text :=
    Definitions.render_eq_sourceFile (by decide)
  obtain ⟨-, hstructs⟩ := legalIdents_of_source hrender
  obtain ⟨hstruct, -⟩ := List.forall₂_cons.1 hstructs
  refine ⟨hrender, keywordNames.toStruct ((Source.eqTypes d).contains "Words"), rfl, ?_⟩
  generalize (Source.eqTypes d).contains "Words" = eq at hstruct
  have hidents : (keywordNames.toStruct eq).fields.map (·.ident)
      = ["r#yield", "self_", "field_", "final", "final_2"] := by
    rw [Source.idents_toStruct]
    decide +kernel
  refine ⟨hidents, fun f hf => ?_⟩
  have hname : Text.AsciiText f.key.toList := by
    have hnames : ∀ f ∈ keywordNames.fields, Text.AsciiText f.name.toList := by decide
    obtain ⟨g, hg, hkey, -⟩ := RecordType.exists_of_mem_toStruct hf
    exact hkey ▸ hnames g hg
  have hwords : ∀ ident ∈ ["r#yield", "self_", "field_", "final", "final_2"],
      ident ∉ Source.unmarkedKeywords ↔ ident ≠ "final" := by decide
  rw [hstruct.legal_iff f hf hname]
  exact hwords f.ident (hidents ▸ List.mem_map_of_mem hf)

def setAside : Definitions where
  types := [{ name := "Item", fields := [{ name := "abstract", kind := .int64 }] }]

theorem illegal_ident_in_setAside :
    Source.render setAside = .ok setAside.sourceFile.text
      ∧ (∀ t ∈ setAside.types, ∀ f ∈ t.fields, Text.AsciiText f.name.toList)
      ∧ ∃ s ∈ setAside.sourceFile.structs, ∃ f ∈ s.fields, ¬Source.LegalIdent f.ident := by
  have hident : ∃ s ∈ setAside.sourceFile.structs, ∃ f ∈ s.fields,
      f.ident ∈ Source.unmarkedKeywords := by decide +kernel
  obtain ⟨s, hs, f, hf, hident⟩ := hident
  exact ⟨Definitions.render_eq_sourceFile (by decide), by decide, s, hs, f, hf,
    fun hlegal => hlegal.not_mem_unmarked hident⟩

end Schema
end FixtureLab

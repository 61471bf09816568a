import FixtureLab.Proofs.Graph.Page
import FixtureLab.Proofs.Graph.ReadBack
import FixtureLab.Proofs.Graph.Script
import FixtureLab.Proofs.Json.Compact

/-!
This module contains what the explorer page carries. No text within the records ends the script that
holds them, but the placeholders of the counts are filled in there as well.
-/

namespace FixtureLab
namespace Graph

open Json (Plain)
open Text

namespace Record

def names (r : Record) : List String := r.id :: r.targets

def rename (f : String → String) (r : Record) : Record :=
  { id := f r.id, parent := r.parent.map f, children := r.children.map f }

theorem rename_comp (f g : String → String) : rename g ∘ rename f = rename (g ∘ f) := by
  funext r
  simp [rename]

theorem mapText_toJson {f : String → String} (hf : ∀ field ∈ fieldNames, f field = field)
    (r : Record) : r.toJson.mapText f = (r.rename f).toJson := by
  simp only [fieldNames, List.forall_mem_cons] at hf
  obtain ⟨hid, hparent, hchildren, -⟩ := hf
  obtain ⟨id, parent, children⟩ := r
  have hstrs : (Json.strs children).mapText f = Json.strs (children.map f) := by
    simp [Json.strs, Json.mapText, Json.mapTextItems_eq_map]
  cases parent <;> simp [toJson, rename, Json.mapText, Json.mapTextMembers, *]

theorem rename_eq_self {f : String → String} {r : Record} (h : ∀ name ∈ r.names, f name = name) :
    r.rename f = r := by
  simp only [names, targets, List.forall_mem_cons, List.forall_mem_append, Option.mem_toList] at h
  obtain ⟨hid, hparent, hchildren⟩ := h
  simp only [rename, hid, List.map_congr_left hchildren, Option.map_congr hparent]
  simp

theorem eq_of_normal_rename {f : String → String} {r : Record}
    (h : (r.rename f).normal = r.normal) {name : String} (hname : name ∈ r.names) :
    name = "" ∨ f name = name := by
  simp only [normal, rename, Record.mk.injEq] at h
  obtain ⟨hid, hparent, hchildren⟩ := h
  simp only [names, targets, List.mem_cons, List.mem_append, Option.mem_toList] at hname
  rcases hname with rfl | hname | hname
  . exact .inr hid
  . rw [hname] at hparent
    by_cases hempty : name = ""
    . exact .inl hempty
    . have hname : (some name).filter (!·.isEmpty) = some name := by simp [hempty]
      have hsome : (some (f name)).filter (!·.isEmpty) = some name := hparent.trans hname
      exact .inr (Option.some_inj.1 (Option.filter_eq_some_iff.1 hsome).1)
  . exact .inr (List.map_inj_left.1 (hchildren.trans (List.map_id _).symm) name hname)

end Record

theorem mapText_recordsJson {f : String → String}
    (hf : ∀ field ∈ Record.fieldNames, f field = field) (records : List Record) :
    (recordsJson records).mapText f = recordsJson (records.map (Record.rename f)) := by
  simp [recordsJson, Json.mapText, Json.mapTextItems_eq_map, Record.mapText_toJson hf,
    Function.comp_def]

namespace Page

theorem plain_of_isHoleChar {c : Char} (h : isHoleChar c) : Plain c := by
  have hlow : 0x20 ≤ c.toNat := by
    simp only [isHoleChar, Bool.or_eq_true, decide_eq_true_eq] at h
    rcases h with ((h | rfl) | rfl) | rfl
    . have hlow : 'A'.val ≤ c.val := (of_decide_eq_true h).1
      exact Nat.le_trans (by decide) (UInt32.le_iff_toNat_le.1 hlow)
    . decide
    . decide
    . decide
  apply Json.plain_of_le hlow
  all_goals
    rintro rfl
    cases h

theorem replaceAll_escapeScript_records {p : List Char} (hp : IsHole p) (n : Nat)
    (records : List Record) :
    replaceAll p (Nat.toDigits 10 n) (escapeScript (recordsJson records).compact)
      = escapeScript
          (recordsJson (records.map (Record.rename (fill p (Nat.toDigits 10 n))))).compact := by
  obtain ⟨name, rfl⟩ := hp.braces
  have hname : ∀ c ∈ name, Plain c := fun c hc =>
    plain_of_isHoleChar (hp.chars c (List.mem_append_right _ hc))
  have hdigits : ∀ c ∈ Nat.toDigits 10 n, Plain c := fun c hc =>
    Json.plain_of_isDigit (Literal.isDigit_of_mem_digits hc)
  have hfields : ∀ field ∈ Record.fieldNames,
      fill (braces ++ name) (Nat.toDigits 10 n) field = field := by
    have hclear : ∀ field ∈ Record.fieldNames, ¬braces <:+: field.toList := by decide +kernel
    intro field hfield
    rw [fill, replaceAll_line hp (hclear field hfield), String.ofList_toList]
  have hcompact := Json.replaceAll_compact hname hdigits (floatFree_recordsJson records)
  rw [← mapText_recordsJson hfields]
  refine Eq.trans ?_ (congrArg escapeScript hcompact)
  obtain ⟨d, digits, hd⟩ := List.exists_cons_of_ne_nil (Nat.toDigits_ne_nil (n := n) (b := 10))
  have hmem : ∀ {c : Char}, c.isDigit = false → c ∉ d :: digits := by
    intro c hc
    rw [← hd]
    exact Literal.not_mem_digits n hc
  have hnot : ∀ {c : Char}, isHoleChar c = false → c ∉ '{' :: '{' :: name := hp.not_mem
  have hslash : d ∉ closer := by
    have hdigit := Literal.isDigit_of_mem_digits (n := n) (hd ▸ List.mem_cons_self)
    intro h
    rw [closer, List.mem_cons, List.mem_singleton] at h
    rcases h with rfl | rfl <;> cases hdigit
  rw [hd]
  exact replaceAll_comm (by decide) hslash (by decide) (hnot (by decide)) (hnot (by decide))
    (hmem (by decide)) _

def shown (nodes edges : Nat) (s : String) : String :=
  fill edgesHole.toList (Nat.toDigits 10 edges) (fill nodesHole.toList (Nat.toDigits 10 nodes) s)

end Page

theorem edges_eq (records : List Record) :
    (Summary.of records).edges = (records.flatMap Record.targets).length := by
  induction records with
  | nil => rfl
  | cons r records ih =>
    have htargets : r.targets.length = r.parent.toList.length + r.children.length :=
      List.length_append
    simp only [Summary.edges, Summary.of, List.filter_cons, List.flatMap_cons, List.length_append,
      htargets] at ih ⊢
    cases r.parent with
    | none =>
      simp only [Option.isSome_none, Bool.false_eq_true, if_false, Option.toList_none,
        List.length_nil]
      omega
    | some parent =>
      simp only [Option.isSome_some, if_true, Option.toList_some, List.length_cons,
        List.length_nil]
      omega

def shownRecords (records : List Record) : List Record :=
  records.map
    (Record.rename (Page.shown records.length (records.flatMap Record.targets).length))

theorem page_eq (records : List Record) :
    page records
      = Page.filled (Nat.toDigits 10 records.length)
          (Nat.toDigits 10 (records.flatMap Record.targets).length)
          (escapeScript (recordsJson (shownRecords records)).compact) := by
  have hpage : page records = replaceAll Page.edgesHole.toList
      (Nat.toDigits 10 (Summary.of records).edges) (replaceAll Page.nodesHole.toList
        (Nat.toDigits 10 records.length) (replaceAll Page.recordsHole.toList
          (escapeScript (recordsJson records).compact) Page.template)) := rfl
  have hbrace : '{' ∈ Page.edgesHole.toList := Page.isHole_edgesHole.braces.subset (by decide)
  have hdigits : ∀ m, ¬Page.edgesHole.toList <:+: Nat.toDigits 10 m := fun m h =>
    Literal.not_mem_digits m (by decide) (h.subset hbrace)
  have hnodes : ¬Page.recordsHole.toList <:+: Page.nodesHole.toList := by decide +kernel
  have hedges : ¬Page.recordsHole.toList <:+: Page.edgesHole.toList := by decide +kernel
  have hedges' : ¬Page.nodesHole.toList <:+: Page.edgesHole.toList := by decide +kernel
  -- The counts are filled in when the records are in their place already.
  rw [hpage, edges_eq, Page.template_eq]
  rw [Page.replaceAll_filled Page.isHole_recordsHole, replaceAll_eq_self hnodes,
    replaceAll_eq_self hedges, replaceAll_self Page.isHole_recordsHole.ne_nil]
  rw [Page.replaceAll_filled Page.isHole_nodesHole, replaceAll_self Page.isHole_nodesHole.ne_nil,
    replaceAll_eq_self hedges', Page.replaceAll_escapeScript_records Page.isHole_nodesHole]
  rw [Page.replaceAll_filled Page.isHole_edgesHole, replaceAll_eq_self (hdigits _),
    replaceAll_self Page.isHole_edgesHole.ne_nil,
    Page.replaceAll_escapeScript_records Page.isHole_edgesHole]
  rw [List.map_map, Record.rename_comp, shownRecords]
  rfl

theorem recordsOfText?_escapeScript (text : List Char) :
    recordsOfText? (escapeScript text) = recordsOfText? text := by
  rw [recordsOfText?, ofChars?_escapeScript, recordsOfText?]

namespace Page

/--
The page is the template with the two counts in their places, and a JSON text without control
characters, thus on one line, from which the records are read.
-/
def Carries (page : List Char) (nodes edges : Nat) (records : List Record) : Prop :=
  ∃ json : List Char, page = filled (Nat.toDigits 10 nodes) (Nat.toDigits 10 edges) json ∧
    (∀ c ∈ json, 0x20 ≤ c.toNat) ∧ recordsOfText? json = some records

theorem Carries.unique {page : List Char} {nodes edges : Nat} {records records' : List Record}
    (h : Carries page nodes edges records) (h' : Carries page nodes edges records') :
    records = records' := by
  obtain ⟨json, rfl, -, hread⟩ := h
  obtain ⟨json', hpage, -, hread'⟩ := h'
  rw [← filled_inj hpage, hread] at hread'
  exact Option.some_inj.1 hread'

theorem shown_eq_self_iff {nodes edges : Nat} {s : String} :
    shown nodes edges s = s
      ↔ ¬nodesHole.toList <:+: s.toList ∧ ¬edgesHole.toList <:+: s.toList := by
  have hdigits : ∀ n, '{' ∉ Nat.toDigits 10 n := fun n => Literal.not_mem_digits n (by decide)
  have hlt : ∀ {p cs : List Char} (n : Nat), IsHole p → p <:+: cs →
      (replaceAll p (Nat.toDigits 10 n) cs).count '{' < cs.count '{' := fun n hp =>
    count_replaceAll_lt hp.ne_nil (hp.braces.subset (by decide)) (hdigits n)
  constructor
  . intro h
    have hcount : (shown nodes edges s).toList.count '{' = s.toList.count '{' := by rw [h]
    rw [shown, toList_fill, toList_fill] at hcount
    have hnodes : ¬nodesHole.toList <:+: s.toList := by
      intro hinfix
      have hle := count_replaceAll_le isHole_edgesHole.ne_nil (hdigits edges)
        (replaceAll nodesHole.toList (Nat.toDigits 10 nodes) s.toList)
      have := hlt nodes isHole_nodesHole hinfix
      omega
    rw [replaceAll_eq_self hnodes] at hcount
    exact ⟨hnodes, fun hinfix => absurd hcount (hlt edges isHole_edgesHole hinfix).ne⟩
  . rintro ⟨hnodes, hedges⟩
    rw [shown, fill_eq_self hnodes, fill_eq_self hedges]

theorem carries_shownRecords (records : List Record) :
    Carries (page records) records.length (records.flatMap Record.targets).length
      ((shownRecords records).map Record.normal) := by
  refine ⟨_, page_eq records, ?_, ?_⟩
  . intro c hc
    rcases mem_escapeScript hc with hc | rfl
    . exact Json.le_toNat_of_mem_compact (floatFree_recordsJson _) c hc
    . decide
  . rw [recordsOfText?_escapeScript, recordsOfText?_compact]

theorem carries_normal_iff (records : List Record) :
    Carries (page records) records.length (records.flatMap Record.targets).length
        (records.map Record.normal)
      ↔ ∀ r ∈ records, ∀ name ∈ r.names,
          ¬nodesHole.toList <:+: name.toList ∧ ¬edgesHole.toList <:+: name.toList := by
  have hshown := carries_shownRecords records
  constructor
  . intro h r hr name hname
    have hmap := List.map_inj_left.1 ((List.map_map).symm.trans (hshown.unique h)) r hr
    rcases Record.eq_of_normal_rename hmap hname with rfl | hself
    . exact ⟨by decide +kernel, by decide +kernel⟩
    . exact shown_eq_self_iff.1 hself
  . intro h
    have hself : shownRecords records = records := by
      refine (List.map_congr_left fun r hr => ?_).trans (List.map_id _)
      exact Record.rename_eq_self fun name hname => shown_eq_self_iff.2 (h r hr name hname)
    rwa [hself] at hshown

end Page

/--
The page is the template with texts in the places of its placeholders. It carries the records in
whose texts its counts are filled in. These are the given records if and only if no text of theirs
holds the placeholder of a count.
-/
theorem page_carries_records (records : List Record) :
    let nodes := records.length
    let edges := (records.flatMap Record.targets).length
    Page.template
        = Page.filled Page.nodesHole.toList Page.edgesHole.toList Page.recordsHole.toList
    ∧ Page.Carries (page records) nodes edges ((shownRecords records).map Record.normal)
    ∧ (Page.Carries (page records) nodes edges (records.map Record.normal)
        ↔ ∀ r ∈ records, ∀ name ∈ r.names,
            ¬Page.nodesHole.toList <:+: name.toList ∧ ¬Page.edgesHole.toList <:+: name.toList) :=
  ⟨Page.template_eq, Page.carries_shownRecords records, Page.carries_normal_iff records⟩

theorem page_changes_placeholder :
    ¬Page.Carries (page [{ id := "\x7b\x7bNODES_COUNT\x7d\x7d" }]) 1 0
      [{ id := "\x7b\x7bNODES_COUNT\x7d\x7d" }] := by
  intro h
  have hnames := (Page.carries_normal_iff [{ id := "\x7b\x7bNODES_COUNT\x7d\x7d" }]).1 h
  exact (hnames _ List.mem_cons_self _ List.mem_cons_self).1 List.infix_rfl

theorem occurrences_closer_filled (nodes edges records : List Char) :
    occurrences closer (Page.filled nodes edges records)
      = occurrences closer (Page.filled [] [] []) + occurrences closer nodes
        + occurrences closer edges + occurrences closer records := by
  have hgreater : '>' ∉ closer := by decide
  have hspace : ' ' ∉ closer := by decide
  have hsemicolon : ';' ∉ closer := by decide
  simp only [Page.filled_eq, occurrences_append_cons closer_ne_nil hgreater,
    occurrences_append_cons closer_ne_nil hspace, occurrences_append_cons closer_ne_nil hsemicolon]
  have hnil : occurrences closer [] = 0 := rfl
  omega

/--
The end tags of the page are those of its template, as there is none in the JSON text it holds. The
escaped JSON text says the same as the text before.
-/
theorem page_closers (records : List Record) :
    occurrences closer (page records) = occurrences closer Page.template
    ∧ (∃ json, ¬closer <:+: json ∧ page records
        = Page.filled (Nat.toDigits 10 records.length)
            (Nat.toDigits 10 (records.flatMap Record.targets).length) json)
    ∧ (let json := (recordsJson records).compact
      recordsOfText? (escapeScript json) = recordsOfText? json
      ∧ recordsOfText? json = some (records.map Record.normal)) := by
  have hzero : ∀ {cs : List Char}, ¬closer <:+: cs → occurrences closer cs = 0 :=
    (occurrences_eq_zero_iff closer_ne_nil).2
  have hdigits : ∀ n, ¬closer <:+: Nat.toDigits 10 n := fun n h =>
    Literal.not_mem_digits n (c := '<') (by decide) (h.subset (by decide))
  have hjson := not_closer_infix_escapeScript (recordsJson (shownRecords records)).compact
  refine ⟨?_, ⟨_, hjson, page_eq records⟩, recordsOfText?_escapeScript _,
    recordsOfText?_compact records⟩
  have hholes : occurrences closer Page.nodesHole.toList = 0
      ∧ occurrences closer Page.edgesHole.toList = 0
      ∧ occurrences closer Page.recordsHole.toList = 0 := by
    decide +kernel
  have htemplate := occurrences_closer_filled Page.nodesHole.toList Page.edgesHole.toList
    Page.recordsHole.toList
  rw [← Page.template_eq, hholes.1, hholes.2.1, hholes.2.2] at htemplate
  rw [page_eq, occurrences_closer_filled, hzero hjson, hzero (hdigits _), hzero (hdigits _),
    htemplate]

end Graph
end FixtureLab

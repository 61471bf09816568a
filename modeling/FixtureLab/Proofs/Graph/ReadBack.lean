import FixtureLab.Graph.Export
import FixtureLab.Proofs.Json.Fields
import FixtureLab.Proofs.Registry.Invariant
import Mathlib.Data.List.Infix

/-!
This module contains that the exported texts of a graph are read back as the records that were
exported.
-/

namespace FixtureLab
namespace Graph

open Json (Raw)

def recordsOfText? (text : List Char) : Option (List Record) :=
  (Raw.ofChars? text).bind Record.listOfRaw?

def recordsBetween? (opening ending : String) (text : List Char) : Option (List Record) :=
  ((text.dropPrefix? opening.toList).bind (·.dropSuffix? ending.toList)).bind recordsOfText?

theorem recordsBetween?_append (opening ending : String) (body : List Char) :
    recordsBetween? opening ending (opening.toList ++ body ++ ending.toList)
      = recordsOfText? body := by
  have hopening : (opening.toList ++ body ++ ending.toList).dropPrefix? opening.toList
      = some (body ++ ending.toList) :=
    List.dropPrefix?_eq_some_iff.2 ⟨opening.toList, by simp, by simp⟩
  have hending : (body ++ ending.toList).dropSuffix? ending.toList = some body :=
    List.dropSuffix?_eq_some_iff.2 ⟨ending.toList, rfl, by simp⟩
  rw [recordsBetween?, hopening, Option.bind_some, hending, Option.bind_some]

namespace Record

/-- The record as it is read: an empty identifier is no parent. -/
def normal (r : Record) : Record := { r with parent := r.parent.filter (!·.isEmpty) }

theorem normal_eq_self {r : Record} (h : ∀ target ∈ r.targets, target ≠ "") : r.normal = r := by
  obtain ⟨id, parent, children⟩ := r
  cases parent with
  | none => rfl
  | some parent =>
    have hparent : parent ≠ "" := h parent (by simp [targets])
    simp [normal, hparent]

theorem floatFree_toJson (r : Record) : r.toJson.floatFree := by
  apply Json.floatFreeMembers_iff.2
  have hstrs : (Json.strs r.children).floatFree := by
    apply Json.floatFreeItems_iff.2
    simp [Json.floatFree]
  cases h : r.parent <;> simp [hstrs, Json.floatFree]

theorem ofRaw?_toRaw (r : Record) : ofRaw? r.toJson.toRaw = some r.normal := by
  obtain ⟨id, parent, children⟩ := r
  cases parent with
  | none =>
    have hfields : (toJson ⟨id, none, children⟩).toRaw.fields? fieldNames 1
        = some [("dataId", (Json.str id).toRaw), ("properties", (Json.strs children).toRaw)] :=
      Raw.fields?_obj (by simp) (by simp [fieldNames]) 1
    unfold ofRaw?
    rw [hfields]
    simp [Raw.optional?, List.lookup_cons, normal]
  | some parent =>
    have hfields : (toJson ⟨id, some parent, children⟩).toRaw.fields? fieldNames 1
        = some [("dataId", (Json.str id).toRaw), ("inheritDataId", (Json.str parent).toRaw),
            ("properties", (Json.strs children).toRaw)] :=
      Raw.fields?_obj (by simp) (by simp [fieldNames]) 1
    have hparent := Raw.nullable?_of_eq_some rfl (Raw.string?_toRaw parent)
    unfold ofRaw?
    rw [hfields]
    simp [Raw.optional?, List.lookup_cons, hparent, normal]

theorem normal_of_ofRaw? {v : Raw} {r : Record} (h : ofRaw? v = some r) : r.normal = r := by
  simp only [ofRaw?, Option.bind_eq_bind, Option.bind_eq_some_iff] at h
  obtain ⟨fields, -, raw, -, id, -, parent, -, h⟩ := h
  split at h
  all_goals
    obtain ⟨children, -, hr⟩ := Option.bind_eq_some_iff.1 h
    cases hr
    simp [normal, Option.filter_filter]

end Record

theorem floatFree_recordsJson (records : List Record) : (recordsJson records).floatFree := by
  apply Json.floatFreeItems_iff.2
  intro v hv
  obtain ⟨r, -, rfl⟩ := List.mem_map.1 hv
  exact r.floatFree_toJson

theorem listOfRaw?_toRaw (records : List Record) :
    Record.listOfRaw? (recordsJson records).toRaw = some (records.map Record.normal) :=
  Raw.list?_toRaw fun r _ => r.ofRaw?_toRaw

theorem recordsOfText?_render {layout : Json.Layout} (h : layout.Blank) (records : List Record) :
    recordsOfText? ((recordsJson records).render layout 0)
      = some (records.map Record.normal) := by
  rw [recordsOfText?, Raw.ofChars?_render h (floatFree_recordsJson records), Option.bind_some,
    listOfRaw?_toRaw]

theorem recordsOfText?_pretty (records : List Record) :
    recordsOfText? (recordsJson records).pretty = some (records.map Record.normal) :=
  recordsOfText?_render Json.Layout.blank_pretty records

theorem recordsOfText?_compact (records : List Record) :
    recordsOfText? (recordsJson records).compact = some (records.map Record.normal) :=
  recordsOfText?_render Json.Layout.blank_compact records

structure ReadBackAs (records shown : List Record) : Prop where
  script : recordsBetween? "var forceData = " ";\n" (script records) = some shown
  usages : recordsBetween? "var usages = " ";" (usages records) = some shown
  document : recordsBetween? "" "\n" (document records) = some shown

theorem readBackAs_normal (records : List Record) :
    ReadBackAs records (records.map Record.normal) := by
  have hread := recordsOfText?_pretty records
  refine ⟨?_, ?_, ?_⟩
  . exact (recordsBetween?_append "var forceData = " ";\n" _).trans hread
  . exact (recordsBetween?_append "var usages = " ";" _).trans hread
  . exact (recordsBetween?_append "" "\n" _).trans hread

theorem readBackAs_self {records : List Record} (h : ∀ r ∈ records, r.normal = r) :
    ReadBackAs records records := by
  have hmap : records.map Record.normal = records := (List.map_congr_left h).trans (List.map_id _)
  have hread := readBackAs_normal records
  rwa [hmap] at hread

theorem normal_of_recordsOfText? {text : List Char} {records : List Record}
    (h : recordsOfText? text = some records) : ∀ r ∈ records, r.normal = r := by
  obtain ⟨raw, -, hlist⟩ := Option.bind_eq_some_iff.1 h
  exact Raw.forall_of_list? hlist fun _ _ _ => Record.normal_of_ofRaw?

theorem normal_of_settled {σ V : Type} {registry : Registry σ V} (h : registry.Settled) :
    ∀ r ∈ registry.records, r.normal = r := by
  intro r hr
  obtain ⟨entry, hentry, rfl⟩ := List.mem_map.1 hr
  apply Record.normal_eq_self
  rintro target htarget rfl
  have hstored := Table.find?_eq_some_of_mem h.store_sorted hentry
  have hclosed := h.closed entry.1 "" ⟨entry.2, hstored, htarget⟩
  exact h.ne_empty ((h.mem_store "").1 (Store.isSome_find?_iff.1 hclosed))

/--
The exported texts of any records are read back as these records, apart from parents with the empty
identifier, which are read as none. The records of a registry and all records that were read are
read back as they are.
-/
theorem exported_records_read_back :
    (∀ records : List Record, ReadBackAs records (records.map Record.normal))
    ∧ (∀ (σ V : Type) (policy : DuplicatePolicy) (s : σ) (ops : List (Registry.Operation σ V)),
        let records := ((Registry.start policy s).runAll ops).records
        ReadBackAs records records)
    ∧ ∀ (text : List Char) (records : List Record), recordsOfText? text = some records →
        ReadBackAs records records := by
  refine ⟨readBackAs_normal, fun σ V policy s ops => ?_, fun text records h => ?_⟩
  . exact readBackAs_self (normal_of_settled (Registry.settled_runAll policy s ops))
  . exact readBackAs_self (normal_of_recordsOfText? h)

def legacyText : List Char :=
  "[\x7b\"dataId\":\"a\\u0000\",\"inheritDataId\":\"\"\x7d,".toList ++
    "\x7b\"dataId\":\"b\"\x7d,[\"c\",\"a\"]]".toList

theorem legacyText_read_back :
    let records : List Record :=
      [{ id := "a\x00" }, { id := "b" }, { id := "c", parent := some "a" }]
    recordsOfText? legacyText = some records ∧ ReadBackAs records records := by
  have hread : recordsOfText? legacyText
      = some [{ id := "a\x00" }, { id := "b" }, { id := "c", parent := some "a" }] := by
    decide +kernel
  exact ⟨hread, exported_records_read_back.2.2 legacyText _ hread⟩

end Graph
end FixtureLab

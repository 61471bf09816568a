import FixtureLab.Proofs.Table
import FixtureLab.Proofs.Yaml.ValueNodes

/-!
This module contains what is decoded of the nodes of values. None of them is a reference, so the
number of references that may still be followed stays the same.
-/

namespace FixtureLab
namespace Yaml

theorem Value.itemNodes_eq {α : Type} (vs : List Value) :
    (Value.itemNodes vs : List (Node α)) = vs.map Value.node := by
  induction vs with
  | nil => rfl
  | cons v vs ih => simp [Value.itemNodes, ih]

theorem Value.memberNodes_eq {α : Type} (ms : List (String × Value)) :
    (Value.memberNodes ms : List (Node α × Node α))
      = ms.map fun m => (Value.textNode m.1, m.2.node) := by
  induction ms with
  | nil => rfl
  | cons m ms ih => simp [Value.memberNodes, ih]

namespace Document
namespace Decoder

open Value (textNode)

variable {α β : Type}

@[simp]
theorem follow_scalar (p : Properties) (style : Style) (text : List Char) :
    follow (.scalar p style text) = pure (.scalar p style text) := rfl

@[simp]
theorem follow_seq (p : Properties) (items : List (Node Nat)) :
    follow (.seq p items) = pure (.seq p items) := rfl

@[simp]
theorem follow_map (p : Properties) (members : List (Node Nat × Node Nat)) :
    follow (.map p members) = pure (.map p members) := rfl

@[simp]
theorem text_textNode (s : String) : text (textNode s) = pure s := by
  simp [text, textNode]

@[simp]
theorem text_str (s : String) : text (Value.str s).node = pure s := text_textNode s

theorem text?_plain (cs : List Char) : text? (.scalar {} .plain cs)
    = pure (if isNull .plain cs then none else some (String.ofList cs)) := rfl

theorem text?_of_ne_plain {style : Style} (h : style ≠ .plain) (cs : List Char) :
    text? (.scalar {} style cs) = pure (some (String.ofList cs)) := by
  cases style with
  | plain => exact absurd rfl h
  | singleQuoted | doubleQuoted | literal | folded => rfl

@[simp]
theorem text?_null : text? Value.null.node = pure none := rfl

@[simp]
theorem text?_str (s : String) : text? (Value.str s).node = pure (some s) := by
  have hfits := Text.fits_style s.toList
  rw [Value.node, textNode]
  by_cases hstyle : Text.style s.toList = .plain
  . rw [hstyle] at hfits ⊢
    have htext := hfits.2
    simp only [Scalar.isPlainText, Bool.and_eq_true, Bool.not_eq_true'] at htext
    have hnull : isNull .plain s.toList = false := by simp [isNull, htext]
    rw [text?_plain, hnull]
    simp
  . rw [text?_of_ne_plain hstyle, String.ofList_toList]

@[simp]
theorem bool_bool (b : Bool) : bool (Value.bool b).node = pure b := by
  cases b <;> rfl

theorem variant_str {ofName? : String → Option α} {s : String} {a : α} (h : ofName? s = some a) :
    variant ofName? (Value.str s).node = pure a := by
  simp [variant, Value.node, textNode, h]

theorem mapM_of_forall {as : List α} {f : α → Decoder β} {g : α → β}
    (h : ∀ a ∈ as, f a = pure (g a)) : as.mapM f = pure (as.map g) := by
  induction as with
  | nil => rfl
  | cons a as ih =>
    have hrest := ih fun b hb => h b (List.mem_cons_of_mem a hb)
    rw [List.mapM_cons, h a List.mem_cons_self, pure_bind, hrest, pure_bind, List.map_cons]

theorem entries_map (ms : List (String × Value)) :
    entries (Value.map ms).node = pure (ms.map fun m => (m.1, m.2.node)) := by
  have hmembers : members (Value.map ms).node
      = pure (ms.map fun m => (textNode m.1, m.2.node)) := by
    simp [members, Value.node, Value.memberNodes_eq]
  rw [entries, hmembers, pure_bind, List.mapM_map]
  exact mapM_of_forall fun m _ => by simp

theorem record_map {known : List String} {ms : List (String × Value)} (hkeys : ms.map (·.1) = known)
    (hknown : known.Nodup) :
    record known (Value.map ms).node = pure (ms.map fun m => (m.1, m.2.node)) := by
  have hfilter : (ms.map fun m => (m.1, m.2.node)).filter (known.contains ·.1)
      = ms.map fun m => (m.1, (m.2.node : Node Nat)) := by
    apply List.filter_eq_self.2
    intro e he
    obtain ⟨m, hm, rfl⟩ := List.mem_map.1 he
    simpa [← hkeys] using ⟨m.2, hm⟩
  have hnodup : ((ms.map fun m => (m.1, (m.2.node : Node Nat))).map (·.1)).Nodup := by
    rw [List.map_map]
    exact hkeys ▸ hknown
  rw [record, entries_map, pure_bind, hfilter]
  exact if_pos hnodup

theorem list_seq {encode : α → Value} {decoder : Node Nat → Decoder α} {as : List α}
    (h : ∀ a ∈ as, decoder (encode a).node = pure a) :
    list decoder (Value.seq (as.map encode)).node = pure as := by
  have hitems : items (Value.seq (as.map encode)).node
      = pure (as.map fun a => (encode a).node) := by
    simp [items, Value.node, Value.itemNodes_eq, Function.comp_def]
  have hvalues : as.mapM (fun a => decoder (encode a).node) = pure as := by
    rw [mapM_of_forall h, List.map_id']
  rw [list, hitems, pure_bind, List.mapM_map]
  exact hvalues

theorem table_map {encode : α → Value} {decoder : Node Nat → Decoder α} {t : Table α}
    (ht : Table.Sorted t) (h : ∀ e ∈ t, decoder (encode e.2).node = pure e.2) :
    table decoder (Value.map (t.map fun e => (e.1, encode e.2))).node = pure t := by
  have hentry : ∀ e ∈ t, (do return (e.1, ← decoder (encode e.2).node) : Decoder (String × α))
      = pure e := by
    intro e he
    rw [h e he, pure_bind]
  have hentries := mapM_of_forall hentry
  rw [List.map_id'] at hentries
  simp only [table, entries_map, pure_bind, List.mapM_map, Function.comp_def]
  rw [hentries, pure_bind, Table.ofList_eq_self ht]

end Decoder
end Document
end Yaml
end FixtureLab

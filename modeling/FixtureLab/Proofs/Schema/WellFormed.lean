import FixtureLab.Proofs.Schema.SampleOrder
import FixtureLab.Proofs.Schema.Struct
import FixtureLab.Schema.Files

/-!
This module contains what holds of an inference after any calls, whether they succeed or fail: the
table is indexed, no type has two fields of one name, and the types that fields name are in the
table. The source for its definitions can therefore be rendered at any time.
-/

namespace FixtureLab
namespace Schema

structure RecordType.Proper (known : List String) (t : RecordType) : Prop where
  fields_nodup : (t.fields.map (·.name)).Nodup
  objectName_iff : ∀ f ∈ t.fields, f.objectName.isSome ↔ f.kind = .object
  grounded : ∀ f ∈ t.fields, ∀ object, f.objectName = some object → object ∈ known

namespace RecordType.Proper

variable {known known' : List String} {t other : RecordType}

theorem mono (h : t.Proper known) (hsub : known ⊆ known') : t.Proper known' where
  fields_nodup := h.fields_nodup
  objectName_iff := h.objectName_iff
  grounded := fun f hf object hobject => hsub (h.grounded f hf object hobject)

theorem merge (h : t.Proper known) (hother : other.Proper known) :
    (t.merge other).Proper known := by
  have hsettles := (Settles.of_nodup h.fields_nodup).foldl_mergeField other.fields
  have hmem : ∀ f ∈ (t.merge other).fields, f ∈ t.fields ∨ f ∈ other.fields :=
    fun f hf => List.mem_append.1 (hsettles.subset f hf)
  constructor
  case fields_nodup => exact hsettles.nodup
  case objectName_iff =>
    intro f hf
    exact (hmem f hf).elim (h.objectName_iff f) (hother.objectName_iff f)
  case grounded =>
    intro f hf
    exact (hmem f hf).elim (h.grounded f) (hother.grounded f)

end RecordType.Proper

def ProperInTurn (known : List String) : List RecordType → Prop
  | [] => True
  | type :: rest => type.Proper known ∧ ProperInTurn (type.name :: known) rest

namespace ProperInTurn

variable {known known' : List String} {types more : List RecordType}

theorem mono (h : ProperInTurn known types) (hsub : known ⊆ known') :
    ProperInTurn known' types := by
  induction types generalizing known known' with
  | nil => trivial
  | cons type rest ih => exact ⟨h.1.mono hsub, ih h.2 (List.cons_subset_cons _ hsub)⟩

theorem append (h : ProperInTurn known types)
    (hmore : ProperInTurn (types.map (·.name) ++ known) more) :
    ProperInTurn known (types ++ more) := by
  induction types generalizing known with
  | nil => exact hmore
  | cons type rest ih =>
    refine ⟨h.1, ih h.2 (hmore.mono ?_)⟩
    intro name hname
    simp only [List.map_cons, List.cons_append, List.mem_cons, List.mem_append] at hname ⊢
    tauto

theorem of_isPrefix (h : ProperInTurn known more) (hstarts : types <+: more) :
    ProperInTurn known types := by
  induction types generalizing known more with
  | nil => trivial
  | cons type rest ih =>
    obtain ⟨_, rfl⟩ := hstarts
    exact ⟨h.1, ih h.2 (List.prefix_append _ _)⟩

end ProperInTurn

theorem TypedObject.proper_shown {o : TypedObject} (h : (Json.obj o.members).keysDistinct)
    (known : List String) :
    o.shown.Proper (((objectsBelow o.members).map shown).map (·.name) ++ known) := by
  constructor
  case fields_nodup =>
    have hkeys := (Json.keysDistinct_obj.1 h).1
    simpa [shown, Function.comp_def, Field.ofSample] using hkeys
  case objectName_iff =>
    intro f hf
    obtain ⟨⟨key, v⟩, -, rfl⟩ := List.mem_map.1 hf
    rw [objectName_ofSample]
    split
    . next hkind => simpa using hkind
    . next hkind => simpa using hkind
  case grounded =>
    intro f hf object hobject
    obtain ⟨⟨key, v⟩, hmem, rfl⟩ := List.mem_map.1 hf
    rw [objectName_ofSample] at hobject
    split at hobject
    . next hkind =>
      cases hobject
      obtain ⟨members, ho⟩ := exists_object_of_kindOf (Text.upperCamelCase key) hkind
      have hbelow := mem_objectsBelow.2 ⟨(key, v), hmem, ho⟩
      exact List.mem_append_left _ (List.mem_map_of_mem (List.mem_map_of_mem hbelow))
    . cases hobject

mutual

theorem properInTurn_objectsIn (type : String) (v : Json) (h : v.keysDistinct)
    (known : List String) : ProperInTurn known ((objectsIn type v).map TypedObject.shown) := by
  match v with
  | .obj members =>
    rw [objectsIn, List.map_append]
    apply (properInTurn_objectsBelow members (Json.keysDistinct_obj.1 h).2 known).append
    have hshown : ({ type, members } : TypedObject).shown.Proper _ :=
      TypedObject.proper_shown h known
    exact ⟨hshown, trivial⟩
  | .arr items =>
    rw [objectsIn]
    split
    . exact properInTurn_objectsAmong type items (Json.keysDistinctItems_iff.1 h) known
    . trivial
  | .null => trivial
  | .bool _ => trivial
  | .int _ => trivial
  | .float _ => trivial
  | .str _ => trivial

theorem properInTurn_objectsBelow (members : List (String × Json))
    (h : ∀ m ∈ members, m.2.keysDistinct) (known : List String) :
    ProperInTurn known ((objectsBelow members).map TypedObject.shown) := by
  match members with
  | [] => trivial
  | (key, v) :: rest =>
    obtain ⟨hv, hrest⟩ := List.forall_mem_cons.1 h
    rw [objectsBelow, List.map_append]
    exact (properInTurn_objectsIn _ v hv known).append (properInTurn_objectsBelow rest hrest _)

theorem properInTurn_objectsAmong (type : String) (items : List Json)
    (h : ∀ v ∈ items, v.keysDistinct) (known : List String) :
    ProperInTurn known ((objectsAmong type items).map TypedObject.shown) := by
  match items with
  | [] => trivial
  | .obj members :: rest =>
    obtain ⟨hv, hrest⟩ := List.forall_mem_cons.1 h
    rw [objectsAmong, List.map_append]
    apply (properInTurn_objectsBelow members (Json.keysDistinct_obj.1 hv).2 known).append
    have hshown : ({ type, members } : TypedObject).shown.Proper _ :=
      TypedObject.proper_shown hv known
    exact ⟨hshown, properInTurn_objectsAmong type rest hrest _⟩
  | .null :: rest => exact properInTurn_objectsAmong type rest (List.forall_mem_cons.1 h).2 known
  | .bool _ :: rest => exact properInTurn_objectsAmong type rest (List.forall_mem_cons.1 h).2 known
  | .int _ :: rest => exact properInTurn_objectsAmong type rest (List.forall_mem_cons.1 h).2 known
  | .float _ :: rest => exact properInTurn_objectsAmong type rest (List.forall_mem_cons.1 h).2 known
  | .str _ :: rest => exact properInTurn_objectsAmong type rest (List.forall_mem_cons.1 h).2 known
  | .arr _ :: rest => exact properInTurn_objectsAmong type rest (List.forall_mem_cons.1 h).2 known

end

namespace TypeTable

def names (t : TypeTable) : List String := t.types.map (·.name)

structure Proper (t : TypeTable) : Prop where
  indexed : t.Indexed
  types : ∀ type ∈ t.types, type.Proper t.names

theorem Indexed.nodup {t : TypeTable} (h : t.Indexed) : t.names.Nodup := by
  unfold names
  rw [List.nodup_iff_getElem?_ne_getElem?]
  intro i j hij hj heq
  rw [List.length_map] at hj
  rw [List.getElem?_map, List.getElem?_map] at heq
  have hname : (t.types[j]?).map (·.name) = some t.types[j].name := by
    rw [List.getElem?_eq_getElem hj, Option.map_some]
  have hi := (h _ i).2 (heq.trans hname)
  rw [(h _ j).2 hname, Option.some.injEq] at hi
  exact Nat.ne_of_lt hij hi.symm

theorem Indexed.mem_names_put {t : TypeTable} (h : t.Indexed) {type : RecordType} {name : String} :
    name ∈ (t.put type).names ↔ name ∈ t.names ∨ name = type.name := by
  unfold names
  rw [h.types_put, putType]
  split
  . next hmem =>
    have hsame : (RecordType.name ∘ fun t => if t.name = type.name then t.merge type else t)
        = RecordType.name := by
      funext t
      rw [Function.comp_apply]
      split <;> rfl
    rw [List.map_map, hsame, or_iff_left_of_imp]
    rintro rfl
    exact hmem
  . simp

theorem Proper.put {t : TypeTable} (h : t.Proper) {type : RecordType}
    (htype : type.Proper t.names) : (t.put type).Proper := by
  have hsub : t.names ⊆ (t.put type).names := fun _ hname => h.indexed.mem_names_put.2 (.inl hname)
  have hold : ∀ t' ∈ t.types, t'.Proper (t.put type).names :=
    fun t' ht' => (h.types t' ht').mono hsub
  have hnew := htype.mono hsub
  refine ⟨h.indexed.put type, ?_⟩
  intro t' ht'
  rw [h.indexed.types_put, putType] at ht'
  split at ht'
  . obtain ⟨t₀, ht₀, rfl⟩ := List.mem_map.1 ht'
    split
    . exact (hold t₀ ht₀).merge hnew
    . exact hold t₀ ht₀
  . rcases List.mem_append.1 ht' with ht' | ht'
    . exact hold t' ht'
    . exact List.mem_singleton.1 ht' ▸ hnew

theorem Proper.foldl_put {t : TypeTable} (h : t.Proper) {types : List RecordType}
    (htypes : ProperInTurn t.names types) : (types.foldl .put t).Proper := by
  induction types generalizing t with
  | nil => exact h
  | cons type rest ih =>
    apply ih (h.put htypes.1) (htypes.2.mono _)
    intro name hname
    rw [h.indexed.mem_names_put]
    exact (List.mem_cons.1 hname).symm

theorem proper_empty : Proper {} where
  indexed := indexed_empty
  types := by simp

theorem Proper.error?_eq_none {t : TypeTable} (h : t.Proper) {d : Definitions}
    (hd : d.types = t.types) : Source.error? d = none := by
  simp only [Source.error?, List.findSome?_eq_none_iff, hd]
  intro type htype f hf
  have hproper := h.types type htype
  unfold Source.fieldError?
  split
  . next hkind =>
    obtain ⟨object, hobject⟩ :=
      Option.isSome_iff_exists.1 ((hproper.objectName_iff f hf).2 hkind)
    have hdefined : (d.type? object).isSome := by
      have hmem := hproper.grounded f hf object hobject
      rw [Definitions.type?, hd, List.find?_isSome]
      simpa [names] using hmem
    simp [hobject, hdefined]
  . rfl

end TypeTable

namespace Inferrer

inductive Call where
  | offer (label : String) (v : Json)
  | read (fs : FileSystem) (path : Path)

def Call.run (t : Inferrer) : Call → Except Error Unit × Inferrer
  | .offer label v => t.addValue label v
  | .read fs path => t.addFile fs path

def runAll (t : Inferrer) (calls : List Call) : Inferrer :=
  calls.foldl (fun t c => (c.run t).2) t

def Call.KeysDistinct : Call → Prop
  | .offer _ v => v.keysDistinct
  | .read .. => True

instance (c : Call) : Decidable c.KeysDistinct :=
  match c with
  | .offer _ v => inferInstanceAs (Decidable (v.keysDistinct = true))
  | .read .. => .isTrue trivial

def Call.sample? : Call → Option (String × Json)
  | .offer label v => some (label, v)
  | .read fs path => ((fs.readText? path).bind Json.ofString?).map fun v => (path, v)

theorem Call.KeysDistinct.of_sample? {c : Call} (h : c.KeysDistinct) {label : String} {v : Json}
    (hsample : c.sample? = some (label, v)) : v.keysDistinct := by
  cases c with
  | offer label v =>
    cases hsample
    exact h
  | read fs path =>
    obtain ⟨v, hv, heq⟩ := Option.map_eq_some_iff.1 hsample
    obtain ⟨text, -, hread⟩ := Option.bind_eq_some_iff.1 hv
    cases heq
    exact Json.keysDistinct_of_ofString? hread

theorem Call.run_of_sample? {c : Call} {label : String} {v : Json}
    (h : c.sample? = some (label, v)) (t : Inferrer) : c.run t = t.addValue label v := by
  cases c with
  | offer label v =>
    cases h
    rfl
  | read fs path =>
    obtain ⟨v, hv, heq⟩ := Option.map_eq_some_iff.1 h
    obtain ⟨text, htext, hread⟩ := Option.bind_eq_some_iff.1 hv
    cases heq
    simp only [run, addFile, htext, hread]

theorem Call.run_of_unread {c : Call} (h : c.sample? = none) (t : Inferrer) :
    ∃ e, c.run t = (.error e, t) ∧ ∀ label place, e ≠ .notAnObject label place := by
  cases c with
  | offer label v => cases h
  | read fs path =>
    simp only [run, addFile]
    cases htext : fs.readText? path with
    | none => exact ⟨.unreadable path, rfl, by simp⟩
    | some text =>
      have hread : Json.ofString? text = none := by simpa [sample?, htext] using h
      exact ⟨.invalidJson path, by simp only [hread], by simp⟩

structure WellFormed (t : Inferrer) : Prop where
  table : t.table.Proper
  used_eq : t.used = t.samples.map (Path.baseName ·.file)
  used_nodup : t.used.Nodup

theorem wellFormed_new (model : String) : WellFormed { model } where
  table := TypeTable.proper_empty
  used_eq := rfl
  used_nodup := List.nodup_nil

theorem WellFormed.addValue {t : Inferrer} (h : t.WellFormed) (file : String) {v : Json}
    (hv : v.keysDistinct) : (t.addValue file v).2.WellFormed := by
  have hshown := properInTurn_objectsIn t.model v hv t.table.names
  have htable : (t.tableWith v).Proper :=
    h.table.foldl_put (hshown.of_isPrefix (isPrefix_types_findIn t.model v))
  rw [addValue_eq]
  split
  . exact h
  . next hnew =>
    split
    . exact ⟨htable, h.used_eq, h.used_nodup⟩
    . refine ⟨htable, ?_, ?_⟩
      . simp [h.used_eq, entry]
      . exact List.nodup_append'.2 ⟨h.used_nodup, List.nodup_singleton _, by simpa using hnew⟩

theorem WellFormed.run {t : Inferrer} (h : t.WellFormed) {c : Call} (hc : c.KeysDistinct) :
    (c.run t).2.WellFormed := by
  cases hsample : c.sample? with
  | none =>
    obtain ⟨e, hrun, -⟩ := Call.run_of_unread hsample t
    rw [hrun]
    exact h
  | some sample =>
    rw [Call.run_of_sample? hsample]
    exact h.addValue sample.1 (hc.of_sample? hsample)

theorem WellFormed.runAll {t : Inferrer} (h : t.WellFormed) {calls : List Call}
    (hcalls : ∀ c ∈ calls, c.KeysDistinct) : (t.runAll calls).WellFormed := by
  induction calls generalizing t with
  | nil => exact h
  | cons c rest ih =>
    obtain ⟨hc, hrest⟩ := List.forall_mem_cons.1 hcalls
    exact ih (h.run hc) hrest

theorem addValue_eq_duplicateFile_iff (t : Inferrer) (file name : String) (v : Json) :
    (t.addValue file v).1 = .error (.duplicateFile name)
      ↔
    name = Path.baseName file ∧ name ∈ t.used := by
  rw [addValue_eq]
  split
  . next hused =>
    simp only [Except.error.injEq, Error.duplicateFile.injEq]
    constructor
    . rintro rfl
      exact ⟨rfl, hused⟩
    . rintro ⟨rfl, -⟩
      rfl
  . next hnew =>
    have hne : ¬(name = Path.baseName file ∧ name ∈ t.used) := by
      rintro ⟨rfl, hused⟩
      exact hnew hused
    split <;> simp [hne]

end Inferrer

/--
After any calls the names of types are distinct and indexed, a field names a type of the table iff
it holds objects, samples are refused as duplicates iff an accepted one has their base name, and
source can be rendered.
-/
theorem table_after_calls {name : String} {t₀ : Inferrer} (hnew : Inferrer.new name = .ok t₀)
    {calls : List Inferrer.Call} (hcalls : ∀ c ∈ calls, c.KeysDistinct) :
    let t := t₀.runAll calls
    (t.table.types.map (·.name)).Nodup
      ∧ (∀ name i, Table.find? name t.table.index = some i
          ↔ (t.table.types[i]?).map (·.name) = some name)
      ∧ (∀ type ∈ t.table.types,
          (type.fields.map (·.name)).Nodup
            ∧ ∀ f ∈ type.fields, (f.objectName.isSome ↔ f.kind = .object)
              ∧ ∀ object, f.objectName = some object → object ∈ t.table.types.map (·.name))
      ∧ (t.samples.map (Path.baseName ·.file)).Nodup
      ∧ (∀ file v name, (t.addValue file v).1 = .error (.duplicateFile name)
          ↔ name = Path.baseName file ∧ name ∈ t.samples.map (Path.baseName ·.file))
      ∧ ∃ text, Source.render t.finish = .ok text := by
  intro t
  have h : t.WellFormed := by
    cases Inferrer.new_of_ok hnew
    exact (Inferrer.wellFormed_new _).runAll hcalls
  refine ⟨h.table.indexed.nodup, h.table.indexed, ?fields, ?nodup, ?refused, ?rendered⟩
  case fields =>
    intro type htype
    have hproper := h.table.types type htype
    exact ⟨hproper.fields_nodup,
      fun f hf => ⟨hproper.objectName_iff f hf, hproper.grounded f hf⟩⟩
  case nodup => exact h.used_eq ▸ h.used_nodup
  case refused =>
    intro file v name
    rw [← h.used_eq]
    exact t.addValue_eq_duplicateFile_iff file name v
  case rendered =>
    have hnone : Source.error? t.finish = none := h.table.error?_eq_none rfl
    exact ⟨t.finish.sourceFile.text, Definitions.render_eq_sourceFile hnone⟩

def interrupted : List Inferrer.Call :=
  [.offer "a.json" (.obj [("part", .arr [.obj [("size", .null), ("sub", .obj [])], .int 1])]),
    .read { tree := .dir [] } "b.json",
    .offer "c.json" (.obj [("part", .obj [("size", .obj [("x", .int 1)])])]),
    .offer "d/c.json" (.obj [])]

theorem table_after_interrupted :
    ∃ t₀, Inferrer.new "t" = .ok t₀
      ∧ (t₀.runAll interrupted).table.types.map (·.name) = ["Sub", "Part", "Size", "T"]
      ∧ (t₀.runAll interrupted).samples.map (Path.baseName ·.file) = ["c.json"]
      ∧ ((t₀.runAll interrupted).table.types.map (·.name)).Nodup
      ∧ ∃ text, Source.render (t₀.runAll interrupted).finish = .ok text := by
  have hnew : Inferrer.new "t" = .ok { model := "T" } := rfl
  have hcalls : ∀ c ∈ interrupted, c.KeysDistinct := by decide
  obtain ⟨hnodup, -, -, -, -, hrendered⟩ := table_after_calls hnew hcalls
  exact ⟨_, hnew, by decide, by decide, hnodup, hrendered⟩

end Schema
end FixtureLab

import FixtureLab.Proofs.Decimal.Literal
import FixtureLab.Proofs.Json.Keys
import FixtureLab.Proofs.Schema.Trails
import FixtureLab.Proofs.Text.Words
import Mathlib.Data.List.Induction

/-!
This module contains what the entry of an accepted sample says of its leaves. It has the type of
each path's last leaf. Paths are not set off from each other when a key reads like a part of a path,
or when the path of an object is empty; with other keys every leaf has a path of its own.
-/

namespace FixtureLab

theorem Table.find?_ofList {α : Type} (key : String) (entries : List (String × α)) :
    find? key (ofList entries) = (entries.reverse.find? (·.1 = key)).map (·.2) := by
  induction entries using List.reverseRecOn with
  | nil => rfl
  | append_singleton entries entry ih =>
    have hlast : ofList (entries ++ [entry]) = insert entry.1 entry.2 (ofList entries) := by
      simp [ofList]
    rw [hlast, List.reverse_append, List.reverse_singleton, List.singleton_append, List.find?_cons]
    by_cases hkey : entry.1 = key
    . simp [← hkey]
    . rw [find?_insert_of_ne hkey, ih]
      simp [hkey]

namespace Schema

theorem find?_eq_some_iff_of_pairwise {α : Type} {R : α → α → Prop}
    (hasymm : ∀ a b, R a b → ¬R b a) {l : List α} (h : l.Pairwise R) {p : α → Bool} {x : α} :
    l.find? p = some x ↔ x ∈ l ∧ p x ∧ ∀ y ∈ l, p y → ¬R y x := by
  induction l with
  | nil => simp
  | cons a l ih =>
    obtain ⟨hhead, htail⟩ := List.pairwise_cons.1 h
    rw [List.find?_cons]
    by_cases hp : p a
    . rw [hp]
      constructor
      . rintro ⟨⟩
        refine ⟨List.mem_cons_self, hp, fun y hy _ hbefore => ?_⟩
        rcases List.mem_cons.1 hy with rfl | hy
        . exact hasymm _ _ hbefore hbefore
        . exact hasymm _ _ hbefore (hhead y hy)
      . rintro ⟨hx, -, hfirst⟩
        rcases List.mem_cons.1 hx with rfl | hx
        . rfl
        . exact absurd (hhead x hx) (hfirst a List.mem_cons_self hp)
    . simp only [Bool.not_eq_true] at hp
      rw [hp]
      simp only [ih htail, List.mem_cons]
      constructor
      . rintro ⟨hx, hpx, hfirst⟩
        refine ⟨.inr hx, hpx, ?_⟩
        rintro y (rfl | hy) hpy
        . simp [hp] at hpy
        . exact hfirst y hy hpy
      . rintro ⟨rfl | hx, hpx, hfirst⟩
        . simp [hp] at hpx
        . exact ⟨hx, hpx, fun y hy => hfirst y (.inr hy)⟩

def leafTrails (members : List (String × Json)) : List (Trail × Json) :=
  (spotsInMembers 0 members).filterMap fun
    | (trail, .leaf v) => some (trail, v)
    | (_, .fault) => none

def LastLeaf (members : List (String × Json)) (trail : Trail) (v : Json) : Prop :=
  SpotAt members trail (.leaf v)
    ∧ ∀ other w, SpotAt members other (.leaf w) → other.path = trail.path → ¬trail.Before other

section Entries

variable {members : List (String × Json)} {trail : Trail} {v : Json}

theorem mem_leafTrails_iff :
    (trail, v) ∈ leafTrails members ↔ SpotAt members trail (.leaf v) := by
  rw [← mem_spotsInMembers_zero_iff, leafTrails, List.mem_filterMap]
  constructor
  . rintro ⟨⟨_, _ | _⟩, hmem, ⟨⟩⟩
    exact hmem
  . exact fun hmem => ⟨(trail, .leaf v), hmem, rfl⟩

theorem pairwise_leafTrails (members : List (String × Json)) :
    (leafTrails members).Pairwise fun a b => a.1.Before b.1 := by
  refine List.Pairwise.filterMap _ ?_ (pairwise_spotsInMembers 0 members)
  rintro ⟨a, _ | _⟩ ⟨b, _ | _⟩ hab _ ⟨⟩ _ ⟨⟩
  exact hab

theorem leaves_entry (model file : String) (members : List (String × Json)) :
    (Inferrer.entry model (file, .obj members)).leaves
      =
    Table.ofList ((leafTrails members).map fun (trail, v) => (trail.path, (kindOf v).name)) := by
  have hfold : ∀ fs, leavesOf [] fs
      = Table.ofList (fs.filterMap fun f => f.spot?.bind fun s => s.2.map (s.1, ·)) := by
    intro fs
    unfold leavesOf Table.ofList
    rw [List.foldl_filterMap]
    congr 1
    funext leaves f
    cases f <;> rfl
  rw [Inferrer.entry, hfold, findIn, ← List.filterMap_filterMap,
    spots_findInMembers model "" [] 0 members, spelled, List.filterMap_map, leafTrails,
    List.map_filterMap]
  refine congrArg Table.ofList (List.filterMap_congr ?_)
  rintro ⟨trail, _ | _⟩ - <;> rfl

theorem find?_leaves_entry (model file path type : String) (members : List (String × Json)) :
    Table.find? path (Inferrer.entry model (file, .obj members)).leaves = some type
      ↔
    ∃ trail v, LastLeaf members trail v ∧ trail.path = path ∧ (kindOf v).name = type := by
  have hlast : ∀ trail v,
      (leafTrails members).reverse.find? (fun leaf => leaf.1.path = path) = some (trail, v)
        ↔ LastLeaf members trail v ∧ trail.path = path := by
    intro trail v
    have hpairwise := List.pairwise_reverse.2 (pairwise_leafTrails members)
    rw [find?_eq_some_iff_of_pairwise (fun _ _ => Trail.Before.asymm) hpairwise]
    simp only [List.mem_reverse, mem_leafTrails_iff, Prod.forall, LastLeaf, decide_eq_true_eq]
    constructor
    . rintro ⟨hleaf, rfl, hlast⟩
      exact ⟨⟨hleaf, hlast⟩, rfl⟩
    . rintro ⟨⟨hleaf, hlast⟩, rfl⟩
      exact ⟨hleaf, rfl, hlast⟩
  rw [leaves_entry, Table.find?_ofList, ← List.map_reverse, List.find?_map, Option.map_map,
    Option.map_eq_some_iff]
  simp only [Function.comp_def, hlast, Prod.exists, and_assoc]

end Entries

theorem mem_objectsAmong_of_mem_objectsIn {type : String} {items : List Json}
    {inner : List (String × Json)} {o : TypedObject} (hitem : .obj inner ∈ items)
    (ho : o ∈ objectsIn type (.obj inner)) : o ∈ objectsAmong type items := by
  induction items with
  | nil => cases hitem
  | cons v rest ih =>
    rcases List.mem_cons.1 hitem with rfl | hrest
    . rw [objectsIn, List.mem_append, List.mem_singleton] at ho
      rw [objectsAmong, List.mem_append, List.mem_cons]
      exact ho.imp_right .inl
    . have hmem := ih hrest
      cases v <;> simp [objectsAmong, hmem]

theorem Walked.exists_mem_objectsIn {members last : List (String × Json)} {trail : Trail}
    (h : Walked members trail last) (type : String) :
    ∃ type', { type := type', members := last } ∈ objectsIn type (.obj members) := by
  have hbelow : ∀ {members : List (String × Json)} {key : String} {v : Json} {o : TypedObject}
      (type : String), (key, v) ∈ members → o ∈ objectsIn (Text.upperCamelCase key) v →
      o ∈ objectsIn type (.obj members) := by
    intro members key v o type hmem ho
    rw [objectsIn]
    exact List.mem_append_left _ (mem_objectsBelow.2 ⟨(key, v), hmem, ho⟩)
  induction h generalizing type with
  | root members => exact ⟨type, mem_objectsIn_obj type members⟩
  | @field _ _ _ _ key _ hfield _ ih =>
    obtain ⟨type', ho⟩ := ih (Text.upperCamelCase key)
    exact ⟨type', hbelow type (List.mem_of_getElem? hfield) ho⟩
  | @element _ _ _ _ _ _ key _ hfield hstart hitem _ ih =>
    obtain ⟨type', ho⟩ := ih (Text.upperCamelCase key)
    refine ⟨type', hbelow type (List.mem_of_getElem? hfield) ?_⟩
    rw [objectsIn, if_pos hstart]
    exact mem_objectsAmong_of_mem_objectsIn (List.mem_of_getElem? hitem) ho

def PlainKey (key : String) : Prop :=
  '.' ∉ key.toList ∧ ∀ (k : String) (j : Nat), key ≠ k ++ "[" ++ toString j ++ "]"

theorem PlainKey.of_getLast? {key : String} (hdot : '.' ∉ key.toList)
    (hlast : key.toList.getLast? ≠ some ']') : PlainKey key := by
  refine ⟨hdot, ?_⟩
  rintro k j rfl
  simp [List.getLast?_cons] at hlast

structure PlainKeys (members : List (String × Json)) : Prop where
  distinct : (Json.obj members).keysDistinct
  plain : ∀ outer last, Walked members outer last → ∀ m ∈ last, PlainKey m.1

namespace PlainKeys

variable {members inner : List (String × Json)} {items : List Json} {i j : Nat} {key : String}
  {v w : Json}

theorem plainKey (h : PlainKeys members) (hget : members[i]? = some (key, v)) : PlainKey key :=
  h.plain [] members (.root members) _ (List.mem_of_getElem? hget)

theorem field (h : PlainKeys members) (hfield : members[i]? = some (key, .obj inner)) :
    PlainKeys inner where
  distinct := (Json.keysDistinct_obj.1 h.distinct).2 _ (List.mem_of_getElem? hfield)
  plain := fun _ last hwalked => h.plain _ last (.field hfield hwalked)

theorem element (h : PlainKeys members) (hfield : members[i]? = some (key, .arr items))
    (hstart : startsWithObject items) (hitem : items[j]? = some (.obj inner)) :
    PlainKeys inner where
  distinct := by
    have harr : (Json.arr items).keysDistinct :=
      (Json.keysDistinct_obj.1 h.distinct).2 _ (List.mem_of_getElem? hfield)
    exact Json.keysDistinctItems_iff.1 harr _ (List.mem_of_getElem? hitem)
  plain := fun _ last hwalked => h.plain _ last (.element hfield hstart hitem hwalked)

theorem eq_of_getElem? (h : PlainKeys members) (hi : members[i]? = some (key, v))
    (hj : members[j]? = some (key, w)) : i = j ∧ v = w := by
  have hnodup := (Json.keysDistinct_obj.1 h.distinct).1
  have hlt : i < (members.map (·.1)).length := by
    rw [List.length_map]
    exact (List.getElem?_eq_some_iff.1 hi).1
  have heq : (members.map (·.1))[i]? = (members.map (·.1))[j]? := by simp [hi, hj]
  cases (List.getElem?_inj hlt hnodup).1 heq
  rw [hi] at hj
  cases hj
  exact ⟨rfl, rfl⟩

theorem of_objectsIn (hdistinct : (Json.obj members).keysDistinct)
    (hkeys : ∀ o ∈ objectsIn "" (.obj members), ∀ m ∈ o.members,
      '.' ∉ m.1.toList ∧ m.1.toList.getLast? ≠ some ']') : PlainKeys members where
  distinct := hdistinct
  plain := by
    intro outer last hwalked m hm
    obtain ⟨type, ho⟩ := hwalked.exists_mem_objectsIn ""
    exact (hkeys _ ho m hm).elim .of_getLast?

end PlainKeys

theorem SpotAt.leaf_induction {v : Json}
    {P : ∀ {members trail}, SpotAt members trail (.leaf v) → Prop}
    (leaf : ∀ {members i key}, members[i]? = some (key, v) → ¬holdsObjects v →
      ∀ h : SpotAt members [.member i key] (.leaf v), P h)
    (field : ∀ {members inner i key rest}, members[i]? = some (key, .obj inner) →
      ∀ h : SpotAt inner rest (.leaf v), P h →
      ∀ h : SpotAt members (.member i key :: rest) (.leaf v), P h)
    (element : ∀ {members inner items i j key rest}, members[i]? = some (key, .arr items) →
      startsWithObject items → items[j]? = some (.obj inner) →
      ∀ h : SpotAt inner rest (.leaf v), P h →
      ∀ h : SpotAt members (.member i key :: .item j :: rest) (.leaf v), P h)
    {members : List (String × Json)} {trail : Trail} (h : SpotAt members trail (.leaf v)) :
    P h := by
  obtain ⟨outer, last, i, key, w, rest, hwalked, hlast, hends, rfl⟩ := h
  cases hends with
  | leaf hleaf =>
    induction hwalked with
    | root members => exact leaf hlast hleaf _
    | field hfield h ih =>
      exact field hfield ⟨_, _, i, key, _, _, h, hlast, .leaf hleaf, rfl⟩ (ih hlast) _
    | element hfield hstart hitem h ih =>
      exact element hfield hstart hitem ⟨_, _, i, key, _, _, h, hlast, .leaf hleaf, rfl⟩
        (ih hlast) _

def segments : Trail → List (List Char)
  | .member _ key :: .item j :: rest =>
    (key.toList ++ '[' :: (Nat.toDigits 10 j ++ [']'])) :: segments rest
  | .member _ key :: rest => key.toList :: segments rest
  | _ => []

section Segments

variable {members : List (String × Json)} {trail : Trail} {v : Json}

theorem segments_ne_nil (h : SpotAt members trail (.leaf v)) : segments trail ≠ [] := by
  obtain ⟨i, key, w, rest, -, rfl, -⟩ := spotAt_iff.1 h
  rcases rest with _ | ⟨_ | _, rest⟩ <;> simp [segments]

theorem segments_field {i : Nat} {key : String} (h : SpotAt members trail (.leaf v)) :
    segments (.member i key :: trail) = key.toList :: segments trail := by
  obtain ⟨i', key', w, rest, -, rfl, -⟩ := spotAt_iff.1 h
  rfl

theorem intercalate_cons {s : List Char} {ss : List (List Char)} (h : ss ≠ []) :
    ['.'].intercalate (s :: ss) = s ++ '.' :: ['.'].intercalate ss := by
  obtain ⟨s', ss, rfl⟩ := List.exists_cons_of_ne_nil h
  simp [List.intercalate_cons_cons]

theorem toList_pathFrom (h : SpotAt members trail (.leaf v)) {path : String} (hpath : path ≠ "") :
    (trail.pathFrom path).toList = path.toList ++ '.' :: ['.'].intercalate (segments trail) := by
  induction h using SpotAt.leaf_induction generalizing path with
  | leaf => simp [Trail.pathFrom, Step.extend, hpath, segments]
  | @field _ _ i key _ _ h ih =>
    have hnext : (Step.member i key).extend path ≠ "" := by simp [Step.extend, hpath]
    rw [Trail.pathFrom_cons, ih hnext, segments_field h, intercalate_cons (segments_ne_nil h)]
    simp [Step.extend, hpath]
  | @element _ _ _ i j key _ _ _ _ h ih =>
    have hnext : (Step.item j).extend ((Step.member i key).extend path) ≠ "" := by
      simp [Step.extend]
    rw [Trail.pathFrom_cons, Trail.pathFrom_cons, ih hnext, segments,
      intercalate_cons (segments_ne_nil h)]
    simp [Step.extend, hpath]

theorem toList_path (hroot : ∀ inner, ("", .obj inner) ∉ members)
    (h : SpotAt members trail (.leaf v)) :
    trail.path.toList = ['.'].intercalate (segments trail) := by
  induction h using SpotAt.leaf_induction with
  | leaf => simp [Trail.path, Trail.pathFrom, Step.extend, segments]
  | @field _ inner i key _ hfield h =>
    have hkey : key ≠ "" := by
      rintro rfl
      exact hroot inner (List.mem_of_getElem? hfield)
    have hnext : (Step.member i key).extend "" ≠ "" := by simpa [Step.extend] using hkey
    rw [Trail.path, Trail.pathFrom_cons, toList_pathFrom h hnext, segments_field h,
      intercalate_cons (segments_ne_nil h)]
    simp [Step.extend]
  | @element _ _ _ i j key _ _ _ _ h =>
    have hnext : (Step.item j).extend ((Step.member i key).extend "") ≠ "" := by
      simp [Step.extend]
    rw [Trail.path, Trail.pathFrom_cons, Trail.pathFrom_cons, toList_pathFrom h hnext, segments,
      intercalate_cons (segments_ne_nil h)]
    simp [Step.extend]

theorem dot_not_mem_segments (hkeys : PlainKeys members) (h : SpotAt members trail (.leaf v)) :
    ∀ segment ∈ segments trail, '.' ∉ segment := by
  induction h using SpotAt.leaf_induction with
  | leaf hfield => simpa [segments] using (hkeys.plainKey hfield).1
  | field hfield h ih =>
    rw [segments_field h, List.forall_mem_cons]
    exact ⟨(hkeys.plainKey hfield).1, ih (hkeys.field hfield)⟩
  | @element _ _ _ _ j _ _ hfield hstart hitem h ih =>
    have hdigit : '.' ∉ Nat.toDigits 10 j := Literal.not_mem_digits j rfl
    rw [segments, List.forall_mem_cons]
    refine ⟨?_, ih (hkeys.element hfield hstart hitem)⟩
    simpa [hdigit] using (hkeys.plainKey hfield).1

theorem eq_of_position {k l : List Char} {i j : Nat}
    (h : k ++ '[' :: (Nat.toDigits 10 i ++ [']']) = l ++ '[' :: (Nat.toDigits 10 j ++ [']'])) :
    k = l ∧ i = j := by
  have hmark : ∀ n, '[' ∉ Nat.toDigits 10 n ++ [']'] := by
    intro n
    simpa using Literal.not_mem_digits n rfl
  obtain ⟨hkey, hdigits⟩ := Text.append_cons_inj (hmark i) (hmark j) h
  have hvalue := congrArg (Nat.ofDigitChars 10 · 0) (List.append_cancel_right hdigits)
  simp only [Nat.ofDigitChars_ten_toDigits] at hvalue
  exact ⟨hkey, hvalue⟩

theorem PlainKey.ne_position {key : String} (h : PlainKey key) (k : String) (j : Nat) :
    key.toList ≠ k.toList ++ '[' :: (Nat.toDigits 10 j ++ [']']) := by
  intro heq
  apply h.2 k j
  rw [← String.toList_inj, heq]
  simp

theorem eq_of_segments_eq (hkeys : PlainKeys members) {other : Trail} {w : Json}
    (h : SpotAt members trail (.leaf v)) (hother : SpotAt members other (.leaf w))
    (heq : segments trail = segments other) : trail = other ∧ v = w := by
  induction h using SpotAt.leaf_induction generalizing other with
  | leaf hfield =>
    cases hother using SpotAt.leaf_induction with
    | leaf hfield' =>
      have hkey := String.toList_inj.1 (List.cons.inj heq).1
      obtain ⟨rfl, rfl⟩ := hkeys.eq_of_getElem? hfield (hkey ▸ hfield')
      exact ⟨by rw [hkey], rfl⟩
    | field _ h' =>
      rw [segments_field h'] at heq
      exact absurd (List.cons.inj heq).2.symm (segments_ne_nil h')
    | element _ _ _ h' => exact absurd (List.cons.inj heq).2.symm (segments_ne_nil h')
  | field hfield h ih =>
    rw [segments_field h] at heq
    cases hother using SpotAt.leaf_induction with
    | leaf => exact absurd (List.cons.inj heq).2 (segments_ne_nil h)
    | field hfield' h' =>
      rw [segments_field h'] at heq
      obtain ⟨hkey, hrest⟩ := List.cons.inj heq
      have hkey := String.toList_inj.1 hkey
      obtain ⟨rfl, hvalue⟩ := hkeys.eq_of_getElem? hfield (hkey ▸ hfield')
      cases hvalue
      obtain ⟨rfl, rfl⟩ := ih (hkeys.field hfield) h' hrest
      exact ⟨by rw [hkey], rfl⟩
    | element hfield' =>
      exact absurd (List.cons.inj heq).1 ((hkeys.plainKey hfield).ne_position _ _)
  | element hfield hstart hitem h ih =>
    cases hother using SpotAt.leaf_induction with
    | leaf => exact absurd (List.cons.inj heq).2 (segments_ne_nil h)
    | field hfield' h' =>
      rw [segments_field h'] at heq
      exact absurd (List.cons.inj heq).1.symm ((hkeys.plainKey hfield').ne_position _ _)
    | element hfield' hstart' hitem' h' =>
      obtain ⟨hpart, hrest⟩ := List.cons.inj heq
      obtain ⟨hkey, rfl⟩ := eq_of_position hpart
      have hkey := String.toList_inj.1 hkey
      obtain ⟨rfl, hvalue⟩ := hkeys.eq_of_getElem? hfield (hkey ▸ hfield')
      cases hvalue
      cases hitem.symm.trans hitem'
      obtain ⟨rfl, rfl⟩ := ih (hkeys.element hfield hstart hitem) h' hrest
      exact ⟨by rw [hkey], rfl⟩

theorem eq_of_path_eq (hkeys : PlainKeys members) (hroot : ∀ inner, ("", .obj inner) ∉ members)
    {other : Trail} {w : Json} (h : SpotAt members trail (.leaf v))
    (hother : SpotAt members other (.leaf w)) (heq : trail.path = other.path) :
    trail = other ∧ v = w := by
  have hspelled : ['.'].intercalate (segments trail) = ['.'].intercalate (segments other) := by
    rw [← toList_path hroot h, ← toList_path hroot hother, heq]
  have hsplit := congrArg (List.splitOn '.') hspelled
  rw [List.splitOn_intercalate '.' (dot_not_mem_segments hkeys h) (segments_ne_nil h),
    List.splitOn_intercalate '.' (dot_not_mem_segments hkeys hother) (segments_ne_nil hother)]
    at hsplit
  exact eq_of_segments_eq hkeys h hother hsplit

end Segments

/--
The entry of an accepted sample holds one type for every path of a leaf: that of the last leaf with
the path. If the keys are plain and no object has the path of the root, then leaves differ in their
paths, so that the entry holds the type of each of them, and nothing else.
-/
theorem leaf_entries {t t' : Inferrer} {file : String} {members : List (String × Json)}
    (h : t.addValue file (.obj members) = (.ok (), t')) :
    ∃ entry, t'.samples = t.samples ++ [entry] ∧ entry.file = file ∧ entry.rootModel = t.model
      ∧ Table.Sorted entry.leaves
      ∧ (∀ path type, Table.find? path entry.leaves = some type
          ↔ ∃ trail v, LastLeaf members trail v ∧ trail.path = path ∧ (kindOf v).name = type)
      ∧ (PlainKeys members → (∀ inner, ("", .obj inner) ∉ members) →
          (∀ trail v other w, SpotAt members trail (.leaf v) → SpotAt members other (.leaf w) →
              trail.path = other.path → trail = other ∧ v = w)
            ∧ ∀ path type, Table.find? path entry.leaves = some type
              ↔ ∃ trail v, SpotAt members trail (.leaf v) ∧ trail.path = path
                ∧ (kindOf v).name = type) := by
  obtain ⟨-, -, rfl⟩ := Inferrer.addValue_eq_ok_iff.1 h
  refine ⟨Inferrer.entry t.model (file, .obj members), rfl, rfl, rfl, ?sorted,
    fun path type => find?_leaves_entry t.model file path type members, ?plain⟩
  case sorted =>
    rw [leaves_entry]
    exact Table.sorted_ofList _
  case plain =>
    intro hkeys hroot
    have hinj : ∀ trail v other w, SpotAt members trail (.leaf v) →
        SpotAt members other (.leaf w) → trail.path = other.path → trail = other ∧ v = w :=
      fun _ _ _ _ htrail hother => eq_of_path_eq hkeys hroot htrail hother
    refine ⟨hinj, fun path type => ?_⟩
    rw [find?_leaves_entry]
    -- No other leaf has the path, so each leaf is the last one with its path.
    have hlast : ∀ trail v, LastLeaf members trail v ↔ SpotAt members trail (.leaf v) := by
      intro trail v
      refine ⟨And.left, fun htrail => ⟨htrail, fun other w hother hpath hbefore => ?_⟩⟩
      obtain ⟨rfl, -⟩ := hinj _ _ _ _ hother htrail hpath
      exact hbefore.asymm hbefore
    simp only [hlast]

def nestedLeaves : List (String × Json) :=
  [("", .arr [.obj [("id", .int 1)]]),
    ("part", .arr [.null, .obj [("", .obj [("id", .null)]), ("sizes", .arr [.int 1, .obj []])]])]

theorem leaf_entries_of_nestedLeaves :
    ∃ t', Inferrer.addValue { model := "Base" } "a.json" (.obj nestedLeaves) = (.ok (), t')
      ∧ t'.samples.map (·.leaves)
        = [[("[0].id", "Int64"), ("part[1]..id", "Unknown"), ("part[1].sizes", "Int64")]]
      ∧ ∀ trail v other w, SpotAt nestedLeaves trail (.leaf v) →
        SpotAt nestedLeaves other (.leaf w) → trail.path = other.path → trail = other ∧ v = w := by
  have hadd : Inferrer.addValue { model := "Base" } "a.json" (.obj nestedLeaves)
      = (.ok (), (Inferrer.addValue { model := "Base" } "a.json" (.obj nestedLeaves)).2) := rfl
  have hkeys : PlainKeys nestedLeaves := .of_objectsIn (by decide) (by decide)
  have hroot : ∀ inner, ("", .obj inner) ∉ nestedLeaves := by simp [nestedLeaves]
  obtain ⟨entry, hsamples, -, -, -, -, hplain⟩ := leaf_entries hadd
  refine ⟨_, hadd, by decide, (hplain hkeys hroot).1⟩

theorem leaf_overwritten_below_empty_key :
    ∃ t t' members, Inferrer.new "base" = .ok t
      ∧ t.addValue "a.json" (.obj members) = (.ok (), t')
      ∧ members = [("", .obj [("a", .int 1)]), ("a", .str "x")]
      ∧ SpotAt members [.member 0 "", .member 0 "a"] (.leaf (.int 1))
      ∧ SpotAt members [.member 1 "a"] (.leaf (.str "x"))
      ∧ t'.samples.map (·.leaves) = [[("a", "String")]] := by
  refine ⟨{ model := "Base" }, _, _, rfl, rfl, rfl, ?nested, ?plain, by decide⟩
  case nested =>
    rw [← mem_spotsInMembers_zero_iff]
    simp [spotsInMembers, spotsInValue]
  case plain =>
    rw [← mem_spotsInMembers_zero_iff]
    simp [spotsInMembers, spotsInValue]

end Schema
end FixtureLab

import FixtureLab.Json.Fields
import FixtureLab.Proofs.Json.Reading

/-!
This module contains that the scalars, lists and fields of a record are read from their spelling,
and what is known of those that are read from any document.
-/

namespace FixtureLab
namespace Json

def IsInt64 (n : Int) : Prop := -2 ^ 63 ≤ n ∧ n < 2 ^ 63

instance (n : Int) : Decidable (IsInt64 n) := inferInstanceAs (Decidable (_ ∧ _))

namespace Raw

variable {α β : Type}

@[simp]
theorem string?_toRaw (s : String) : string? (Json.str s).toRaw = some s := by
  simp [toRaw, string?]

@[simp]
theorem bool?_toRaw (b : Bool) : bool? (Json.bool b).toRaw = some b := rfl

theorem int64?_toRaw {n : Int} (h : IsInt64 n) : int64? (Json.int n).toRaw = some n := by
  obtain ⟨hlow, hhigh⟩ := h
  have hfits : Literal.FitsWord n := ⟨hlow, by omega⟩
  simp [toRaw, int64?, Literal.number?_ofInt hfits]
  omega

theorem mapM_eq_some_map {read : α → Option β} {f : α → β} {as : List α}
    (h : ∀ a ∈ as, read a = some (f a)) : as.mapM read = some (as.map f) := by
  induction as with
  | nil => rfl
  | cons a as ih =>
    obtain ⟨ha, has⟩ := List.forall_mem_cons.1 h
    rw [List.mapM_cons, ha, ih has]
    rfl

theorem list?_toRaw {read : Raw → Option β} {toJson : α → Json} {f : α → β} {as : List α}
    (h : ∀ a ∈ as, read (toJson a).toRaw = some (f a)) :
    list? read (Json.arr (as.map toJson)).toRaw = some (as.map f) := by
  rw [toRaw, list?, rawItems_eq_map, List.map_map, List.mapM_map]
  exact mapM_eq_some_map h

@[simp]
theorem list?_strs (texts : List String) : list? string? (Json.strs texts).toRaw = some texts := by
  have h : list? string? (Json.strs texts).toRaw = some (texts.map id) :=
    list?_toRaw fun s _ => string?_toRaw s
  rwa [List.map_id] at h

theorem nullable?_of_eq_some {read : Raw → Option α} (hnull : read .null = none) {raw : Raw} {a : α}
    (h : read raw = some a) : nullable? read raw = some (some a) := by
  unfold nullable?
  split
  . rw [hnull] at h
    cases h
  . rw [h, Option.map_some]

theorem knownMembers?_rawMembers {names : List String} {members : List (String × Json)}
    (hnodup : (members.map (·.1)).Nodup) (hnames : ∀ m ∈ members, m.1 ∈ names) :
    knownMembers? names (rawMembers members) = some (members.map fun m => (m.1, m.2.toRaw)) := by
  induction members with
  | nil => rfl
  | cons m rest ih =>
    obtain ⟨hkey, hnodup⟩ := List.nodup_cons.1 hnodup
    obtain ⟨hname, hnames⟩ := List.forall_mem_cons.1 hnames
    -- The reader goes through the members from the end and asks whether the name occurred.
    have hnew : (rest.map fun m => (m.1, m.2.toRaw)).lookup m.1 = none := by
      rw [List.lookup_eq_none_iff]
      intro entry hentry
      obtain ⟨m', hm', rfl⟩ := List.mem_map.1 hentry
      have hne : m.1 ≠ m'.1 := fun heq =>
        hkey (List.mem_map.2 ⟨m', hm', heq.symm⟩)
      simpa using hne
    simp [rawMembers, knownMembers?, ih hnodup hnames, hname, hnew]

theorem fields?_obj {names : List String} {members : List (String × Json)}
    (hnodup : (members.map (·.1)).Nodup) (hnames : ∀ m ∈ members, m.1 ∈ names) (required : Nat) :
    fields? names required (Json.obj members).toRaw
      = some (members.map fun m => (m.1, m.2.toRaw)) :=
  knownMembers?_rawMembers hnodup hnames

/-! What is known of what is read -/

variable {read : Raw → Option α} {P : α → Prop} {raw : Raw}

theorem isInt64_of_int64? {n : Int} (h : int64? raw = some n) : IsInt64 n := by
  unfold int64? at h
  split at h
  . split at h
    . next n' hn =>
      split at h
      . next hlt =>
        cases h
        exact ⟨(Literal.fitsWord_of_number? hn).1, hlt⟩
      . cases h
    . cases h
  . cases h

theorem forall_of_nullable? {o : Option α} (h : nullable? read raw = some o)
    (hread : ∀ a, read raw = some a → P a) : ∀ a ∈ o, P a := by
  unfold nullable? at h
  split at h
  . cases h
    simp
  . obtain ⟨a, ha, rfl⟩ := Option.map_eq_some_iff.1 h
    simpa using hread a ha

theorem exists_of_mem_mapM {as : List Raw} {bs : List α} (h : as.mapM read = some bs) {b : α}
    (hb : b ∈ bs) : ∃ a ∈ as, read a = some b := by
  induction as generalizing bs with
  | nil =>
    cases h
    cases hb
  | cons a as ih =>
    simp only [List.mapM_cons, Option.bind_eq_bind, Option.bind_eq_some_iff] at h
    obtain ⟨b', hb', bs', hbs', heq⟩ := h
    cases heq
    rcases List.mem_cons.1 hb with rfl | hb
    . exact ⟨a, List.mem_cons_self, hb'⟩
    . obtain ⟨a', ha', hread⟩ := ih hbs' hb
      exact ⟨a', List.mem_cons_of_mem a ha', hread⟩

theorem forall_of_list? {as : List α} (h : list? read raw = some as)
    (hread : ∀ item a, (raw.floatFree → item.floatFree) → read item = some a → P a) :
    ∀ a ∈ as, P a := by
  unfold list? at h
  split at h
  . intro a ha
    obtain ⟨item, hitem, hread'⟩ := exists_of_mem_mapM h ha
    exact hread item a (fun hfree => floatFreeItems_iff.1 hfree item hitem) hread'
  . cases h

theorem mem_of_lookup_eq_some {fields : List (String × Raw)} {name : String} {v : Raw}
    (h : fields.lookup name = some v) : (name, v) ∈ fields := by
  obtain ⟨before, after, rfl, -⟩ := List.lookup_eq_some_iff.1 h
  simp

theorem forall_of_optional? {fields : List (String × Raw)} {name : String} {o : Option α}
    (h : optional? read fields name = some o)
    (hread : ∀ f ∈ fields, ∀ a, read f.2 = some a → P a) : ∀ a ∈ o, P a := by
  unfold optional? at h
  split at h
  . cases h
    simp
  . next v hv => exact forall_of_nullable? h (hread _ (mem_of_lookup_eq_some hv))

theorem mem_of_knownMembers? {names : List String} {members : List (List Piece × Raw)}
    {known : List (String × Raw)} (h : knownMembers? names members = some known) :
    ∀ f ∈ known, ∃ m ∈ members, m.2 = f.2 := by
  induction members generalizing known with
  | nil =>
    cases h
    simp
  | cons m rest ih =>
    simp only [knownMembers?] at h
    split at h
    . next key known' _ hknown =>
      have hrest : ∀ f ∈ known', ∃ m' ∈ m :: rest, m'.2 = f.2 := fun f hf => by
        obtain ⟨m', hm', heq⟩ := ih hknown f hf
        exact ⟨m', List.mem_cons_of_mem m hm', heq⟩
      split at h
      . split at h
        . cases h
        . cases h
          exact List.forall_mem_cons.2 ⟨⟨m, List.mem_cons_self, rfl⟩, hrest⟩
      . cases h
        exact hrest
    . cases h

theorem floatFree_of_fields? {names : List String} {required : Nat} {fields : List (String × Raw)}
    (h : fields? names required raw = some fields) (hfree : raw.floatFree) :
    ∀ f ∈ fields, f.2.floatFree := by
  intro f hf
  unfold fields? at h
  split at h
  . obtain ⟨m, hm, heq⟩ := mem_of_knownMembers? h f hf
    exact heq ▸ floatFreeMembers_iff.1 hfree m hm
  . split at h
    . cases h
      exact floatFreeItems_iff.1 hfree f.2 (List.of_mem_zip hf).2
    . cases h
  . cases h

end Raw
end Json
end FixtureLab

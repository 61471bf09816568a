import FixtureLab.Proofs.Schema.Merge

/-!
This module contains the outcome of merging in closed form. What becomes of a field can be read off
the sequence of its definitions: the first known one decides, except that a later float can widen
integers.
-/

namespace FixtureLab
namespace Schema

namespace Field

def improve (e f : Field) : Field := if f.refines e then f else e

def widening? (c : Field) (later : List Field) : Option Field :=
  later.find? fun f => f.kind = .float64 && f.isArray == c.isArray

def outcome? (shown : List Field) : Option Field :=
  match shown.dropWhile (·.kind = .unknown) with
  | [] => (shown.find? (·.isArray)).or shown.head?
  | c :: later => if c.kind = .int64 then (c.widening? later).or (some c) else some c

def rank (f : Field) : Nat :=
  match f.kind, f.isArray with
  | .unknown, false => 0
  | .unknown, true => 1
  | .int64, _ => 2
  | _, _ => 3

theorem rank_le (f : Field) : f.rank ≤ 3 := by
  unfold rank
  split <;> decide

theorem kind_eq_unknown_iff (f : Field) : f.kind = .unknown ↔ f.rank ≤ 1 := by
  obtain ⟨_, kind, _, isArray⟩ := f
  cases kind <;> cases isArray <;> simp [rank]

theorem rank_lt_of_refines {e f : Field} (h : f.refines e) : e.rank < f.rank := by
  obtain ⟨_, ekind, _, earray⟩ := e
  obtain ⟨_, fkind, _, farray⟩ := f
  cases ekind <;> cases fkind <;> cases earray <;> cases farray <;> simp_all [refines, rank]

theorem foldl_improve_of_final {e : Field} (hunknown : e.kind ≠ .unknown) (hint : e.kind ≠ .int64)
    (fs : List Field) : fs.foldl improve e = e := by
  induction fs with
  | nil => rfl
  | cons f fs ih =>
    have hkeep : ¬f.refines e := by simp [refines_iff, hunknown, hint]
    rw [List.foldl_cons, improve, if_neg hkeep, ih]

theorem foldl_improve_of_int64 {e : Field} (he : e.kind = .int64) (fs : List Field) :
    some (fs.foldl improve e) = (e.widening? fs).or (some e) := by
  induction fs with
  | nil => rfl
  | cons f fs ih =>
    have hrefines : f.refines e ↔ f.kind = .float64 ∧ f.isArray = e.isArray := by
      simp [refines_iff, he]
    rw [List.foldl_cons, improve, widening?, List.find?_cons]
    by_cases hf : f.kind = .float64 ∧ f.isArray = e.isArray
    . have hfinal := foldl_improve_of_final (e := f) (by simp [hf.1]) (by simp [hf.1]) fs
      rw [if_pos (hrefines.2 hf), hfinal]
      simp [hf]
    . have hskip : (decide (f.kind = .float64) && f.isArray == e.isArray) = false := by
        simpa using hf
      rw [if_neg (hrefines.not.2 hf), hskip, ih, widening?]

theorem foldl_improve_of_known {e : Field} (he : e.kind ≠ .unknown) (fs : List Field) :
    some (fs.foldl improve e)
      =
    if e.kind = .int64 then (e.widening? fs).or (some e) else some e := by
  split
  . next hint => exact foldl_improve_of_int64 hint fs
  . next hint => rw [foldl_improve_of_final he hint]

theorem foldl_improve (e : Field) (fs : List Field) :
    some (fs.foldl improve e) = outcome? (e :: fs) := by
  by_cases he : e.kind = .unknown
  . rw [outcome?, List.dropWhile_cons_of_pos (by simpa using he)]
    -- as long as nothing is known, only the first array can take the place of what came first
    induction fs generalizing e with
    | nil => simp [List.find?_cons]; split <;> rfl
    | cons f fs ih =>
      rw [List.foldl_cons, improve]
      by_cases hf : f.kind = .unknown
      . have hrefines : f.refines e ↔ f.isArray ∧ e.isArray = false := by
          simp [refines_iff, he, hf]
        rw [List.dropWhile_cons_of_pos (by simpa using hf)]
        by_cases harray : f.isArray ∧ e.isArray = false
        . rw [if_pos (hrefines.2 harray), ih f hf]
          cases fs.dropWhile (·.kind = .unknown) with
          | nil => simp [harray]
          | cons c later => rfl
        . rw [if_neg (hrefines.not.2 harray), ih e he]
          cases fs.dropWhile (·.kind = .unknown) with
          | nil => cases hearray : e.isArray <;> simp_all [List.find?_cons]
          | cons c later => rfl
      . have hrefines : f.refines e := by simp [refines_iff, he, hf]
        rw [if_pos hrefines, List.dropWhile_cons_of_neg (by simpa using hf)]
        exact foldl_improve_of_known hf fs
  . rw [outcome?, List.dropWhile_cons_of_neg (by simpa using he)]
    exact foldl_improve_of_known he fs

theorem outcome?_concat (shown : List Field) (f : Field) :
    outcome? (shown ++ [f]) = some (((outcome? shown).map (·.improve f)).getD f) := by
  cases shown with
  | nil => exact (foldl_improve f []).symm
  | cons e shown =>
    rw [List.cons_append, ← foldl_improve, ← foldl_improve, List.foldl_append]
    rfl

end Field

def named? (key : String) (fields : List Field) : Option Field := fields.find? (·.name = key)

namespace RecordType

theorem names_mergeField (fields : List Field) (f : Field) :
    (mergeField fields f).map (·.name)
      =
    if f.name ∈ fields.map (·.name) then fields.map (·.name)
    else fields.map (·.name) ++ [f.name] := by
  induction fields with
  | nil => rfl
  | cons e rest ih =>
    rw [mergeField]
    by_cases hname : e.name = f.name
    . have hkept : (if f.refines e then f else e).name = e.name := by
        split
        . exact hname.symm
        . rfl
      have hmem : f.name ∈ (e :: rest).map (·.name) := by simp [hname]
      rw [if_pos hname, if_pos hmem, List.map_cons, hkept, List.map_cons]
    . rw [if_neg hname, List.map_cons, ih, List.map_cons]
      by_cases hmem : f.name ∈ rest.map (·.name)
      . rw [if_pos hmem, if_pos (List.mem_cons_of_mem _ hmem)]
      . rw [if_neg hmem, if_neg (by simpa [Ne.symm hname] using hmem), List.cons_append]

theorem names_foldl_mergeField (shown : List Field) :
    (shown.foldl mergeField []).map (·.name) = (shown.map (·.name)).eraseDups := by
  induction shown using List.reverseRecOn with
  | nil => rfl
  | append_singleton shown f ih =>
    rw [List.foldl_append, List.foldl_cons, List.foldl_nil, names_mergeField, ih, List.map_append,
      List.map_singleton, Table.eraseDups_concat]
    simp only [List.mem_eraseDups]

theorem named?_mergeField (key : String) (fields : List Field) (f : Field) :
    named? key (mergeField fields f)
      =
    if f.name = key then some (((named? key fields).map (·.improve f)).getD f)
    else named? key fields := by
  unfold named?
  induction fields with
  | nil => simp [mergeField, List.find?_cons]; split <;> simp_all
  | cons e rest ih =>
    rw [mergeField]
    by_cases hname : e.name = f.name
    . have hkept : (if f.refines e then f else e).name = f.name := by
        split
        . rfl
        . exact hname
      rw [if_pos hname, List.find?_cons, List.find?_cons]
      by_cases hkey : f.name = key
      . simp [hkept, hname, hkey, Field.improve]
      . simp [hkept, hname, hkey]
    . rw [if_neg hname, List.find?_cons, List.find?_cons]
      by_cases hkey : e.name = key
      . have hne : f.name ≠ key := fun heq => hname (hkey.trans heq.symm)
        simp [hkey, hne]
      . simp only [hkey, decide_false]
        exact ih

theorem named?_foldl_mergeField (key : String) (shown : List Field) :
    named? key (shown.foldl mergeField []) = Field.outcome? (shown.filter (·.name = key)) := by
  induction shown using List.reverseRecOn with
  | nil => rfl
  | append_singleton shown f ih =>
    rw [List.foldl_append, List.foldl_cons, List.foldl_nil, named?_mergeField, ih,
      List.filter_append]
    by_cases hkey : f.name = key
    . rw [if_pos hkey, List.filter_cons_of_pos (by simpa using hkey), List.filter_nil,
        Field.outcome?_concat]
    . rw [if_neg hkey, List.filter_cons_of_neg (by simpa using hkey), List.filter_nil,
        List.append_nil]

theorem foldl_merge (t : RecordType) (types : List RecordType) :
    types.foldl merge t
      =
    { t with fields := (types.flatMap (·.fields)).foldl mergeField t.fields } := by
  induction types generalizing t with
  | nil => rfl
  | cons other types ih => rw [List.foldl_cons, ih, List.flatMap_cons, List.foldl_append]; rfl

theorem nodup_names_foldl_mergeField (shown : List Field) :
    ((shown.foldl mergeField []).map (·.name)).Nodup := by
  have hempty : Settles [] [] := .of_nodup List.nodup_nil
  exact (hempty.foldl_mergeField shown).nodup

theorem foldl_mergeField_of_subset {fields : List Field} (hnodup : (fields.map (·.name)).Nodup)
    {more : List Field} (hmore : ∀ f ∈ more, f ∈ fields) :
    more.foldl mergeField fields = fields := by
  induction more with
  | nil => rfl
  | cons f more ih =>
    obtain ⟨hf, hmore⟩ := List.forall_mem_cons.1 hmore
    have hkeep : ∀ e ∈ fields, (if e.name = f.name ∧ f.refines e then f else e) = e := by
      intro e he
      split
      . next h => exact List.inj_on_of_nodup_map hnodup hf he h.1.symm
      . rfl
    rw [List.foldl_cons, mergeField_of_mem hnodup (List.mem_map_of_mem hf),
      (List.map_congr_left hkeep).trans (List.map_id' fields)]
    exact ih hmore

end RecordType

def Grows (before after : List Field) : Prop :=
  ∀ key e, named? key before = some e →
    ∃ f, named? key after = some f ∧ (f = e ∨ e.rank < f.rank)

namespace Grows

theorem refl (fields : List Field) : Grows fields fields := fun _ e he => ⟨e, he, .inl rfl⟩

theorem trans {a b c : List Field} (h : Grows a b) (h' : Grows b c) : Grows a c := by
  intro key e he
  obtain ⟨f, hf, hef⟩ := h key e he
  obtain ⟨g, hg, hfg⟩ := h' key f hf
  refine ⟨g, hg, ?_⟩
  rcases hef with rfl | hef
  . exact hfg
  . exact .inr (hfg.elim (fun heq => heq ▸ hef) (Nat.lt_trans hef))

theorem mergeField (fields : List Field) (f : Field) :
    Grows fields (RecordType.mergeField fields f) := by
  intro key e he
  rw [RecordType.named?_mergeField, he]
  split
  . refine ⟨e.improve f, rfl, ?_⟩
    unfold Field.improve
    split
    . next hrefines => exact .inr (Field.rank_lt_of_refines hrefines)
    . exact .inl rfl
  . exact ⟨e, rfl, .inl rfl⟩

theorem foldl_mergeField (fields more : List Field) :
    Grows fields (more.foldl RecordType.mergeField fields) := by
  induction more generalizing fields with
  | nil => exact refl fields
  | cons f more ih => exact (mergeField fields f).trans (ih _)

end Grows

theorem of_mem_scanl {α : Type} {R : α → α → Prop} {β : Type} {f : α → β → α} (hrefl : ∀ a, R a a)
    (htrans : ∀ a b c, R a b → R b c → R a c) (hstep : ∀ a b, R a (f a b)) {bs : List β} {a x : α}
    (hx : x ∈ bs.scanl f a) : R a x := by
  induction bs generalizing a with
  | nil =>
    rw [List.scanl_nil, List.mem_singleton] at hx
    exact hx ▸ hrefl a
  | cons b bs ih =>
    rw [List.scanl_cons, List.mem_cons] at hx
    rcases hx with rfl | hx
    . exact hrefl x
    . exact htrans _ _ _ (hstep a b) (ih hx)

theorem pairwise_scanl {α : Type} {R : α → α → Prop} {β : Type} {f : α → β → α}
    (hrefl : ∀ a, R a a) (htrans : ∀ a b c, R a b → R b c → R a c) (hstep : ∀ a b, R a (f a b))
    (bs : List β) (a : α) : (bs.scanl f a).Pairwise R := by
  induction bs generalizing a with
  | nil => simp
  | cons b bs ih =>
    rw [List.scanl_cons, List.pairwise_cons]
    refine ⟨fun x hx => ?_, ih (f a b)⟩
    exact htrans _ _ _ (hstep a b) (of_mem_scanl hrefl htrans hstep hx)

def changes {α : Type} [DecidableEq α] : List α → Nat
  | a :: b :: rest => (if a = b then 0 else 1) + changes (b :: rest)
  | _ => 0

theorem changes_add_rank_le {e : Field} {fs : List Field}
    (h : (e :: fs).Pairwise fun e f => f = e ∨ e.rank < f.rank) :
    changes (e :: fs) + e.rank ≤ 3 := by
  induction fs generalizing e with
  | nil => simpa [changes] using e.rank_le
  | cons f fs ih =>
    obtain ⟨hhead, htail⟩ := List.pairwise_cons.1 h
    have hrest := ih htail
    rw [changes]
    rcases hhead f List.mem_cons_self with rfl | hlt
    . simpa using hrest
    . split <;> omega

structure Progresses (key : String) (states : List (List Field)) : Prop where
  known : states.Pairwise fun before after => ∀ e, named? key before = some e →
    ∃ f, named? key after = some f ∧ (e.kind ≠ .unknown → f.kind ≠ .unknown)
  changes_le : changes (states.filterMap (named? key)) ≤ 3

theorem progresses_of_grows {states : List (List Field)} (h : states.Pairwise Grows)
    (key : String) : Progresses key states := by
  constructor
  . refine h.imp fun hgrows e he => ?_
    obtain ⟨f, hf, hef⟩ := hgrows key e he
    refine ⟨f, hf, fun hknown => ?_⟩
    rcases hef with rfl | hlt
    . exact hknown
    . rw [Ne, Field.kind_eq_unknown_iff] at hknown ⊢
      omega
  . have hcourse : (states.filterMap (named? key)).Pairwise fun e f => f = e ∨ e.rank < f.rank := by
      refine List.Pairwise.filterMap _ (fun before after hgrows e he f hf => ?_) h
      obtain ⟨g, hg, heg⟩ := hgrows key e he
      cases Option.some.inj (hg.symm.trans hf)
      exact heg
    cases hcases : states.filterMap (named? key) with
    | nil => simp [changes]
    | cons e fs =>
      have hle := changes_add_rank_le (hcases ▸ hcourse)
      omega

/--
Merging types comes to one definition a field, in the order in which the fields were first shown. It
is the one that the field's definitions come to in closed form.
-/
theorem merged_in_closed_form (name : String) (types : List RecordType) :
    let shown := types.flatMap (·.fields)
    let merged := types.foldl RecordType.merge { name }
    merged.name = name
    ∧ merged.fields.map (·.name) = (shown.map (·.name)).eraseDups
    ∧ (∀ key, merged.field? key = Field.outcome? (shown.filter (·.name = key)))
    ∧ merged.merge merged = merged
    ∧ ∀ key,
      Progresses key ((types.scanl RecordType.merge { name }).map (·.fields))
      ∧ Progresses key (shown.scanl RecordType.mergeField []) := by
  intro shown merged
  have hmerged : merged = { name, fields := shown.foldl RecordType.mergeField [] } :=
    RecordType.foldl_merge _ types
  rw [hmerged]
  refine ⟨rfl, RecordType.names_foldl_mergeField shown,
    fun key => RecordType.named?_foldl_mergeField key shown, ?_, fun key => ⟨?_, ?_⟩⟩
  . rw [RecordType.merge]
    have hself := RecordType.foldl_mergeField_of_subset
      (RecordType.nodup_names_foldl_mergeField shown) fun _ hf => hf
    rw [hself]
  . apply progresses_of_grows
    rw [List.pairwise_map]
    refine pairwise_scanl (fun t => .refl t.fields) (fun _ _ _ => .trans) (fun t other => ?_)
      types _
    exact Grows.foldl_mergeField t.fields other.fields
  . apply progresses_of_grows
    exact pairwise_scanl .refl (fun _ _ _ => .trans) .mergeField shown []

end Schema
end FixtureLab

import FixtureLab.Catalog.Scenarios
import FixtureLab.Proofs.Registry.Family
import FixtureLab.Proofs.Registry.Memo

/-!
This module contains the proof that the catalog does not depend on the order in which its groups are
registered, on registrations that fail, or on what is registered besides.
-/

namespace FixtureLab
namespace Catalog

open Registry (Build Error Recipe SelfContained)

def entries : List (Entry Unit) := Group.catalog.entries

def ids : List String := entries.map (·.1)

theorem nodup_ids : ids.Nodup := by decide

theorem Group.entries_subset (g : Group) : g.entries ⊆ Catalog.entries := by
  intro entry hmem
  unfold Catalog.entries
  cases g with
  | catalog => exact hmem
  | _ =>
    simp only [Group.entries, List.mem_append] at hmem ⊢
    simp [hmem]

theorem exists_group {entry : Entry Unit} (hmem : entry ∈ entries) :
    ∃ g : Group, g ≠ .catalog ∧ entry ∈ g.entries := by
  unfold entries at hmem
  simp only [Group.entries, List.mem_append] at hmem
  rcases hmem with ((((hmem | hmem) | hmem) | hmem) | hmem) | hmem
  . exact ⟨.android, by decide, hmem⟩
  . exact ⟨.ios, by decide, hmem⟩
  . exact ⟨.hairStyle, by decide, hmem⟩
  . exact ⟨.friends, by decide, hmem⟩
  . exact ⟨.device, by decide, hmem⟩
  . exact ⟨.base, by decide, hmem⟩

inductive Step where
  | group (g : Group)
  | other (id : String) (builder : Build Unit Fixture Fixture) (h : id ∉ ids)

def Step.run : Step → Registry Unit Fixture → Except Error Unit × Registry Unit Fixture
  | .group g, r => register r g
  | .other id builder _, r => r.register id builder

def runSteps (r : Registry Unit Fixture) (steps : List Step) : Registry Unit Fixture :=
  steps.foldl (fun r step => (step.run r).2) r

def Succeeds (r : Registry Unit Fixture) (steps : List Step) (g : Group) : Prop :=
  ∃ before after,
    steps = before ++ .group g :: after ∧ (register (runSteps r before) g).1.isOk

/--
The value and the record of a fixture are those that the complete catalog has for it, and what the
record leads to is registered.
-/
def AsInCatalog (r : Registry Unit Fixture) (id : String) : Prop :=
  ∃ v record,
    r.get id = .ok v ∧ (catalog .overwrite).2.get id = .ok v ∧
    r.store.find? id = some record ∧ (catalog .overwrite).2.store.find? id = some record ∧
    ∀ target ∈ record.targets, r.contains target

theorem runSteps_append (r : Registry Unit Fixture) (steps steps' : List Step) :
    runSteps r (steps ++ steps') = runSteps (runSteps r steps) steps' := List.foldl_append

variable {r : Registry Unit Fixture} {id : String} {builder : Build Unit Fixture Fixture}

section Preserved

variable {P : Registry Unit Fixture → Prop}

theorem registerAll_preserves {es : List (Entry Unit)}
    (h : ∀ entry ∈ es, ∀ r, P r → P (r.register entry.1 entry.2).2) (hr : P r) :
    P (registerAll r es).2 := by
  induction es generalizing r with
  | nil => exact hr
  | cons entry rest ih =>
    obtain ⟨hentry, hrest⟩ := List.forall_mem_cons.1 h
    have hnext := hentry r hr
    rw [registerAll]
    split
    . next hregister =>
      rw [hregister] at hnext
      exact ih hrest hnext
    . next hregister =>
      rw [hregister] at hnext
      exact hnext

theorem runSteps_preserves
    (h : ∀ id builder, (id, builder) ∈ entries ∨ id ∉ ids → ∀ r, P r → P (r.register id builder).2)
    (hr : P r) (steps : List Step) : P (runSteps r steps) := by
  induction steps generalizing r with
  | nil => exact hr
  | cons step rest ih =>
    apply ih
    cases step with
    | group g =>
      exact registerAll_preserves (fun entry hmem => h _ _ (.inl (g.entries_subset hmem))) hr
    | other id builder hid => exact h id builder (.inr hid) r hr

end Preserved

theorem settled_runSteps (policy : DuplicatePolicy) (steps : List Step) :
    (runSteps (Registry.start policy ()) steps).Settled :=
  runSteps_preserves (fun id builder _ _ h => h.run (.register id builder))
    (Registry.settled_start policy ()) steps

theorem settled_contains_register {x : String} (h : r.Settled ∧ r.contains x) :
    (r.register id builder).2.Settled ∧ (r.register id builder).2.contains x :=
  ⟨h.1.run (.register id builder), Registry.contains_run h.1 (.register id builder) h.2⟩

theorem contains_of_registerAll_ok (h : r.Settled) {es : List (Entry Unit)}
    (hok : (registerAll r es).1.isOk) : ∀ entry ∈ es, (registerAll r es).2.contains entry.1 := by
  induction es generalizing r with
  | nil => exact List.forall_mem_nil _
  | cons entry rest ih =>
    have hsettled : (r.register entry.1 entry.2).2.Settled := h.run (.register entry.1 entry.2)
    rw [registerAll] at hok ⊢
    cases hregister : r.register entry.1 entry.2 with
    | mk result r' =>
      rw [hregister] at hok hsettled
      cases result with
      | error e => cases hok
      | ok _ =>
        have hin := h.contains_register (congrArg Prod.fst hregister)
        rw [hregister] at hin
        have hkept : (registerAll r' rest).2.Settled ∧ (registerAll r' rest).2.contains entry.1 :=
          registerAll_preserves (P := fun r => r.Settled ∧ r.contains entry.1)
            (fun _ _ _ h => settled_contains_register h) ⟨hsettled, hin⟩
        exact List.forall_mem_cons.2 ⟨hkept.2, ih hsettled hok⟩

theorem Succeeds.contains {policy : DuplicatePolicy} {steps : List Step} {g : Group}
    (h : Succeeds (Registry.start policy ()) steps g) {entry : Entry Unit}
    (hmem : entry ∈ g.entries) : (runSteps (Registry.start policy ()) steps).contains entry.1 := by
  obtain ⟨before, after, rfl, hok⟩ := h
  have hin := contains_of_registerAll_ok (settled_runSteps policy before) hok entry hmem
  have hsettled := settled_runSteps policy (before ++ [.group g])
  have hsplit : before ++ Step.group g :: after = (before ++ [.group g]) ++ after := by simp
  rw [hsplit, runSteps_append]
  rw [runSteps_append] at hsettled ⊢
  exact (runSteps_preserves (P := fun r => r.Settled ∧ r.contains entry.1)
    (fun _ _ _ _ h => settled_contains_register h) ⟨hsettled, hin⟩ after).2

theorem catalog_eq :
    (catalog .overwrite).2 = runSteps (Registry.start .overwrite ()) [.group .catalog] := by
  unfold catalog runSteps Step.run Registry.start
  rfl

theorem contains_catalog (hid : id ∈ ids) :
    (runSteps (Registry.start .overwrite ()) [.group .catalog]).contains id := by
  have hsucceeds : Succeeds (Registry.start .overwrite ()) [.group .catalog] .catalog :=
    ⟨[], [], rfl, by decide +kernel⟩
  obtain ⟨entry, hmem, rfl⟩ := List.mem_map.1 hid
  exact hsucceeds.contains hmem

theorem isPureWithin_of_mem :
    ∀ entry ∈ entries, Build.IsPureWithin (· ∈ ids) entry.1 entry.2 := by
  unfold entries
  simp only [Group.entries, List.forall_mem_append]
  refine ⟨⟨⟨⟨⟨?android, ?ios⟩, ?hairStyle⟩, ?friends⟩, ?device⟩, ?base⟩
  case android | ios | hairStyle =>
    simp only [androidEntries, iosEntries, hairStyleEntries, List.forall_mem_singleton]
    exact .pure _
  case friends =>
    simp only [friendsEntries, List.forall_mem_cons]
    exact ⟨.pure _, .pure _, .fetchAs (by decide) fun _ => .pure _, .pure _, List.forall_mem_nil _⟩
  case device =>
    simp only [deviceEntries, List.forall_mem_cons]
    exact ⟨.fetchAs (by decide) fun _ => .fetchAs (by decide) fun _ => .pure _, .pure _,
      List.forall_mem_nil _⟩
  case base =>
    simp only [baseEntries, List.forall_mem_cons]
    refine ⟨?test01, ?test02, ?test03, ?test04, ?test05, ?test06, List.forall_mem_nil _⟩
    case test01 | test04 =>
      exact .fetchAs (by decide) fun _ => .fetchAs (by decide) fun _ =>
        .fetchAs (by decide) fun _ => .fetchAs (by decide) fun _ => .pure _
    case test02 => exact .fetchAs (by decide) fun _ => .fetchAs (by decide) fun _ => .pure _
    case test03 | test05 => exact .fetchAs (by decide) fun _ => .pure _
    case test06 => exact .pure _

structure IsBook (book : String → Option (Recipe Fixture)) : Prop where
  selfContained : SelfContained book
  isSome_iff : ∀ id, (book id).isSome ↔ id ∈ ids
  follows : ∀ entry ∈ entries, ∀ recipe, book entry.1 = some recipe →
    Build.Follows entry.1 entry.2 recipe

theorem exists_isBook : ∃ book, IsBook book := by
  obtain ⟨book, hself, hknown, hfollows⟩ :=
    Registry.exists_selfContained nodup_ids isPureWithin_of_mem
  exact ⟨book, hself, hknown, hfollows⟩

namespace IsBook

variable {book : String → Option (Recipe Fixture)}

theorem trueTo_runSteps (hbook : IsBook book) (policy : DuplicatePolicy) (steps : List Step) :
    (runSteps (Registry.start policy ()) steps).TrueTo book := by
  have hinv := runSteps_preserves (P := fun r => r.Settled ∧ r.TrueTo book) ?_
    ⟨Registry.settled_start policy (), Registry.trueTo_start policy () book⟩ steps
  . exact hinv.2
  intro id builder hstep r ⟨hsettled, htrue⟩
  refine ⟨hsettled.run (.register id builder), ?_⟩
  refine htrue.register hsettled hbook.selfContained fun recipe hrecipe => ?_
  rcases hstep with hmem | hid
  . exact hbook.follows _ hmem recipe hrecipe
  . exact absurd ((hbook.isSome_iff id).1 (by simp [hrecipe])) hid

theorem asInCatalog (hbook : IsBook book) {policy : DuplicatePolicy} {steps : List Step}
    (hid : id ∈ ids) (hin : (runSteps (Registry.start policy ()) steps).contains id) :
    AsInCatalog (runSteps (Registry.start policy ()) steps) id := by
  have hknown : (book id).isSome := (hbook.isSome_iff id).2 hid
  have hsettled := settled_runSteps policy steps
  obtain ⟨v, t, hmakes, hget, hrecord⟩ :=
    (hbook.trueTo_runSteps policy steps).exists_entry hsettled hknown hin
  obtain ⟨w, u, hmakes', hget', hrecord'⟩ :=
    (hbook.trueTo_runSteps .overwrite [.group .catalog]).exists_entry
      (settled_runSteps .overwrite [.group .catalog]) hknown (contains_catalog hid)
  obtain ⟨rfl, rfl⟩ := hmakes.unique hmakes'
  rw [← catalog_eq] at hget' hrecord'
  refine ⟨v, _, hget, hget', hrecord, hrecord', fun target htarget => ?_⟩
  have hstored := hsettled.closed id target ⟨_, hrecord, htarget⟩
  rw [Graph.Store.isSome_find?_iff, hsettled.mem_store] at hstored
  exact Registry.contains_iff_mem_ids.2 hstored

end IsBook

theorem catalog_in_any_order (policy : DuplicatePolicy) (steps : List Step) :
    let r := runSteps (Registry.start policy ()) steps
    (∀ id ∈ ids, r.contains id → AsInCatalog r id) ∧
    ((∀ g, g ≠ .catalog → Succeeds (Registry.start policy ()) steps g) →
      ∀ id ∈ ids, AsInCatalog r id) := by
  obtain ⟨book, hbook⟩ := exists_isBook
  refine ⟨fun id hid hin => hbook.asInCatalog hid hin, fun hall id hid => ?_⟩
  apply hbook.asInCatalog hid
  obtain ⟨entry, hmem, rfl⟩ := List.mem_map.1 hid
  obtain ⟨g, hg, hentry⟩ := exists_group hmem
  exact (hall g hg).contains hentry

def copyOf (id : String) : Build Unit Fixture Fixture := do
  let data ← friends .parent id
  return .friends data

def disorder : List Step :=
  [.group .base, .other "Copy" (copyOf "Test02Friends2") (by decide), .group .device,
    .group .friends, .group .ios, .other "Copy" (copyOf "Test02Friends2") (by decide),
    .group .hairStyle, .group .android, .group .device, .group .friends, .group .base]

theorem catalog_in_disorder :
    AsInCatalog (runSteps (Registry.start .reject ()) (disorder.take 4)) "Test02Friends2" ∧
    ∀ id ∈ ids, AsInCatalog (runSteps (Registry.start .overwrite ()) disorder) id := by
  constructor
  . exact (catalog_in_any_order .reject (disorder.take 4)).1 "Test02Friends2" (by decide)
      (by decide +kernel)
  . apply (catalog_in_any_order .overwrite disorder).2
    intro g hg
    cases g with
    | android => exact ⟨disorder.take 7, disorder.drop 8, rfl, by decide +kernel⟩
    | ios => exact ⟨disorder.take 4, disorder.drop 5, rfl, by decide +kernel⟩
    | hairStyle => exact ⟨disorder.take 6, disorder.drop 7, rfl, by decide +kernel⟩
    | friends => exact ⟨disorder.take 3, disorder.drop 4, rfl, by decide +kernel⟩
    | device => exact ⟨disorder.take 8, disorder.drop 9, rfl, by decide +kernel⟩
    | base => exact ⟨disorder.take 10, [], rfl, by decide +kernel⟩
    | catalog => exact absurd rfl hg

end Catalog
end FixtureLab

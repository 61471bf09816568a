import FixtureLab.Proofs.Registry.Operation
import FixtureLab.Proofs.Text.ByteOrder

/-!
This module contains the invariant of a registry between the operations of its caller: nothing is
running or staged, the builders, the kept values and the records belong to the same identifiers, and
the edges of the records lead to recorded fixtures.
-/

namespace FixtureLab
namespace Registry

open FixtureLab.Graph (Edge Record Store)

variable {σ V : Type}

structure Settled (r : Registry σ V) : Prop where
  idle : r.Idle
  sorted : Table.Sorted r.builders
  mem_memo : ∀ id, id ∈ r.memo.keys ↔ id ∈ r.ids
  store_sorted : Table.Sorted r.store.table
  mem_store : ∀ id, id ∈ r.store.table.keys ↔ id ∈ r.ids
  keyed : r.store.Keyed
  closed : r.store.Closed
  ne_empty : "" ∉ r.ids

theorem settled_start (policy : DuplicatePolicy) (s : σ) :
    (start policy s : Registry σ V).Settled where
  idle := ⟨rfl, rfl⟩
  sorted := Table.sorted_nil
  mem_memo := fun _ => Iff.rfl
  store_sorted := Table.sorted_nil
  mem_store := fun _ => Iff.rfl
  keyed := by intro entry h; cases h
  closed := by rintro id target ⟨r, hr, _⟩; cases hr
  ne_empty := by intro h; cases h

theorem mem_ids_bound {r : Registry σ V} {id x : String} {builder : Build σ V V} :
    x ∈ (r.bound id builder).ids ↔ x = id ∨ x ∈ r.ids := Table.mem_keys_insert

theorem Idle.sound_registration {r : Registry σ V} (h : r.Idle) (id : String)
    (builder : Build σ V V) (edge : Edge) :
    ((r.registration id builder).toTrace edge).Sound (r.bound id builder).ids [] := by
  have hsound := sound_execution (traced_fetchWithin (r.bound id builder).size)
    (sound_traceWithin (r.bound id builder).size) edge (h.resolve_bound id builder)
  have hrunning : (r.bound id builder).running = [] := by simp [running, bound, h.stack_eq]
  rw [hrunning] at hsound
  exact hsound

theorem Settled.isSome_find?_insertAll {r : Registry σ V} (h : r.Settled) {id : String}
    {builder : Build σ V V} (hexec : (r.registration id builder).succeeded) (x : String) :
    ((r.store.insertAll (Execution.records (r.registration id builder).all)).find? x).isSome
      ↔
    x ∈ (r.bound id builder).ids := by
  have hsound := h.idle.sound_registration id builder .child
  rw [Store.isSome_find?_insertAll, Store.isSome_find?_iff, h.mem_store, mem_ids_bound]
  rw [← Trace.records_toTrace _ .child]
  constructor
  . rintro (hx | hx)
    . exact mem_ids_bound.1 (hsound.known_of_mem_built hx)
    . exact Or.inr hx
  . rintro (rfl | hx)
    . refine Or.inl (List.mem_map.2 ⟨(r.registration x builder).record, ?_, rfl⟩)
      rw [Trace.records_toTrace, Trace.records_all]
      simp [hexec]
    . exact Or.inr hx

theorem Settled.withShared {r : Registry σ V} (h : r.Settled) (s : σ) : (r.withShared s).Settled :=
  ⟨⟨h.idle.stack_eq, h.idle.staged_eq⟩, h.sorted, h.mem_memo, h.store_sorted, h.mem_store, h.keyed,
    h.closed, h.ne_empty⟩

theorem Settled.run {r : Registry σ V} (h : r.Settled) (op : Operation σ V) :
    (op.run r).2.Settled := by
  have hcases := run_cases h.idle h.sorted op
  generalize op.executions r = es at hcases
  generalize (op.run r).2 = r' at hcases ⊢
  cases hcases with
  | kept op s => exact h.withShared s
  | registered id builder v s hid hexec =>
    refine ⟨⟨h.idle.stack_eq, h.idle.staged_eq⟩, Table.sorted_insert h.sorted id builder, ?_,
      Store.sorted_insertAll h.store_sorted _, ?_, h.keyed.insertAll _, ?_, ?_⟩
    . intro x
      rw [Table.mem_keys_insert, h.mem_memo]
      exact mem_ids_bound.symm
    . intro x
      rw [← Store.isSome_find?_iff, h.isSome_find?_insertAll hexec]
      rfl
    . apply h.closed.insertAll
      rw [← Trace.records_toTrace _ .child]
      intro record hrecord x hx
      exact Trace.mem_built_of_mem_targets hrecord hx
    . intro hmem
      rcases mem_ids_bound.1 hmem with heq | hmem
      . exact hid heq.symm
      . exact h.ne_empty hmem

theorem settled_runAll (policy : DuplicatePolicy) (s : σ) (ops : List (Operation σ V)) :
    ((start policy s).runAll ops).Settled :=
  runAll_preserves (fun _ op h => h.run op) (settled_start policy s) ops

structure Consistent (r : Registry σ V) : Prop where
  stack_eq : r.stack = []
  staged_eq : r.staged = []
  fetch_eq : ∀ edge id, fetch edge id r = (.error (.noActiveFrame id), r)
  isOk_get_iff : ∀ id, (r.get id).isOk ↔ r.contains id
  isSome_record_iff : ∀ id, (r.store.find? id).isSome ↔ r.contains id
  mem_ids_iff : ∀ id, id ∈ r.ids ↔ r.contains id
  records_ids : r.records.map (·.id) = r.ids
  ascending : r.ids.Pairwise fun a b => Text.utf8 a < Text.utf8 b
  ne_empty : ∀ id, r.contains id → id ≠ ""
  record_id : ∀ id record, r.store.find? id = some record → record.id = id
  closed : ∀ id record, r.store.find? id = some record →
    ∀ target ∈ record.targets, (r.store.find? target).isSome ∧ r.contains target

theorem consistent_runAll (policy : DuplicatePolicy) (s : σ) (ops : List (Operation σ V)) :
    ((start policy s).runAll ops).Consistent := by
  have h := settled_runAll policy s ops
  generalize (start policy s).runAll ops = r at h
  have hcontains : ∀ id, r.contains id ↔ id ∈ r.ids := fun id => Table.find?_isSome_iff
  have hrecorded : ∀ id, (r.store.find? id).isSome ↔ id ∈ r.ids := fun id =>
    Store.isSome_find?_iff.trans (h.mem_store id)
  have hkept : ∀ id, (r.get id).isOk ↔ id ∈ r.ids := by
    intro id
    rw [← h.mem_memo, ← Table.find?_isSome_iff]
    unfold get
    cases Table.find? id r.memo <;> simp [Except.isOk, Except.toBool]
  refine ⟨h.idle.stack_eq, h.idle.staged_eq, h.idle.fetch_eq, ?_, ?_, ?_, ?_, ?_, ?_, ?_, ?_⟩
  . intro id
    rw [hkept, hcontains]
  . intro id
    rw [hrecorded, hcontains]
  . exact fun id => (hcontains id).symm
  . exact h.keyed.ids_eq.trans (Table.keys_eq_of_mem_iff h.store_sorted h.sorted h.mem_store)
  . exact (List.pairwise_map.2 h.sorted).imp Text.utf8_lt_utf8
  . intro id hid heq
    exact h.ne_empty (heq ▸ (hcontains id).1 hid)
  . exact fun id record => h.keyed.id_eq
  . intro id record hrecord target htarget
    have hclosed := h.closed id target ⟨record, hrecord, htarget⟩
    exact ⟨hclosed, (hcontains target).2 ((hrecorded target).1 hclosed)⟩

end Registry
end FixtureLab

import FixtureLab.Proofs.Registry.Invariant

/-!
This module contains the history of a registry and the proof that the record of a fixture is that of
its last successful run.
-/

namespace FixtureLab
namespace Registry

open FixtureLab.Graph (Edge Record Store)

namespace Execution

def lastSuccess (id : String) (es : List Execution) : Option Execution :=
  (es.filter fun e => e.succeeded && e.id = id).getLast?

@[simp]
theorem lastSuccess_nil (id : String) : lastSuccess id [] = none := rfl

theorem lastSuccess_append (id : String) (es es' : List Execution) :
    lastSuccess id (es ++ es') = (lastSuccess id es').or (lastSuccess id es) := by
  unfold lastSuccess
  rw [List.filter_append, List.getLast?_append]

theorem id_eq_of_lastSuccess {id : String} {es : List Execution} {e : Execution}
    (h : lastSuccess id es = some e) : e.id = id := by
  have hmem := List.mem_filter.1 (List.mem_of_getLast? h)
  simp only [Bool.and_eq_true, decide_eq_true_eq] at hmem
  exact hmem.2.2

theorem getLast?_filter_records (id : String) (es : List Execution) :
    ((records es).filter (·.id = id)).getLast? = (lastSuccess id es).map record := by
  unfold records lastSuccess
  rw [List.filter_map, List.filter_filter, List.getLast?_map]
  congr 3
  funext e
  exact Bool.and_comm _ _

end Execution

variable {σ V : Type}

def history : List (Operation σ V) → Registry σ V → List Execution
  | [], _ => []
  | op :: ops, r => op.executions r ++ history ops (op.run r).2

theorem Settled.find?_store_run {r : Registry σ V} (h : r.Settled) (op : Operation σ V)
    (id : String) :
    (op.run r).2.store.find? id
      =
    ((Execution.lastSuccess id (op.executions r)).map Execution.record).or (r.store.find? id) := by
  have hcases := run_cases h.idle h.sorted op
  generalize op.executions r = es at hcases ⊢
  generalize (op.run r).2 = r' at hcases ⊢
  cases hcases with
  | kept op s => simp [Registry.withShared]
  | registered id' builder v s _ _ =>
    rw [Store.find?_insertAll, Execution.getLast?_filter_records]

theorem Settled.find?_store_runAll {r : Registry σ V} (h : r.Settled) (ops : List (Operation σ V))
    (id : String) :
    (r.runAll ops).store.find? id
      =
    ((Execution.lastSuccess id (history ops r)).map Execution.record).or (r.store.find? id) := by
  induction ops generalizing r with
  | nil => simp [history]
  | cons op ops ih =>
    rw [runAll_cons, history, ih (h.run op), h.find?_store_run op, Execution.lastSuccess_append]
    cases Execution.lastSuccess id (history ops (op.run r).2) <;> simp

theorem runTrace_bind {α β : Type} (fetch : Fetch σ V) (tracer : Tracer σ V) (p : Program σ V α)
    (next : α → Program σ V β) (r : Registry σ V) :
    runTrace fetch tracer (p.bind next) r
      =
    runTrace fetch tracer p r ++
      runTrace fetch tracer (next (run fetch p r).1) (run fetch p r).2 := by
  induction p generalizing r with
  | done a => rfl
  | fetch edge id _ ih =>
    simp only [Program.bind, runTrace, run]
    rw [ih, Trace.append_assoc]
  | lookUp id _ ih => exact ih (r.get id) r
  | chain _ ih => exact ih r.chain r
  | read _ ih => exact ih r.shared r
  | write s _ ih => exact ih { r with shared := s }

theorem runTrace_fetchAs {α : Type} (fetch : Fetch σ V) (tracer : Tracer σ V)
    (cast? : V → Option α) (expected : String) (edge : Edge) (id : String) (r : Registry σ V) :
    runTrace fetch tracer (Build.fetchAs cast? expected edge id) r = tracer edge id r := by
  change tracer edge id r ++ runTrace fetch tracer _ (fetch edge id r).2 = _
  cases (fetch edge id r).1 with
  | error e => exact Trace.append_nil _
  | ok v =>
    dsimp only [Build.fetchAs, Program.bind, ExceptT.bindCont]
    cases cast? v <;> exact Trace.append_nil _

/--
The store holds the record of each fixture's last successful run among those of the registrations
that succeeded. A typed fetch in a builder runs what the fetch runs, whether or not its conversion
fails, and the builder goes on with its answer.
-/
theorem store_holds_lastSuccess (policy : DuplicatePolicy) (s : σ)
    (ops : List (Operation σ V)) :
    (∀ id,
      ((start policy s).runAll ops).store.find? id
        =
      match Execution.lastSuccess id (history ops (start policy s)) with
      | none => none
      | some e =>
        some {
          id
          parent := (e.inner.uses .parent).getLast?
          children := (e.inner.uses .child).eraseDups })
      ∧
    ∀ (α β : Type) (cast? : V → Option α) (expected : String) (edge : Edge) (id : String)
      (next : Except Error α → Program σ V β) (r : Registry σ V) (room : Nat),
      let answer := run (fetchWithin room) (Build.fetchAs cast? expected edge id) r
      runTrace (fetchWithin room) (traceWithin room)
          (Program.bind (Build.fetchAs cast? expected edge id) next) r
        =
      traceWithin room edge id r ++
        runTrace (fetchWithin room) (traceWithin room) (next answer.1) answer.2 := by
  constructor
  . intro id
    rw [(settled_start policy s).find?_store_runAll]
    have hnone : (start policy s : Registry σ V).store.find? id = none := rfl
    cases h : Execution.lastSuccess id (history ops (start policy s)) with
    | none => simp [hnone]
    | some e => simp [Execution.record, Execution.id_eq_of_lastSuccess h]
  . intro α β cast? expected edge id next r room
    dsimp only
    rw [runTrace_bind, runTrace_fetchAs]

end Registry
end FixtureLab

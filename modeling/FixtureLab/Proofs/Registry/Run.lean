import FixtureLab.Registry.Basic
import FixtureLab.Proofs.Registry.Trace

/-!
This module contains the trace of a run and what a run does to the registry: it stages the records
of its trace, links the innermost frame to what was fetched directly, and changes the shared state,
and nothing else.
-/

namespace FixtureLab
namespace Registry

open FixtureLab.Graph (Edge Record Store)

variable {σ V α : Type}

abbrev Tracer (σ V : Type) := Edge → String → Registry σ V → Trace

def runTrace (fetch : Fetch σ V) (tracer : Tracer σ V) : Program σ V α → Registry σ V → Trace
  | .done _, _ => .nil
  | .fetch edge id next, r =>
    tracer edge id r ++ runTrace fetch tracer (next (fetch edge id r).1) (fetch edge id r).2
  | .lookUp id next, r => runTrace fetch tracer (next (r.get id)) r
  | .chain next, r => runTrace fetch tracer (next r.chain) r
  | .read next, r => runTrace fetch tracer (next r.shared) r
  | .write s next, r => runTrace fetch tracer next { r with shared := s }

def execution (fetch : Fetch σ V) (tracer : Tracer σ V) (id : String) (builder : Build σ V V)
    (r : Registry σ V) : Execution where
  id := id
  inner := runTrace fetch tracer builder (r.push id)
  succeeded := (execute fetch id builder r).1.isOk

def traceWithin : Nat → Tracer σ V
  | room, edge, id, r =>
    if r.stack.isEmpty then .nil
    else
      match r.resolve id with
      | .error _ => .nil
      | .ok builder =>
        match room with
        | 0 => .nil
        | room + 1 =>
          (execution (fetchWithin room) (traceWithin room) id builder r).toTrace edge

def withShared (r : Registry σ V) (s : σ) : Registry σ V := { r with shared := s }

def after (r : Registry σ V) (t : Trace) (s : σ) : Registry σ V :=
  { r with
    stack := r.stack.modifyHead t.linkOn
    staged := r.staged ++ t.records
    shared := s }

def Traced (fetch : Fetch σ V) (tracer : Tracer σ V) : Prop :=
  ∀ edge id r, ∃ s, (fetch edge id r).2 = r.after (tracer edge id r) s

@[simp]
theorem after_nil (r : Registry σ V) (s : σ) : r.after .nil s = r.withShared s := by
  unfold after withShared
  cases r.stack <;> simp [Trace.linkOn]

theorem after_append (r : Registry σ V) (t u : Trace) (s s' : σ) :
    r.after (t ++ u) s' = (r.after t s).after u s' := by
  unfold after
  cases r.stack <;> simp [Trace.linkOn_append]

variable {fetch : Fetch σ V} {tracer : Tracer σ V}

theorem run_eq_after (h : Traced fetch tracer) (p : Program σ V α) (r : Registry σ V) :
    ∃ s, (run fetch p r).2 = r.after (runTrace fetch tracer p r) s := by
  induction p generalizing r with
  | done a => exact ⟨r.shared, by simp [run, runTrace, withShared]⟩
  | fetch edge id next ih =>
    obtain ⟨s, hfetch⟩ := h edge id r
    obtain ⟨s', hnext⟩ := ih (fetch edge id r).1 (fetch edge id r).2
    refine ⟨s', ?_⟩
    simp only [run, runTrace]
    rw [hnext, after_append r _ _ s, ← hfetch]
  | lookUp id next ih => exact ih (r.get id) r
  | chain next ih => exact ih r.chain r
  | read next ih => exact ih r.shared r
  | write s next ih =>
    obtain ⟨s', hnext⟩ := ih { r with shared := s }
    exact ⟨s', hnext⟩

theorem execute_eq_run (fetch : Fetch σ V) (id : String) (builder : Build σ V V)
    (r : Registry σ V) :
    execute fetch id builder r
      =
    ((run fetch builder (r.push id)).1,
      (run fetch builder (r.push id)).2.pop (run fetch builder (r.push id)).1.isOk) := rfl

theorem pop_after_push (r : Registry σ V) (id : String) (t : Trace) (s : σ) (succeeded : Bool) :
    ((r.push id).after t s).pop succeeded
      =
    { r with
      staged := r.staged ++ Execution.records (Execution.all ⟨id, t, succeeded⟩)
      shared := s } := by
  simp only [push, after, pop, List.modifyHead_cons, t.linkOn_empty id succeeded]
  cases succeeded <;> simp [Trace.records_all]

theorem execute_eq (h : Traced fetch tracer) (id : String) (builder : Build σ V V)
    (r : Registry σ V) :
    ∃ s, (execute fetch id builder r).2
      =
    { r with
      staged := r.staged ++ Execution.records (execution fetch tracer id builder r).all
      shared := s } := by
  obtain ⟨s, hrun⟩ := run_eq_after h builder (r.push id)
  refine ⟨s, ?_⟩
  rw [execution, ← pop_after_push, ← hrun, execute_eq_run]

theorem after_toTrace (r : Registry σ V) (edge : Edge) (e : Execution) (s : σ) :
    r.after (e.toTrace edge) s
      =
    bif e.succeeded then
      { r with staged := r.staged ++ Execution.records e.all, shared := s }.link edge e.id
    else
      { r with staged := r.staged ++ Execution.records e.all, shared := s } := by
  obtain ⟨id, inner, succeeded⟩ := e
  simp only [after, Execution.toTrace, Trace.records_run, Trace.records_nil, List.append_nil]
  cases succeeded <;> cases r.stack <;> simp [link, Trace.linkOn]

inductive Fetched (edge : Edge) (id : String) (r : Registry σ V) :
    Nat → Except Error V × Registry σ V → Trace → Prop where
  | idle {room : Nat} (h : r.stack = []) :
    Fetched edge id r room (.error (.noActiveFrame id), r) .nil
  | refused {room : Nat} {e : Error} (h : r.stack ≠ []) (hresolve : r.resolve id = .error e) :
    Fetched edge id r room (.error e, r) .nil
  | full {builder : Build σ V V} (h : r.stack ≠ []) (hresolve : r.resolve id = .ok builder) :
    Fetched edge id r 0 (.error (.cycle id r.chain), r) .nil
  | failed {room : Nat} {builder : Build σ V V} {e : Error} {r' : Registry σ V}
    (h : r.stack ≠ []) (hresolve : r.resolve id = .ok builder)
    (hexec : execute (fetchWithin room) id builder r = (.error e, r')) :
    Fetched edge id r (room + 1) (.error e, r')
      ((execution (fetchWithin room) (traceWithin room) id builder r).toTrace edge)
  | built {room : Nat} {builder : Build σ V V} {v : V} {r' : Registry σ V}
    (h : r.stack ≠ []) (hresolve : r.resolve id = .ok builder)
    (hexec : execute (fetchWithin room) id builder r = (.ok v, r')) :
    Fetched edge id r (room + 1) (.ok v, r'.link edge id)
      ((execution (fetchWithin room) (traceWithin room) id builder r).toTrace edge)

theorem Fetched.fetch_eq {room : Nat} {edge : Edge} {id : String} {r : Registry σ V}
    {answer : Except Error V × Registry σ V} {t : Trace} (h : Fetched edge id r room answer t) :
    fetchWithin room edge id r = answer := by
  cases h with
  | idle h => simp [fetchWithin, h]
  | refused h hresolve => simp [fetchWithin, h, hresolve]
  | full h hresolve => simp [fetchWithin, h, hresolve]
  | failed h hresolve hexec => simp [fetchWithin, h, hresolve, hexec]
  | built h hresolve hexec => simp [fetchWithin, h, hresolve, hexec]

theorem fetch_cases (room : Nat) (edge : Edge) (id : String) (r : Registry σ V) :
    Fetched edge id r room (fetchWithin room edge id r) (traceWithin room edge id r) := by
  by_cases hstack : r.stack = []
  . simp only [fetchWithin, traceWithin, hstack, List.isEmpty_nil, if_true]
    exact .idle hstack
  have hempty : ¬r.stack.isEmpty := by simpa using hstack
  cases hresolve : r.resolve id with
  | error e =>
    simp only [fetchWithin, traceWithin, hempty, hresolve]
    exact .refused hstack hresolve
  | ok builder =>
    cases room with
    | zero =>
      simp only [fetchWithin, traceWithin, hempty, hresolve]
      exact .full hstack hresolve
    | succ room =>
      simp only [fetchWithin, traceWithin, hempty, hresolve]
      cases hexec : execute (fetchWithin room) id builder r with
      | mk result r' =>
        cases result with
        | error e => exact .failed hstack hresolve hexec
        | ok v => exact .built hstack hresolve hexec

theorem traced_fetchWithin (room : Nat) :
    Traced (fetchWithin room : Fetch σ V) (traceWithin room) := by
  induction room using Nat.strongRecOn with
  | ind room ih =>
    intro edge id r
    have hcases := fetch_cases room edge id r
    generalize fetchWithin room edge id r = answer at hcases ⊢
    generalize traceWithin room edge id r = t at hcases ⊢
    cases hcases with
    | idle _ => exact ⟨r.shared, by simp [withShared]⟩
    | refused _ _ => exact ⟨r.shared, by simp [withShared]⟩
    | full _ _ => exact ⟨r.shared, by simp [withShared]⟩
    | @failed room builder e r' _ _ hexec =>
      obtain ⟨s, heq⟩ := execute_eq (ih room (Nat.lt_succ_self room)) id builder r
      refine ⟨s, ?_⟩
      have hok : (execution (fetchWithin room) (traceWithin room) id builder r).succeeded = false :=
        congrArg (fun answer => answer.1.isOk) hexec
      rw [after_toTrace, hok, cond_false, ← heq, hexec]
    | @built room builder v r' _ _ hexec =>
      obtain ⟨s, heq⟩ := execute_eq (ih room (Nat.lt_succ_self room)) id builder r
      refine ⟨s, ?_⟩
      have hok : (execution (fetchWithin room) (traceWithin room) id builder r).succeeded = true :=
        congrArg (fun answer => answer.1.isOk) hexec
      rw [after_toTrace, hok, cond_true, ← heq, hexec]
      rfl

def running (r : Registry σ V) : List String := r.stack.map (·.id)

@[simp]
theorem running_push (r : Registry σ V) (id : String) : (r.push id).running = id :: r.running := rfl

@[simp]
theorem running_after (r : Registry σ V) (t : Trace) (s : σ) :
    (r.after t s).running = r.running := by
  unfold running after
  cases r.stack <;> simp

@[simp]
theorem ids_after (r : Registry σ V) (t : Trace) (s : σ) : (r.after t s).ids = r.ids := rfl

theorem resolve_eq_ok_iff {r : Registry σ V} {id : String} {builder : Build σ V V} :
    r.resolve id = .ok builder ↔ Table.find? id r.builders = some builder ∧ id ∉ r.running := by
  unfold resolve running
  cases Table.find? id r.builders with
  | none => simp
  | some b =>
    by_cases h : id ∈ r.stack.map (·.id)
    . have hany : r.stack.any (·.id = id) = true := by simpa using h
      simp [hany, h]
    . have hany : r.stack.any (·.id = id) = false := by simpa using h
      simp [hany, h]

def Sound (tracer : Tracer σ V) : Prop :=
  ∀ edge id r, (tracer edge id r).Sound r.ids r.running

theorem sound_runTrace (h : Traced fetch tracer) (hs : Sound tracer) (p : Program σ V α)
    (r : Registry σ V) : (runTrace fetch tracer p r).Sound r.ids r.running := by
  induction p generalizing r with
  | done a => trivial
  | fetch edge id next ih =>
    obtain ⟨s, hfetch⟩ := h edge id r
    -- the fetch has closed every frame that it opened, so the same builders are running after it
    have hnext := ih (fetch edge id r).1 (fetch edge id r).2
    rw [hfetch, ids_after, running_after, ← hfetch] at hnext
    exact (hs edge id r).append hnext
  | lookUp id next ih => exact ih (r.get id) r
  | chain next ih => exact ih r.chain r
  | read next ih => exact ih r.shared r
  | write s next ih => exact ih { r with shared := s }

theorem sound_execution (h : Traced fetch tracer) (hs : Sound tracer) (edge : Edge) {id : String}
    {builder : Build σ V V} {r : Registry σ V} (hr : r.resolve id = .ok builder) :
    ((execution fetch tracer id builder r).toTrace edge).Sound r.ids r.running := by
  obtain ⟨hfind, hfree⟩ := resolve_eq_ok_iff.1 hr
  have hmem : id ∈ r.ids := Table.find?_isSome_iff.1 (by simp [hfind])
  exact ⟨hmem, hfree, sound_runTrace h hs builder (r.push id), trivial⟩

theorem sound_traceWithin (room : Nat) : Sound (traceWithin room : Tracer σ V) := by
  induction room using Nat.strongRecOn with
  | ind room ih =>
    intro edge id r
    have hcases := fetch_cases room edge id r
    generalize fetchWithin room edge id r = answer at hcases
    generalize traceWithin room edge id r = t at hcases ⊢
    cases hcases with
    | idle _ => trivial
    | refused _ _ => trivial
    | full _ _ => trivial
    | failed _ hresolve _ =>
      exact sound_execution (traced_fetchWithin _) (ih _ (Nat.lt_succ_self _)) edge hresolve
    | built _ hresolve _ =>
      exact sound_execution (traced_fetchWithin _) (ih _ (Nat.lt_succ_self _)) edge hresolve

end Registry
end FixtureLab

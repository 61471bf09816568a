import FixtureLab.Proofs.Registry.Run

/-!
This module contains what a caller can do with a registry outside of every builder, and everything
that a registration can do to a registry in which no builder is running.
-/

namespace FixtureLab
namespace Registry

open FixtureLab.Graph (Edge Record Store)

variable {σ V : Type}

inductive Operation (σ V : Type) : Type 1 where
  | register (id : String) (builder : Build σ V V)
  | get (id : String)
  | getAs (α : Type) (cast? : V → Option α) (expected id : String)
  | fetch (edge : Edge) (id : String)
  | share (f : σ → σ)

namespace Operation

def Answer : Operation σ V → Type
  | .register _ _ => Except Error Unit
  | .get _ => Except Error V
  | .getAs α _ _ _ => Except Error α
  | .fetch _ _ => Except Error V
  | .share _ => Unit

def run : (op : Operation σ V) → Registry σ V → op.Answer × Registry σ V
  | .register id builder, r => r.register id builder
  | .get id, r => (r.get id, r)
  | .getAs _ cast? expected id, r => (r.getAs cast? expected id, r)
  | .fetch edge id, r => Registry.fetch edge id r
  | .share f, r => ((), { r with shared := f r.shared })

end Operation

def start (policy : DuplicatePolicy) (s : σ) : Registry σ V := { policy, shared := s }

def runAll (r : Registry σ V) (ops : List (Operation σ V)) : Registry σ V :=
  ops.foldl (fun r op => (op.run r).2) r

@[simp]
theorem runAll_nil (r : Registry σ V) : r.runAll [] = r := rfl

@[simp]
theorem runAll_cons (r : Registry σ V) (op : Operation σ V) (ops : List (Operation σ V)) :
    r.runAll (op :: ops) = (op.run r).2.runAll ops := rfl

theorem runAll_preserves {P : Registry σ V → Prop}
    (h : ∀ (r : Registry σ V) (op : Operation σ V), P r → P (op.run r).2) {r : Registry σ V}
    (hr : P r) (ops : List (Operation σ V)) : P (r.runAll ops) := by
  induction ops generalizing r with
  | nil => exact hr
  | cons op ops ih => exact ih (h r op hr)

structure Idle (r : Registry σ V) : Prop where
  stack_eq : r.stack = []
  staged_eq : r.staged = []

theorem Idle.fetch_eq {r : Registry σ V} (h : r.Idle) (edge : Edge) (id : String) :
    fetch edge id r = (.error (.noActiveFrame id), r) := by
  unfold fetch fetchWithin
  simp [h.stack_eq]

def bound (r : Registry σ V) (id : String) (builder : Build σ V V) : Registry σ V :=
  { r with builders := Table.insert id builder r.builders }

def registration (r : Registry σ V) (id : String) (builder : Build σ V V) : Execution :=
  let r := r.bound id builder
  execution (fetchWithin r.size) (traceWithin r.size) id builder r

theorem Idle.resolve_bound {r : Registry σ V} (h : r.Idle) (id : String) (builder : Build σ V V) :
    (r.bound id builder).resolve id = .ok builder := by
  apply resolve_eq_ok_iff.2
  simp [bound, running, h.stack_eq]

theorem Idle.rollback_bound {r : Registry σ V} (h : r.Idle) (hsorted : Table.Sorted r.builders)
    (id : String) (builder : Build σ V V) (staged : List Record) (s : σ) :
    { r.bound id builder with staged, shared := s }.rollback id (Table.find? id r.builders)
      =
    r.withShared s := by
  simp only [rollback, bound, withShared]
  cases hfind : Table.find? id r.builders with
  | none => simp [Table.erase_insert builder hfind, h.stack_eq, h.staged_eq]
  | some previous =>
    simp [Table.insert_insert, Table.insert_eq_self hsorted hfind, h.stack_eq, h.staged_eq]

theorem Idle.build_bound {r : Registry σ V} (h : r.Idle) (id : String) (builder : Build σ V V) :
    build (r.bound id builder) id
      =
    execute (fetchWithin (r.bound id builder).size) id builder (r.bound id builder) := by
  unfold build
  rw [h.resolve_bound id builder]

theorem Idle.registration_succeeded {r : Registry σ V} (h : r.Idle) (id : String)
    (builder : Build σ V V) :
    (r.registration id builder).succeeded = (build (r.bound id builder) id).1.isOk := by
  rw [h.build_bound]
  rfl

theorem Idle.build_bound_snd {r : Registry σ V} (h : r.Idle) (id : String)
    (builder : Build σ V V) :
    ∃ s, (build (r.bound id builder) id).2
      =
    { r.bound id builder with
      staged := Execution.records (r.registration id builder).all
      shared := s } := by
  obtain ⟨s, hexec⟩ := execute_eq (traced_fetchWithin (r.bound id builder).size) id builder
    (r.bound id builder)
  refine ⟨s, ?_⟩
  rw [h.build_bound, hexec]
  simp [bound, registration, h.staged_eq]

inductive Registered (r : Registry σ V) (id : String) (builder : Build σ V V) :
    Except Error Unit × Registry σ V → Prop where
  | refused (e : Error) (h : id = "" ∨ (r.contains id ∧ r.policy = .reject)) :
    Registered r id builder (.error e, r)
  | failed (e : Error) (s : σ) (hid : id ≠ "") (h : (build (r.bound id builder) id).1 = .error e) :
    Registered r id builder (.error e, r.withShared s)
  | succeeded (v : V) (s : σ) (hid : id ≠ "") (h : (build (r.bound id builder) id).1 = .ok v) :
    Registered r id builder
      (.ok (),
        { r with
          builders := Table.insert id builder r.builders
          memo := Table.insert id v r.memo
          store := r.store.insertAll (Execution.records (r.registration id builder).all)
          shared := s })

theorem register_eq_of_admitted {r : Registry σ V} {id : String} (hid : id ≠ "")
    (hadmitted : ¬(r.contains id ∧ r.policy = .reject)) (builder : Build σ V V) :
    r.register id builder
      =
    match build (r.bound id builder) id with
    | (.ok value, r') => (.ok (), r'.commit id value)
    | (.error e, r') => (.error e, r'.rollback id (Table.find? id r.builders)) := by
  have hempty : ¬id.isEmpty := fun h => hid (String.isEmpty_iff.1 h)
  unfold register
  rw [if_neg hempty, if_neg (by simpa using hadmitted)]
  rfl

theorem register_eq_of_rejected {r : Registry σ V} {id : String} (hid : id ≠ "")
    (hrejected : r.contains id ∧ r.policy = .reject) (builder : Build σ V V) :
    r.register id builder = (.error (.alreadyRegistered id), r) := by
  unfold register
  rw [if_neg (by simpa using hid), if_pos (by simpa using hrejected)]

theorem register_cases {r : Registry σ V} (h : r.Idle) (hsorted : Table.Sorted r.builders)
    (id : String) (builder : Build σ V V) : Registered r id builder (r.register id builder) := by
  by_cases hid : id = ""
  . subst hid
    exact .refused .invalidId (Or.inl rfl)
  by_cases hrejected : r.contains id ∧ r.policy = .reject
  . rw [register_eq_of_rejected hid hrejected]
    exact .refused _ (Or.inr hrejected)
  . obtain ⟨s, hbuild⟩ := h.build_bound_snd id builder
    rw [register_eq_of_admitted hid hrejected]
    cases hresult : (build (r.bound id builder) id).1 with
    | error e =>
      rw [← Prod.eta (build (r.bound id builder) id), hresult, hbuild]
      dsimp only
      rw [h.rollback_bound hsorted]
      exact .failed e s hid hresult
    | ok v =>
      rw [← Prod.eta (build (r.bound id builder) id), hresult, hbuild]
      simpa [commit, bound, h.staged_eq] using Registered.succeeded v s hid hresult

def Operation.executions : Operation σ V → Registry σ V → List Execution
  | .register id builder, r =>
    if (r.register id builder).1.isOk then (r.registration id builder).all else []
  | _, _ => []

inductive Performed (r : Registry σ V) :
    Operation σ V → List Execution → Registry σ V → Prop where
  | kept (op : Operation σ V) (s : σ) : Performed r op [] (r.withShared s)
  | registered (id : String) (builder : Build σ V V) (v : V) (s : σ) (hid : id ≠ "")
    (hexec : (r.registration id builder).succeeded) :
    Performed r (.register id builder) (r.registration id builder).all
      { r with
        builders := Table.insert id builder r.builders
        memo := Table.insert id v r.memo
        store := r.store.insertAll (Execution.records (r.registration id builder).all)
        shared := s }

theorem run_cases {r : Registry σ V} (h : r.Idle) (hsorted : Table.Sorted r.builders)
    (op : Operation σ V) : Performed r op (op.executions r) (op.run r).2 := by
  cases op with
  | register id builder =>
    have hok := h.registration_succeeded id builder
    simp only [Operation.run, Operation.executions]
    generalize hanswer : r.register id builder = answer
    have hcases := hanswer ▸ register_cases h hsorted id builder
    cases hcases with
    | refused e _ => exact .kept _ r.shared
    | failed e s _ _ => exact .kept _ s
    | succeeded v s hid hbuild =>
      rw [hbuild] at hok
      exact .registered id builder v s hid hok
  | get id => exact .kept _ r.shared
  | getAs α cast? expected id => exact .kept _ r.shared
  | fetch edge id =>
    simp only [Operation.run, h.fetch_eq]
    exact .kept _ r.shared
  | share f => exact .kept _ (f r.shared)

end Registry
end FixtureLab

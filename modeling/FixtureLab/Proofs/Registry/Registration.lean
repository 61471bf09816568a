import FixtureLab.Proofs.Registry.Fetch
import FixtureLab.Proofs.Registry.Rollback

/-!
This module contains what a registration makes of a registry, told by the run of its builder without
regard to room.
-/

namespace FixtureLab
namespace Registry

variable {σ V : Type} {r : Registry σ V} {id : String} {builder : Build σ V V}

theorem Idle.bound (h : r.Idle) (id : String) (builder : Build σ V V) :
    (r.bound id builder).Idle := ⟨h.stack_eq, h.staged_eq⟩

theorem Idle.running_opened (h : r.Idle) (id : String) (builder : Build σ V V) :
    ((r.bound id builder).push id).running = [id] := by
  rw [running_push]
  simp [running, Registry.bound, h.stack_eq]

theorem Idle.stacked_opened (h : r.Idle) (id : String) (builder : Build σ V V) :
    ((r.bound id builder).push id).Stacked :=
  (h.bound id builder).stacked.push (h.resolve_bound id builder)

theorem Idle.build_eq_run (h : r.Idle) (id : String) (builder : Build σ V V) :
    build (r.bound id builder) id
      =
    ((run fetch builder ((r.bound id builder).push id)).1,
      (run fetch builder ((r.bound id builder).push id)).2.pop
        (run fetch builder ((r.bound id builder).push id)).1.isOk) := by
  rw [build_eq_execute (h.bound id builder).stacked (h.resolve_bound id builder), execute_eq_run]

theorem Idle.register_of_run (h : r.Idle) (hid : id ≠ "")
    (hadmitted : ¬(r.contains id ∧ r.policy = .reject)) {v : V} {t : Trace} {s : σ}
    (hrun : run fetch builder ((r.bound id builder).push id)
      =
    (.ok v, ((r.bound id builder).push id).after t s)) :
    r.register id builder
      =
    (.ok (),
      { r with
        builders := Table.insert id builder r.builders
        memo := Table.insert id v r.memo
        store := r.store.insertAll (Execution.records (Execution.all ⟨id, t, true⟩))
        shared := s }) := by
  rw [register_eq_of_admitted hid hadmitted, h.build_eq_run, hrun]
  dsimp only
  rw [pop_after_push]
  simp [commit, Registry.bound, h.staged_eq, Except.isOk, Except.toBool]

theorem Idle.run_of_register (h : r.Idle) (hok : (r.register id builder).1 = .ok ()) :
    id ≠ "" ∧ ¬(r.contains id ∧ r.policy = .reject) ∧
      ∃ v, (run fetch builder ((r.bound id builder).push id)).1 = .ok v := by
  by_cases hid : id = ""
  . subst hid
    cases hok
  by_cases hrejected : r.contains id ∧ r.policy = .reject
  . rw [register_eq_of_rejected hid hrejected] at hok
    cases hok
  refine ⟨hid, hrejected, ?_⟩
  rw [register_eq_of_admitted hid hrejected, h.build_eq_run] at hok
  cases hrun : (run fetch builder ((r.bound id builder).push id)).1 with
  | ok v => exact ⟨v, rfl⟩
  | error e =>
    rw [hrun] at hok
    cases hok

theorem Idle.register_of_ok (h : r.Idle) (hsorted : Table.Sorted r.builders)
    (hok : (r.register id builder).1 = .ok ()) :
    ∃ v s,
      (run fetch builder ((r.bound id builder).push id)).1 = .ok v ∧
      r.register id builder
        =
      (.ok (),
        { r with
          builders := Table.insert id builder r.builders
          memo := Table.insert id v r.memo
          store := r.store.insertAll (Execution.records (r.registration id builder).all)
          shared := s }) := by
  generalize hanswer : r.register id builder = answer at hok
  have hcases := hanswer ▸ register_cases h hsorted id builder
  cases hcases with
  | refused _ _ => cases hok
  | failed _ _ _ _ => cases hok
  | succeeded v s _ hbuild =>
    rw [h.build_eq_run] at hbuild
    exact ⟨v, s, hbuild, rfl⟩

theorem Settled.kept_or_registered (h : r.Settled) (op : Operation σ V) :
    ((∀ id builder, op = .register id builder → (r.register id builder).1 ≠ .ok ()) ∧
      ∃ s, (op.run r).2 = r.withShared s) ∨
    ∃ id builder, op = .register id builder ∧ (r.register id builder).1 = .ok () := by
  cases op with
  | register id builder =>
    cases hanswer : (r.register id builder).1 with
    | ok _ => exact Or.inr ⟨id, builder, rfl, hanswer⟩
    | error e =>
      refine Or.inl ⟨?_, h.register_of_error hanswer⟩
      intro id' builder' heq
      cases heq
      simp [hanswer]
  | fetch edge id =>
    refine Or.inl ⟨by simp, r.shared, ?_⟩
    simp only [Operation.run, h.idle.fetch_eq]
    rfl
  | share f => exact Or.inl ⟨by simp, f r.shared, rfl⟩
  | _ => exact Or.inl ⟨by simp, r.shared, rfl⟩

end Registry
end FixtureLab

import FixtureLab.Proofs.Registry.Operation
import Mathlib.Data.List.Perm.Subperm

/-!
This module contains the proof that a fetch never runs out of room: a builder that is running is not
run again, so the running builders are as many different registered fixtures. A fetch is therefore
answered by running the builder with its own fetches answered in the same way.
-/

namespace FixtureLab
namespace Registry

open FixtureLab.Graph (Edge Record Store)

variable {σ V α : Type}

structure Stacked (r : Registry σ V) : Prop where
  nodup : r.running.Nodup
  known : ∀ id ∈ r.running, id ∈ r.ids

def Ample (room : Nat) (r : Registry σ V) : Prop := r.size ≤ room + r.running.length

theorem Idle.stacked {r : Registry σ V} (h : r.Idle) : r.Stacked := by
  constructor <;> simp [running, h.stack_eq]

theorem ample_size (r : Registry σ V) : Ample r.size r := Nat.le_add_right _ _

theorem length_ids (r : Registry σ V) : r.ids.length = r.size := List.length_map _

theorem Stacked.push {r : Registry σ V} (h : r.Stacked) {id : String} {builder : Build σ V V}
    (hresolve : r.resolve id = .ok builder) : (r.push id).Stacked := by
  obtain ⟨hfind, hfree⟩ := resolve_eq_ok_iff.1 hresolve
  have hmem : id ∈ r.ids := Table.find?_isSome_iff.1 (by simp [hfind])
  constructor
  . rw [running_push]
    exact List.nodup_cons.2 ⟨hfree, h.nodup⟩
  . rw [running_push]
    exact List.forall_mem_cons.2 ⟨hmem, h.known⟩

theorem Stacked.length_le {r : Registry σ V} (h : r.Stacked) : r.running.length ≤ r.size := by
  rw [← length_ids]
  exact (List.subperm_of_subset h.nodup h.known).length_le

theorem Ample.push {room : Nat} {r : Registry σ V} (h : Ample (room + 1) r) (id : String) :
    Ample room (r.push id) := by
  have hsize : (r.push id).size = r.size := rfl
  unfold Ample at h ⊢
  rw [hsize, running_push, List.length_cons]
  omega

theorem Stacked.of_eq {r r' : Registry σ V} (h : r.Stacked) (hbuilders : r'.builders = r.builders)
    (hrunning : r'.running = r.running) : r'.Stacked := by
  have hids : r'.ids = r.ids := congrArg Table.keys hbuilders
  constructor
  . rw [hrunning]
    exact h.nodup
  . rw [hrunning, hids]
    exact h.known

theorem Ample.of_eq {room : Nat} {r r' : Registry σ V} (h : Ample room r)
    (hbuilders : r'.builders = r.builders) (hrunning : r'.running = r.running) :
    Ample room r' := by
  unfold Ample size at h ⊢
  rw [hbuilders, hrunning]
  exact h

theorem Ample.exists_eq_succ {room : Nat} {r : Registry σ V} (h : Ample room r) (hs : r.Stacked)
    {id : String} {builder : Build σ V V} (hresolve : r.resolve id = .ok builder) :
    ∃ room', room = room' + 1 := by
  have hlength := (hs.push hresolve).length_le
  have hsize : (r.push id).size = r.size := rfl
  rw [hsize, running_push, List.length_cons] at hlength
  unfold Ample at h
  exact ⟨room - 1, by omega⟩

theorem run_congr {fetch fetch' : Fetch σ V} {tracer : Tracer σ V} (h : Traced fetch tracer)
    {r : Registry σ V}
    (hfetch : ∀ edge id (r' : Registry σ V), r'.builders = r.builders → r'.running = r.running →
      fetch edge id r' = fetch' edge id r')
    (p : Program σ V α) : run fetch p r = run fetch' p r := by
  induction p generalizing r with
  | done a => rfl
  | fetch edge id next ih =>
    obtain ⟨s, hafter⟩ := h edge id r
    simp only [run]
    rw [← hfetch edge id r rfl rfl]
    apply ih
    rw [hafter, running_after]
    exact hfetch
  | lookUp id next ih => exact ih (r.get id) hfetch
  | chain next ih => exact ih r.chain hfetch
  | read next ih => exact ih r.shared hfetch
  | write s next ih => exact ih hfetch

theorem fetchWithin_succ {room : Nat} {edge : Edge} {id : String} {r : Registry σ V}
    (hstack : r.stack ≠ []) {builder : Build σ V V} (hresolve : r.resolve id = .ok builder) :
    fetchWithin (room + 1) edge id r
      =
    match execute (fetchWithin room) id builder r with
    | (.error e, r) => (.error e, r)
    | (.ok v, r) => (.ok v, r.link edge id) := by
  have hempty : ¬r.stack.isEmpty := by simpa using hstack
  rw [fetchWithin]
  simp only [hempty, hresolve]
  rfl

theorem fetchWithin_congr {room room' : Nat} (edge : Edge) (id : String) {r : Registry σ V}
    (hs : r.Stacked) (h : Ample room r) (h' : Ample room' r) :
    fetchWithin room edge id r = fetchWithin room' edge id r := by
  induction room using Nat.strongRecOn generalizing room' edge id r with
  | ind room ih =>
    by_cases hstack : r.stack = []
    . rw [(Fetched.idle hstack).fetch_eq, (Fetched.idle hstack).fetch_eq]
    cases hresolve : r.resolve id with
    | error e =>
      rw [(Fetched.refused hstack hresolve).fetch_eq, (Fetched.refused hstack hresolve).fetch_eq]
    | ok builder =>
      obtain ⟨room, rfl⟩ := h.exists_eq_succ hs hresolve
      obtain ⟨room', rfl⟩ := h'.exists_eq_succ hs hresolve
      have hexec : execute (fetchWithin room) id builder r
          =
        execute (fetchWithin room') id builder r := by
        rw [execute_eq_run, execute_eq_run, run_congr (traced_fetchWithin room)]
        intro edge id r' hbuilders hrunning
        exact ih room (Nat.lt_succ_self room) edge id
          ((hs.push hresolve).of_eq hbuilders hrunning)
          ((h.push _).of_eq hbuilders hrunning)
          ((h'.push _).of_eq hbuilders hrunning)
      rw [fetchWithin_succ hstack hresolve, fetchWithin_succ hstack hresolve, hexec]

theorem run_fetchWithin {room : Nat} (p : Program σ V α) {r : Registry σ V} (hs : r.Stacked)
    (h : Ample room r) : run (fetchWithin room) p r = run fetch p r := by
  apply run_congr (traced_fetchWithin room)
  intro edge id r' hbuilders hrunning
  have hs' := hs.of_eq hbuilders hrunning
  exact fetchWithin_congr edge id hs' (h.of_eq hbuilders hrunning) (ample_size r')

theorem fetch_eq_execute {edge : Edge} {id : String} {r : Registry σ V} (hs : r.Stacked)
    (hstack : r.stack ≠ []) {builder : Build σ V V} (hresolve : r.resolve id = .ok builder) :
    fetch edge id r
      =
    match execute fetch id builder r with
    | (.error e, r) => (.error e, r)
    | (.ok v, r) => (.ok v, r.link edge id) := by
  obtain ⟨room, hroom⟩ := (ample_size r).exists_eq_succ hs hresolve
  have hample : Ample room (r.push id) := Ample.push (hroom ▸ ample_size r) id
  have hexec : execute (fetchWithin room) id builder r = execute fetch id builder r := by
    rw [execute_eq_run, execute_eq_run, run_fetchWithin builder (hs.push hresolve) hample]
  unfold fetch
  rw [hroom, fetchWithin_succ hstack hresolve, hexec]
  rfl

theorem build_eq_execute {id : String} {r : Registry σ V} (hs : r.Stacked)
    {builder : Build σ V V} (hresolve : r.resolve id = .ok builder) :
    build r id = execute fetch id builder r := by
  have hample : Ample r.size (r.push id) := Nat.le_add_right _ _
  unfold build
  rw [hresolve]
  dsimp only
  rw [execute_eq_run, execute_eq_run, run_fetchWithin builder (hs.push hresolve) hample]

end Registry
end FixtureLab

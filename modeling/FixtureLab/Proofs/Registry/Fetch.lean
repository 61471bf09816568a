import FixtureLab.Proofs.Registry.Room

/-!
This module contains the laws of a fetch without regard to room: when it is refused, which builder
it runs otherwise, and what it makes of the frames.
-/

namespace FixtureLab
namespace Registry

open FixtureLab.Graph (Edge)

variable {σ V α : Type}

def trace : Tracer σ V := fun edge id r => traceWithin r.size edge id r

theorem traced_fetch : Traced (fetch : Fetch σ V) trace :=
  fun edge id r => traced_fetchWithin r.size edge id r

@[simp]
theorem chain_after (r : Registry σ V) (t : Trace) (s : σ) : (r.after t s).chain = r.chain :=
  congrArg List.reverse (running_after r t s)

theorem stack_ne_nil_iff {r : Registry σ V} : r.stack ≠ [] ↔ r.running ≠ [] := by
  unfold running
  simp

theorem contains_iff {r : Registry σ V} {id : String} :
    r.contains id ↔ ∃ builder, Table.find? id r.builders = some builder :=
  Option.isSome_iff_exists

theorem contains_iff_mem_ids {r : Registry σ V} {id : String} : r.contains id ↔ id ∈ r.ids :=
  Table.find?_isSome_iff

theorem ne_of_contains {r : Registry σ V} {id x : String} (hnew : ¬r.contains id)
    (hx : r.contains x) : id ≠ x := by
  rintro rfl
  exact hnew hx

theorem resolve_of_not_contains {r : Registry σ V} {id : String} (h : ¬r.contains id) :
    r.resolve id = .error (.notRegistered id r.chain) := by
  have hfind : Table.find? id r.builders = none := by simpa [contains, Table.contains] using h
  unfold resolve
  rw [hfind]

theorem resolve_of_mem_running {r : Registry σ V} {id : String} (h : r.contains id)
    (hrunning : id ∈ r.running) : r.resolve id = .error (.cycle id r.chain) := by
  obtain ⟨builder, hfind⟩ := contains_iff.1 h
  have hany : r.stack.any (·.id = id) = true := by simpa [running] using hrunning
  unfold resolve
  rw [hfind]
  simp [hany]

theorem exists_resolve_eq_ok {r : Registry σ V} {id : String} (h : r.contains id)
    (hfree : id ∉ r.running) :
    ∃ builder, Table.find? id r.builders = some builder ∧ r.resolve id = .ok builder := by
  obtain ⟨builder, hfind⟩ := contains_iff.1 h
  exact ⟨builder, hfind, resolve_eq_ok_iff.2 ⟨hfind, hfree⟩⟩

variable {edge : Edge} {id : String} {r : Registry σ V}

theorem fetch_of_resolve_error (hstack : r.stack ≠ []) {e : Error} (h : r.resolve id = .error e) :
    fetch edge id r = (.error e, r) := (Fetched.refused hstack h).fetch_eq

theorem trace_of_resolve_error (hstack : r.stack ≠ []) {e : Error} (h : r.resolve id = .error e) :
    trace edge id r = .nil := by
  have hempty : ¬r.stack.isEmpty := by simpa using hstack
  unfold trace traceWithin
  simp only [hempty, h]
  rfl

theorem trace_ne_nil (hs : r.Stacked) (hstack : r.stack ≠ []) {builder : Build σ V V}
    (h : r.resolve id = .ok builder) : trace edge id r ≠ .nil := by
  have hempty : ¬r.stack.isEmpty := by simpa using hstack
  obtain ⟨room, hroom⟩ := (ample_size r).exists_eq_succ hs h
  unfold trace traceWithin
  rw [hroom]
  simp only [hempty, h]
  exact Trace.noConfusion

theorem fetch_fst (hs : r.Stacked) (hstack : r.stack ≠ []) {builder : Build σ V V}
    (h : r.resolve id = .ok builder) :
    (fetch edge id r).1 = (run fetch builder (r.push id)).1 := by
  rw [fetch_eq_execute hs hstack h, execute_eq_run]
  cases (run fetch builder (r.push id)).1 <;> rfl

theorem exists_run_of_fetch_ok (hs : r.Stacked) (hstack : r.stack ≠ []) {v : V}
    (h : (fetch edge id r).1 = .ok v) :
    ∃ builder, r.resolve id = .ok builder ∧ (run fetch builder (r.push id)).1 = .ok v := by
  cases hresolve : r.resolve id with
  | error e =>
    rw [fetch_of_resolve_error hstack hresolve] at h
    cases h
  | ok builder => exact ⟨builder, rfl, (fetch_fst hs hstack hresolve).symm.trans h⟩

theorem fetch_eq_of_run (hs : r.Stacked) (hstack : r.stack ≠ []) {builder : Build σ V V}
    (h : r.resolve id = .ok builder) {v : V} {inner : Trace} {s : σ}
    (hrun : run fetch builder (r.push id) = (.ok v, (r.push id).after inner s)) :
    fetch edge id r = (.ok v, r.after (.run edge id inner true .nil) s) := by
  rw [fetch_eq_execute hs hstack h, execute_eq_run, hrun]
  dsimp only
  rw [pop_after_push]
  exact congrArg (Prod.mk _) (after_toTrace r edge ⟨id, inner, true⟩ s).symm

theorem stack_link (r : Registry σ V) (edge : Edge) (id : String) :
    (r.link edge id).stack = r.stack.modifyHead (·.link edge id) := by
  unfold link
  cases h : r.stack <;> simp [h]

theorem staged_link (r : Registry σ V) (edge : Edge) (id : String) :
    (r.link edge id).staged = r.staged := by
  unfold link
  cases r.stack <;> rfl

theorem stack_fetch (edge : Edge) (id : String) (r : Registry σ V) :
    (fetch edge id r).2.stack
      =
    if (fetch edge id r).1.isOk then r.stack.modifyHead (·.link edge id) else r.stack := by
  have hcases := fetch_cases r.size edge id r
  unfold fetch
  generalize fetchWithin r.size edge id r = answer at hcases ⊢
  generalize traceWithin r.size edge id r = t at hcases
  generalize r.size = room at hcases
  cases hcases with
  | idle _ => rfl
  | refused _ _ => rfl
  | full _ _ => rfl
  | @failed room builder e r' _ _ hexec =>
    obtain ⟨s, heq⟩ := execute_eq (traced_fetchWithin room) id builder r
    rw [hexec] at heq
    have hframes := congrArg stack heq
    exact hframes
  | @built room builder v r' _ _ hexec =>
    obtain ⟨s, heq⟩ := execute_eq (traced_fetchWithin room) id builder r
    rw [hexec] at heq
    have hframes := congrArg stack heq
    exact (stack_link r' edge id).trans (congrArg _ hframes)

theorem run_fetchAs (cast? : V → Option α) (expected : String) (edge : Edge) (id : String)
    (r : Registry σ V) :
    run fetch (Build.fetchAs cast? expected edge id) r
      =
    (match (fetch edge id r).1 with
      | .error e => .error e
      | .ok v =>
        match cast? v with
        | some a => .ok a
        | none => .error (.typeMismatch id expected r.chain),
      (fetch edge id r).2) := by
  obtain ⟨s, hafter⟩ := traced_fetch edge id r
  change run fetch (Program.bind (.done (fetch edge id r).1) _) (fetch edge id r).2 = _
  cases (fetch edge id r).1 with
  | error e => rfl
  | ok v =>
    dsimp only [Build.fetchAs, Program.bind, ExceptT.bindCont]
    cases cast? v with
    | some a => rfl
    | none =>
      -- the chain is asked for after the fetch, which has left it as it was
      have hchain : (fetch edge id r).2.chain = r.chain := by rw [hafter, chain_after]
      rw [← hchain]
      rfl

end Registry
end FixtureLab

import FixtureLab.Proofs.Registry.Registration
import Mathlib.Logic.Relation

/-!
This module contains a machine that runs builders one request at a time. A fetch that is not refused
starts the builder of its fixture, and the run that made it waits on a list of calls, which nothing
bounds. The machine comes to the end of every run, and with the answer of `run`.
-/

namespace FixtureLab
namespace Registry

open FixtureLab.Graph (Edge)

variable {σ V : Type}

structure Call (σ V : Type) where
  edge : Edge
  id : String
  next : Except Error V → Program σ V (Except Error V)

/--
A builder at work: what is left of it, the calls that wait for it, innermost first, and the
registry.
-/
structure Machine (σ V : Type) where
  program : Program σ V (Except Error V)
  calls : List (Call σ V)
  registry : Registry σ V

def leave (r : Registry σ V) (call : Call σ V) (result : Except Error V) : Registry σ V :=
  if result.isOk then (r.pop true).link call.edge call.id else r.pop false

namespace Machine

def step? : Machine σ V → Option (Machine σ V)
  | ⟨.done _, [], _⟩ => none
  | ⟨.done result, call :: calls, r⟩ => some ⟨call.next result, calls, r.leave call result⟩
  | ⟨.fetch edge id next, calls, r⟩ =>
    if r.stack.isEmpty then some ⟨next (.error (.noActiveFrame id)), calls, r⟩
    else
      match r.resolve id with
      | .error e => some ⟨next (.error e), calls, r⟩
      | .ok builder => some ⟨builder, ⟨edge, id, next⟩ :: calls, r.push id⟩
  | ⟨.lookUp id next, calls, r⟩ => some ⟨next (r.get id), calls, r⟩
  | ⟨.chain next, calls, r⟩ => some ⟨next r.chain, calls, r⟩
  | ⟨.read next, calls, r⟩ => some ⟨next r.shared, calls, r⟩
  | ⟨.write s next, calls, r⟩ => some ⟨next, calls, r.withShared s⟩

abbrev Steps (m m' : Machine σ V) : Prop := m.step? = some m'

abbrev Reaches : Machine σ V → Machine σ V → Prop := Relation.ReflTransGen Steps

theorem steps_refused {edge : Edge} {id : String} {r : Registry σ V} (hstack : r.stack ≠ [])
    {e : Error} (hresolve : r.resolve id = .error e)
    (next : Except Error V → Program σ V (Except Error V)) (calls : List (Call σ V)) :
    Steps ⟨.fetch edge id next, calls, r⟩ ⟨next (.error e), calls, r⟩ := by
  have hempty : ¬r.stack.isEmpty := by simpa using hstack
  simp [Steps, step?, hempty, hresolve]

theorem steps_entered {edge : Edge} {id : String} {r : Registry σ V} (hstack : r.stack ≠ [])
    {builder : Build σ V V} (hresolve : r.resolve id = .ok builder)
    (next : Except Error V → Program σ V (Except Error V)) (calls : List (Call σ V)) :
    Steps ⟨.fetch edge id next, calls, r⟩ ⟨builder, ⟨edge, id, next⟩ :: calls, r.push id⟩ := by
  have hempty : ¬r.stack.isEmpty := by simpa using hstack
  simp [Steps, step?, hempty, hresolve]

theorem steps_left (call : Call σ V) (calls : List (Call σ V)) (result : Except Error V)
    (r : Registry σ V) :
    Steps ⟨.done result, call :: calls, r⟩ ⟨call.next result, calls, r.leave call result⟩ := rfl

theorem rightUnique_steps : Relator.RightUnique (Steps : Machine σ V → Machine σ V → Prop) := by
  intro m m₁ m₂ h₁ h₂
  exact Option.some.inj (h₁.symm.trans h₂)

theorem Reaches.eq_of_end {m m' : Machine σ V} (h : m.Reaches m') (hend : m.step? = none) :
    m = m' := by
  rcases Relation.ReflTransGen.cases_head h with rfl | ⟨_, hstep, _⟩
  . rfl
  . rw [Steps, hend] at hstep
    cases hstep

theorem Reaches.unique {m m₁ m₂ : Machine σ V} (h₁ : m.Reaches m₁) (h₂ : m.Reaches m₂)
    (hend₁ : m₁.step? = none) (hend₂ : m₂.step? = none) : m₁ = m₂ := by
  rcases Relation.ReflTransGen.total_of_right_unique rightUnique_steps h₁ h₂ with h | h
  . exact Reaches.eq_of_end h hend₁
  . exact (Reaches.eq_of_end h hend₂).symm

theorem Reaches.not_endless {m m' : Machine σ V} (h : m.Reaches m') (hend : m'.step? = none)
    (course : Nat → Machine σ V) (hstart : course 0 = m) :
    ¬∀ n, (course n).Steps (course (n + 1)) := by
  intro hcourse
  induction h using Relation.ReflTransGen.head_induction_on generalizing course with
  | refl =>
    have hstep := hcourse 0
    rw [hstart, Steps, hend] at hstep
    cases hstep
  | head hstep _ ih =>
    have hfirst := hcourse 0
    rw [hstart] at hfirst
    apply ih (fun n => course (n + 1)) (rightUnique_steps hfirst hstep)
    exact fun n => hcourse (n + 1)

end Machine

theorem fetch_eq_leave {edge : Edge} {id : String} {r : Registry σ V} (hs : r.Stacked)
    (hstack : r.stack ≠ []) {builder : Build σ V V} (hresolve : r.resolve id = .ok builder)
    (next : Except Error V → Program σ V (Except Error V)) :
    fetch edge id r
      =
    ((run fetch builder (r.push id)).1,
      (run fetch builder (r.push id)).2.leave ⟨edge, id, next⟩
        (run fetch builder (r.push id)).1) := by
  rw [fetch_eq_execute hs hstack hresolve, execute_eq_run]
  cases (run fetch builder (r.push id)).1 <;> rfl

theorem reaches_done {room : Nat} {r : Registry σ V} (hs : r.Stacked) (h : Ample room r)
    (hstack : r.running ≠ []) (p : Program σ V (Except Error V)) (calls : List (Call σ V)) :
    Machine.Reaches ⟨p, calls, r⟩ ⟨.done (run fetch p r).1, calls, (run fetch p r).2⟩ := by
  -- the room shrinks with each nested call, the program with each request
  induction room using Nat.strongRecOn generalizing r p calls with
  | ind room ihroom =>
    induction p generalizing r with
    | done a => exact .refl
    | fetch edge id next ih =>
      have hframes := stack_ne_nil_iff.2 hstack
      obtain ⟨s, hafter⟩ := traced_fetch edge id r
      have hrunning : (fetch edge id r).2.running = r.running := by rw [hafter, running_after]
      have hbuilders : (fetch edge id r).2.builders = r.builders := by rw [hafter]; rfl
      have hrest : Machine.Reaches
          ⟨next (fetch edge id r).1, calls, (fetch edge id r).2⟩
          ⟨.done (run fetch (.fetch edge id next) r).1, calls,
            (run fetch (.fetch edge id next) r).2⟩ := by
        apply ih
        . exact hs.of_eq hbuilders hrunning
        . exact h.of_eq hbuilders hrunning
        . rw [hrunning]
          exact hstack
      apply Relation.ReflTransGen.trans _ hrest
      cases hresolve : r.resolve id with
      | error e =>
        rw [fetch_of_resolve_error hframes hresolve]
        exact .single (Machine.steps_refused hframes hresolve next calls)
      | ok builder =>
        obtain ⟨room, rfl⟩ := h.exists_eq_succ hs hresolve
        rw [fetch_eq_leave hs hframes hresolve next]
        apply Relation.ReflTransGen.head (Machine.steps_entered hframes hresolve next calls)
        apply Relation.ReflTransGen.tail _ (Machine.steps_left ⟨edge, id, next⟩ calls _ _)
        apply ihroom room (Nat.lt_succ_self room) (hs.push hresolve) (h.push id)
        simp
    | lookUp id next ih => exact .head rfl (ih _ hs h hstack)
    | chain next ih => exact .head rfl (ih _ hs h hstack)
    | read next ih => exact .head rfl (ih _ hs h hstack)
    | write s next ih => exact .head rfl (ih (hs.of_eq rfl rfl) (h.of_eq rfl rfl) hstack)

theorem running_pop (r : Registry σ V) (succeeded : Bool) :
    (r.pop succeeded).running = r.running.tail := by
  unfold running pop
  split
  . next hstack => simp [hstack]
  . next hstack => simp [hstack]

theorem builders_pop (r : Registry σ V) (succeeded : Bool) :
    (r.pop succeeded).builders = r.builders := by
  unfold pop
  split <;> rfl

theorem running_link (r : Registry σ V) (edge : Edge) (id : String) :
    (r.link edge id).running = r.running := by
  unfold running
  rw [stack_link]
  cases r.stack <;> simp

theorem builders_link (r : Registry σ V) (edge : Edge) (id : String) :
    (r.link edge id).builders = r.builders := by
  unfold link
  split <;> rfl

theorem running_leave (r : Registry σ V) (call : Call σ V) (result : Except Error V) :
    (r.leave call result).running = r.running.tail := by
  unfold leave
  split
  . rw [running_link, running_pop]
  . rw [running_pop]

theorem builders_leave (r : Registry σ V) (call : Call σ V) (result : Except Error V) :
    (r.leave call result).builders = r.builders := by
  unfold leave
  split
  . rw [builders_link, builders_pop]
  . rw [builders_pop]

def opening (r : Registry σ V) (id : String) (builder : Build σ V V) : Machine σ V where
  program := builder
  calls := []
  registry := (r.bound id builder).push id

namespace Machine

def enclosing (m : Machine σ V) (id : String) : List String := id :: (m.calls.map (·.id)).reverse

structure Nested (m : Machine σ V) (r : Registry σ V) (id : String) (builder : Build σ V V) :
    Prop where
  running_eq : m.registry.running = m.calls.map (·.id) ++ [id]
  stacked : m.registry.Stacked
  builders_eq : m.registry.builders = (r.bound id builder).builders

namespace Nested

variable {m m' : Machine σ V} {r : Registry σ V} {id : String} {builder : Build σ V V}

theorem running_ne_nil (h : m.Nested r id builder) : m.registry.running ≠ [] := by
  rw [h.running_eq]
  simp

theorem chain_eq (h : m.Nested r id builder) : m.registry.chain = m.enclosing id := by
  have hchain : m.registry.chain = m.registry.running.reverse := rfl
  rw [hchain, h.running_eq]
  simp [enclosing]

theorem of_eq (h : m.Nested r id builder) (hcalls : m'.calls = m.calls)
    (hrunning : m'.registry.running = m.registry.running)
    (hbuilders : m'.registry.builders = m.registry.builders) : m'.Nested r id builder := by
  refine ⟨?_, h.stacked.of_eq hbuilders hrunning, ?_⟩
  . rw [hrunning, h.running_eq, hcalls]
  . rw [hbuilders, h.builders_eq]

theorem step (h : m.Nested r id builder) (hstep : m.Steps m') : m'.Nested r id builder := by
  obtain ⟨program, calls, registry⟩ := m
  cases program with
  | done result =>
    cases calls with
    | nil => cases hstep
    | cons call calls =>
      obtain rfl := Option.some.inj hstep
      have hrunning : registry.running = call.id :: (calls.map (·.id) ++ [id]) := h.running_eq
      have hleave := running_leave registry call result
      rw [hrunning, List.tail_cons] at hleave
      have hids : (registry.leave call result).ids = registry.ids :=
        congrArg Table.keys (builders_leave registry call result)
      obtain ⟨hnodup, hknown⟩ := h.stacked
      rw [hrunning] at hnodup hknown
      refine ⟨hleave, ⟨?_, ?_⟩, ?_⟩
      . rw [hleave]
        exact (List.nodup_cons.1 hnodup).2
      . rw [hleave, hids]
        exact (List.forall_mem_cons.1 hknown).2
      . rw [builders_leave, h.builders_eq]
  | fetch edge x next =>
    have hstack := stack_ne_nil_iff.2 h.running_ne_nil
    cases hresolve : registry.resolve x with
    | error e =>
      obtain rfl := Option.some.inj ((steps_refused hstack hresolve next calls).symm.trans hstep)
      exact h.of_eq rfl rfl rfl
    | ok inner =>
      obtain rfl := Option.some.inj ((steps_entered hstack hresolve next calls).symm.trans hstep)
      refine ⟨?_, h.stacked.push hresolve, h.builders_eq⟩
      rw [running_push, h.running_eq]
      rfl
  | _ =>
    obtain rfl := Option.some.inj hstep
    exact h.of_eq rfl rfl rfl

theorem reaches (h : m.Nested r id builder) (hreaches : m.Reaches m') : m'.Nested r id builder := by
  induction hreaches with
  | refl => exact h
  | tail _ hstep ih => exact ih.step hstep

end Nested

variable {r : Registry σ V} {id : String} {builder : Build σ V V} {m : Machine σ V}

theorem nested_of_reaches (hidle : r.Idle) (h : (r.opening id builder).Reaches m) :
    m.Nested r id builder := by
  have hopening : (r.opening id builder).Nested r id builder :=
    ⟨hidle.running_opened id builder, hidle.stacked_opened id builder, rfl⟩
  exact hopening.reaches h

end Machine

end Registry
end FixtureLab

import FixtureLab.Proofs.Registry.Registration

/-!
This module contains the moments of a registration: the points which the run of its builder, and the
runs within that run, come to. A builder is free in what it does at each of them, and yet it finds
the runs that enclose it on the stack, and the registry as the registration found it.
-/

namespace FixtureLab
namespace Registry

open FixtureLab.Graph (Edge)

variable {σ V : Type}

structure Moment (σ V : Type) where
  program : Program σ V (Except Error V)
  registry : Registry σ V

def Moment.next? : Moment σ V → Option (Moment σ V)
  | ⟨.done _, _⟩ => none
  | ⟨.fetch edge id next, r⟩ => some ⟨next (fetch edge id r).1, (fetch edge id r).2⟩
  | ⟨.lookUp id next, r⟩ => some ⟨next (r.get id), r⟩
  | ⟨.chain next, r⟩ => some ⟨next r.chain, r⟩
  | ⟨.read next, r⟩ => some ⟨next r.shared, r⟩
  | ⟨.write s next, r⟩ => some ⟨next, { r with shared := s }⟩

/--
The moments of a registration, each with the fixtures whose runs enclose it, innermost first. A
registration that is refused has none.
-/
inductive During (r : Registry σ V) (id : String) (builder : Build σ V V) :
    List String → Moment σ V → Prop where
  | start (hid : id ≠ "") (hadmitted : ¬(r.contains id ∧ r.policy = .reject)) :
    During r id builder [id] ⟨builder, (r.bound id builder).push id⟩
  | next {enclosing : List String} {m m' : Moment σ V} (h : During r id builder enclosing m)
    (hnext : m.next? = some m') : During r id builder enclosing m'
  | enter {enclosing : List String} {edge : Edge} {x : String}
    {next : Except Error V → Program σ V (Except Error V)} {r' : Registry σ V}
    {inner : Build σ V V} (h : During r id builder enclosing ⟨.fetch edge x next, r'⟩)
    (hresolve : r'.resolve x = .ok inner) :
    During r id builder (x :: enclosing) ⟨inner, r'.push x⟩

theorem Moment.exists_after {m m' : Moment σ V} (h : m.next? = some m') :
    ∃ t s, m'.registry = m.registry.after t s := by
  obtain ⟨program, r⟩ := m
  cases program with
  | done a => cases h
  | fetch edge id next =>
    obtain rfl := Option.some.inj h
    exact ⟨trace edge id r, traced_fetch edge id r⟩
  | write s next =>
    obtain rfl := Option.some.inj h
    exact ⟨.nil, s, (after_nil r s).symm⟩
  | _ =>
    obtain rfl := Option.some.inj h
    exact ⟨.nil, r.shared, (after_nil r r.shared).symm⟩

structure Moment.Within (m : Moment σ V) (r : Registry σ V) (id : String) (builder : Build σ V V)
    (enclosing : List String) : Prop where
  running_eq : m.registry.running = enclosing
  nodup : enclosing.Nodup
  known : ∀ x ∈ enclosing, x ∈ m.registry.ids
  builders_eq : m.registry.builders = (r.bound id builder).builders
  memo_eq : m.registry.memo = r.memo
  store_eq : m.registry.store = r.store

namespace Moment.Within

variable {m : Moment σ V} {r : Registry σ V} {id : String} {builder : Build σ V V}
  {enclosing : List String}

theorem stacked (h : m.Within r id builder enclosing) : m.registry.Stacked := by
  constructor
  . rw [h.running_eq]
    exact h.nodup
  . rw [h.running_eq]
    exact h.known

theorem get_eq (h : m.Within r id builder enclosing) (x : String) : m.registry.get x = r.get x := by
  unfold get
  rw [h.memo_eq]

theorem after (h : m.Within r id builder enclosing) {m' : Moment σ V} {t : Trace} {s : σ}
    (hafter : m'.registry = m.registry.after t s) : m'.Within r id builder enclosing := by
  refine ⟨?_, h.nodup, ?_, ?_, ?_, ?_⟩
  . rw [hafter, running_after, h.running_eq]
  . rw [hafter, ids_after]
    exact h.known
  . rw [hafter]
    exact h.builders_eq
  . rw [hafter]
    exact h.memo_eq
  . rw [hafter]
    exact h.store_eq

theorem enter (h : m.Within r id builder enclosing) {x : String} {inner : Build σ V V}
    (hresolve : m.registry.resolve x = .ok inner) :
    (⟨inner, m.registry.push x⟩ : Moment σ V).Within r id builder (x :: enclosing) := by
  have hstacked := h.stacked.push hresolve
  have hrunning : (m.registry.push x).running = x :: enclosing := by
    rw [running_push, h.running_eq]
  refine ⟨hrunning, ?_, ?_, h.builders_eq, h.memo_eq, h.store_eq⟩
  . rw [← hrunning]
    exact hstacked.nodup
  . rw [← hrunning]
    exact hstacked.known

end Moment.Within

variable {r : Registry σ V} {id : String} {builder : Build σ V V} {enclosing : List String}
  {m : Moment σ V}

theorem During.within (h : r.During id builder enclosing m) (hidle : r.Idle) :
    m.Within r id builder enclosing := by
  induction h with
  | start hid hadmitted =>
    have hrunning := hidle.running_opened id builder
    have hstacked := hidle.stacked_opened id builder
    refine ⟨hrunning, ?_, ?_, rfl, rfl, rfl⟩
    . rw [← hrunning]
      exact hstacked.nodup
    . rw [← hrunning]
      exact hstacked.known
  | next _ hnext ih =>
    obtain ⟨t, s, hafter⟩ := Moment.exists_after hnext
    exact ih.after hafter
  | enter _ hresolve ih => exact ih.enter hresolve

theorem During.enclosing_ne_nil (h : r.During id builder enclosing m) : enclosing ≠ [] := by
  induction h with
  | start _ _ => simp
  | next _ _ ih => exact ih
  | enter _ _ _ => simp

theorem not_during_of_rejected (hrejected : r.contains id ∧ r.policy = .reject) :
    ¬r.During id builder enclosing m := by
  intro h
  induction h with
  | start _ hadmitted => exact hadmitted hrejected
  | next _ _ ih => exact ih
  | enter _ _ ih => exact ih

end Registry
end FixtureLab

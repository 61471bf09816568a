import FixtureLab.Proofs.Registry.Moment

/-!
This module contains the discipline of the frames: at each moment they are those of the enclosing
runs, and a fetch gives them back as it found them, but for its own edge if it succeeded.
-/

namespace FixtureLab
namespace Registry

open FixtureLab.Graph (Edge Record)

variable {σ V : Type}

theorem stack_fetch_cons {edge : Edge} {x : String} {r : Registry σ V} {frame : Record}
    {rest : List Record} (hstack : r.stack = frame :: rest) :
    (fetch edge x r).2.stack
      =
    match (fetch edge x r).1 with
    | .error _ => frame :: rest
    | .ok _ => frame.link edge x :: rest := by
  rw [stack_fetch, hstack]
  cases (fetch edge x r).1 <;> rfl

theorem link_eq (frame : Record) (edge : Edge) (x : String) :
    frame.link edge x
      =
    match edge with
    | .child =>
      { frame with children := if x ∈ frame.children then frame.children
          else frame.children ++ [x] }
    | .parent => { frame with parent := some x } := by
  cases edge with
  | child =>
    simp only [Record.link, Record.addChild]
    split <;> rfl
  | parent => rfl

theorem run_depth (r : Registry σ V) : run fetch Build.depth r = (.ok r.running.length, r) := by
  have hlength : r.chain.length = r.running.length := List.length_reverse
  rw [← hlength]
  rfl

theorem Stacked.trace_eq_nil_iff {r : Registry σ V} (h : r.Stacked) (hstack : r.stack ≠ [])
    (edge : Edge) (x : String) : trace edge x r = .nil ↔ ¬r.contains x ∨ x ∈ r.running := by
  constructor
  . intro hnil
    by_contra hresolvable
    push Not at hresolvable
    obtain ⟨inner, _, hresolve⟩ := exists_resolve_eq_ok hresolvable.1 hresolvable.2
    exact trace_ne_nil h hstack hresolve hnil
  . intro hrefused
    by_cases hmem : r.contains x
    . have hrunning := hrefused.resolve_left (not_not_intro hmem)
      exact trace_of_resolve_error hstack (resolve_of_mem_running hmem hrunning)
    . exact trace_of_resolve_error hstack (resolve_of_not_contains hmem)

/--
At each moment of a registration the frames are those of the enclosing runs, which are of different
registered fixtures. A fetch leaves every frame as it is, but for the edge that a successful one
records on the innermost frame. It runs no builder iff its fixture is not registered or is running.
-/
theorem frames_during_registration (policy : DuplicatePolicy) (s : σ)
    (ops : List (Operation σ V)) (id : String) (builder : Build σ V V) (enclosing : List String)
    (m : Moment σ V) (h : ((start policy s).runAll ops).During id builder enclosing m) :
    m.registry.stack.map (·.id) = enclosing ∧
    enclosing.Nodup ∧
    (∀ x ∈ enclosing, m.registry.contains x) ∧
    m.registry.depth = enclosing.length ∧
    run fetch Build.depth m.registry = (.ok enclosing.length, m.registry) ∧
    ∀ (edge : Edge) (x : String),
      (∃ frame rest,
        m.registry.stack = frame :: rest ∧
        (fetch edge x m.registry).2.stack
          =
        match (fetch edge x m.registry).1, edge with
        | .error _, _ => frame :: rest
        | .ok _, .child =>
          { frame with children := if x ∈ frame.children then frame.children
              else frame.children ++ [x] } :: rest
        | .ok _, .parent => { frame with parent := some x } :: rest) ∧
      (∀ (α : Type) (cast? : V → Option α) (expected : String),
        (run fetch (Build.fetchAs cast? expected edge x) m.registry).2
          =
        (fetch edge x m.registry).2) ∧
      (trace edge x m.registry = .nil ↔ ¬m.registry.contains x ∨ x ∈ enclosing) ∧
      (¬m.registry.contains x →
        fetch edge x m.registry
          =
        (.error (.notRegistered x m.registry.chain), m.registry)) ∧
      (m.registry.contains x → x ∈ enclosing →
        fetch edge x m.registry = (.error (.cycle x m.registry.chain), m.registry)) ∧
      (m.registry.contains x → x ∉ enclosing →
        ∃ inner,
          Table.find? x m.registry.builders = some inner ∧
          (fetch edge x m.registry).1 = (run fetch inner (m.registry.push x)).1) := by
  have hwithin := h.within (settled_runAll policy s ops).idle
  have hrunning := hwithin.running_eq
  have hstacked := hwithin.stacked
  have hstack : m.registry.stack ≠ [] := by
    rw [stack_ne_nil_iff, hrunning]
    exact h.enclosing_ne_nil
  have hlength : m.registry.running.length = m.registry.depth := List.length_map _
  refine ⟨hrunning, hwithin.nodup, ?_, ?_, ?_, ?_⟩
  . intro x hx
    exact contains_iff_mem_ids.2 (hwithin.known x hx)
  . rw [← hlength, hrunning]
  . rw [run_depth, hrunning]
  . intro edge x
    obtain ⟨frame, rest, hframes⟩ := List.exists_cons_of_ne_nil hstack
    refine ⟨⟨frame, rest, hframes, ?_⟩, ?_, ?_, ?_, ?_, ?_⟩
    . rw [stack_fetch_cons hframes, link_eq]
      cases (fetch edge x m.registry).1 <;> cases edge <;> rfl
    . intro α cast? expected
      rw [run_fetchAs]
    . rw [hstacked.trace_eq_nil_iff hstack, hrunning]
    . intro hunknown
      exact fetch_of_resolve_error hstack (resolve_of_not_contains hunknown)
    . intro hknown hmem
      rw [← hrunning] at hmem
      exact fetch_of_resolve_error hstack (resolve_of_mem_running hknown hmem)
    . intro hknown hfree
      rw [← hrunning] at hfree
      obtain ⟨inner, hfind, hresolve⟩ := exists_resolve_eq_ok hknown hfree
      exact ⟨inner, hfind, fetch_fst hstacked hstack hresolve⟩

def grove : List (Operation Nat Nat) := [
  .register "twig" (pure 1),
  .register "leaf" (Build.fetch .child "twig")]

def crate : Build Nat Nat Nat := do
  let _ ← tryCatch (Build.fetch .child "lid") fun _ => pure 0
  Build.fetch .parent "leaf"

def leafOfCrate : Moment Nat Nat where
  program := Build.fetch .child "twig"
  registry := { ((start .overwrite 0).runAll grove).bound "crate" crate with
    stack := [{ id := "leaf" }, { id := "crate" }] }

theorem during_leafOfCrate :
    ((start .overwrite 0).runAll grove).During "crate" crate ["leaf", "crate"] leafOfCrate := by
  have hstart : ((start .overwrite 0).runAll grove).During "crate" crate ["crate"] _ :=
    .start (by decide) (by decide)
  -- the first fetch is refused, and the crate goes on
  exact .enter (.next hstart rfl) rfl

theorem frames_in_leafOfCrate :
    let r := leafOfCrate.registry
    r.depth = 2 ∧
    (fetch .child "twig" r).2.stack
      =
    [{ id := "leaf", children := ["twig"] }, { id := "crate" }] ∧
    (fetch .child "lid" r).2.stack = r.stack ∧
    fetch .parent "crate" r = (.error (.cycle "crate" ["crate", "leaf"]), r) := by
  obtain ⟨_, _, _, hdepth, _, hfetch⟩ := frames_during_registration .overwrite 0 grove "crate" crate
    ["leaf", "crate"] leafOfCrate during_leafOfCrate
  obtain ⟨⟨frame, rest, hframes, htwig⟩, _⟩ := hfetch .child "twig"
  obtain ⟨_, _, _, hlid, _⟩ := hfetch .child "lid"
  obtain ⟨_, _, _, _, hcrate, _⟩ := hfetch .parent "crate"
  obtain ⟨rfl, rfl⟩ := List.cons.inj hframes
  refine ⟨hdepth, htwig, ?_, hcrate rfl (by decide)⟩
  rw [hlid (by decide)]

end Registry
end FixtureLab

import FixtureLab.Proofs.Registry.Shared

/-!
This module contains the proof that a registration which fails leaves the registry as it was, but
for the state that its builders share.
-/

namespace FixtureLab
namespace Registry

open FixtureLab.Graph (Edge Record Store)

variable {σ V : Type}

theorem Settled.register_of_error {r : Registry σ V} (h : r.Settled) {id : String}
    {builder : Build σ V V} {e : Error} (herror : (r.register id builder).1 = .error e) :
    ∃ s, (r.register id builder).2 = r.withShared s := by
  generalize hanswer : r.register id builder = answer at herror
  have hcases := hanswer ▸ register_cases h.idle h.sorted id builder
  cases hcases with
  | refused _ _ => exact ⟨r.shared, rfl⟩
  | failed _ s _ _ => exact ⟨s, rfl⟩
  | succeeded v s _ _ => simp at herror

/--
A registration that fails changes at most the shared state. Whatever is done later has the answer it
would have had without the failed registration, if no builder tells the two shared states apart.
-/
theorem register_error_leaves_no_trace (policy : DuplicatePolicy) (s : σ)
    (ops : List (Operation σ V)) (id : String) (builder : Build σ V V) (e : Error)
    (herror : (((start policy s).runAll ops).register id builder).1 = .error e) :
    let before := (start policy s).runAll ops
    let after := (before.register id builder).2
    after.policy = before.policy ∧
    after.builders = before.builders ∧
    after.memo = before.memo ∧
    after.store = before.store ∧
    after.stack = [] ∧
    after.staged = [] ∧
    (after.shared = before.shared → after = before) ∧
    ∀ R : σ → σ → Prop, R before.shared after.shared → before.BlindTo R →
      ∀ later : List (Operation σ V), (∀ op ∈ later, op.Blind R) →
        (∃ s', after.runAll later = { before.runAll later with shared := s' }) ∧
        ∀ op : Operation σ V, op.Blind R →
          (op.run (after.runAll later)).1 = (op.run (before.runAll later)).1 := by
  have h := settled_runAll policy s ops
  generalize (start policy s).runAll ops = r at h herror ⊢
  obtain ⟨s', hafter⟩ := h.register_of_error herror
  dsimp only
  rw [hafter]
  refine ⟨rfl, rfl, rfl, rfl, h.idle.stack_eq, h.idle.staged_eq, ?_, ?_⟩
  . intro hs
    have hs' : s' = r.shared := hs
    rw [hs']
    rfl
  . intro R hs hr later hlater
    have hs' : R r.shared s' := hs
    obtain ⟨hblind, s₁, heq, hs₁⟩ := agree_runAll hr h hs' hlater
    rw [heq]
    refine ⟨⟨s₁, rfl⟩, ?_⟩
    intro op hop
    obtain ⟨s₂, hop, _⟩ := hop.agree hblind hs₁
    rw [hop]

def box : List (Operation Nat Nat) := [
  .register "twig" (pure 1),
  .register "leaf" (Build.fetch .child "twig"),
  .register "box" (Build.fetch .child "leaf")]

def boxedLeaf : Build Nat Nat Nat := do
  Build.setShared 5
  let _ ← Build.fetch .child "twig"
  Build.fetch .parent "box"

theorem blindTo_box : ((start .overwrite 0).runAll box).BlindTo fun _ _ => True := by
  have hstart : (start .overwrite 0 : Registry Nat Nat).BlindTo fun _ _ => True := by
    intro id builder h
    cases h
  have hbox : ∀ op ∈ box, op.Blind fun _ _ => True := by
    simp only [box, List.forall_mem_cons]
    exact ⟨.done _, .fetch _ _ fun _ => .done _, .fetch _ _ fun _ => .done _, by simp⟩
  exact (agree_runAll hstart (settled_start _ _) (s := 0) trivial hbox).1

theorem register_boxedLeaf_leaves_no_trace :
    let before := (start .overwrite 0).runAll box
    let failed := before.register "leaf" boxedLeaf
    let crate := Operation.register "crate" (Build.fetch .child "box")
    failed.1 = .error (.cycle "leaf" ["leaf", "box"]) ∧
    failed.2.shared = 5 ∧
    failed.2.builders = before.builders ∧
    failed.2.store = before.store ∧
    (crate.run failed.2).1 = (crate.run before).1 := by
  have herror : (((start .overwrite 0).runAll box).register "leaf" boxedLeaf).1
      =
    .error (.cycle "leaf" ["leaf", "box"]) := rfl
  obtain ⟨_, hbuilders, _, hstore, _, _, _, hlater⟩ :=
    register_error_leaves_no_trace .overwrite 0 box "leaf" boxedLeaf _ herror
  have hanswer := (hlater _ trivial blindTo_box [] (by simp)).2
  exact ⟨herror, rfl, hbuilders, hstore, hanswer (.register _ _) (.fetch _ _ fun _ => .done _)⟩

end Registry
end FixtureLab

import FixtureLab.Proofs.Registry.Machine
import FixtureLab.Proofs.Registry.Frames

/-!
This module contains the proof that every registration returns, although its builder may fetch any
fixture, itself included, and go on after a refusal: no fixture is run within its own run, so runs
are never nested deeper than there are registered fixtures.
-/

namespace FixtureLab
namespace Registry

open FixtureLab.Graph (Edge)

variable {σ V : Type}

inductive Returns (r : Registry σ V) (id : String) (builder : Build σ V V) :
    Except Error Unit × Registry σ V → Prop where
  | unnamed (hid : id = "") : Returns r id builder (.error .invalidId, r)
  | rejected (hid : id ≠ "") (hrejected : r.contains id ∧ r.policy = .reject) :
    Returns r id builder (.error (.alreadyRegistered id), r)
  | succeeded (hid : id ≠ "") (hadmitted : ¬(r.contains id ∧ r.policy = .reject)) {v : V}
    {r' : Registry σ V} (h : (r.opening id builder).Reaches ⟨.done (.ok v), [], r'⟩) :
    Returns r id builder (.ok (), (r'.pop true).commit id v)
  | failed (hid : id ≠ "") (hadmitted : ¬(r.contains id ∧ r.policy = .reject)) {e : Error}
    {r' : Registry σ V} (h : (r.opening id builder).Reaches ⟨.done (.error e), [], r'⟩) :
    Returns r id builder (.error e, (r'.pop false).rollback id (Table.find? id r.builders))

theorem Idle.reaches_end {r : Registry σ V} (h : r.Idle) (id : String) (builder : Build σ V V) :
    (r.opening id builder).Reaches
      ⟨.done (run fetch builder ((r.bound id builder).push id)).1, [],
        (run fetch builder ((r.bound id builder).push id)).2⟩ :=
  reaches_done (h.stacked_opened id builder) (ample_size _) (by simp) builder []

theorem Idle.register_eq {r : Registry σ V} (h : r.Idle) {id : String} (hid : id ≠ "")
    (hadmitted : ¬(r.contains id ∧ r.policy = .reject)) (builder : Build σ V V) :
    r.register id builder
      =
    match run fetch builder ((r.bound id builder).push id) with
    | (.ok v, r') => (.ok (), (r'.pop true).commit id v)
    | (.error e, r') => (.error e, (r'.pop false).rollback id (Table.find? id r.builders)) := by
  rw [register_eq_of_admitted hid hadmitted, h.build_eq_run]
  obtain ⟨result, r'⟩ := run fetch builder ((r.bound id builder).push id)
  cases result <;> rfl

theorem Idle.returns_register {r : Registry σ V} (h : r.Idle) (id : String)
    (builder : Build σ V V) : r.Returns id builder (r.register id builder) := by
  by_cases hid : id = ""
  . subst hid
    exact .unnamed rfl
  by_cases hrejected : r.contains id ∧ r.policy = .reject
  . rw [register_eq_of_rejected hid hrejected]
    exact .rejected hid hrejected
  have hend := h.reaches_end id builder
  rw [h.register_eq hid hrejected]
  generalize run fetch builder ((r.bound id builder).push id) = answer at hend ⊢
  obtain ⟨result, r'⟩ := answer
  cases result with
  | ok v => exact .succeeded hid hrejected hend
  | error e => exact .failed hid hrejected hend

theorem Returns.unique {r : Registry σ V} {id : String} {builder : Build σ V V}
    {answer answer' : Except Error Unit × Registry σ V} (h : r.Returns id builder answer)
    (h' : r.Returns id builder answer') : answer = answer' := by
  cases h with
  | unnamed hid =>
    cases h' with
    | unnamed _ => rfl
    | _ => contradiction
  | rejected hid hrejected =>
    cases h' with
    | rejected _ _ => rfl
    | _ => contradiction
  | succeeded hid hadmitted hend =>
    cases h' with
    | succeeded _ _ hend' =>
      cases hend.unique hend' rfl rfl
      rfl
    | failed _ _ hend' => cases hend.unique hend' rfl rfl
    | _ => contradiction
  | failed hid hadmitted hend =>
    cases h' with
    | failed _ _ hend' =>
      cases hend.unique hend' rfl rfl
      rfl
    | succeeded _ _ hend' => cases hend.unique hend' rfl rfl
    | _ => contradiction

/--
A registration comes to an end, run request by request and with nothing that bounds its calls, and
`register` answers what it comes to. At no point are more builders running than are registered.
-/
theorem registration_returns (policy : DuplicatePolicy) (s : σ) (ops : List (Operation σ V))
    (id : String) (builder : Build σ V V) :
    let r := (start policy s).runAll ops
    (∀ answer, r.Returns id builder answer ↔ answer = r.register id builder) ∧
    (∀ course : Nat → Machine σ V, course 0 = r.opening id builder →
      ¬∀ n, (course n).Steps (course (n + 1))) ∧
    ∀ m, (r.opening id builder).Reaches m →
      ∃ depth,
        run fetch Build.depth m.registry = (.ok depth, m.registry) ∧
        1 ≤ depth ∧ depth ≤ m.registry.ids.length := by
  intro r
  have hidle : r.Idle := (settled_runAll policy s ops).idle
  have hreturns := hidle.returns_register id builder
  refine ⟨?_, ?_, ?_⟩
  . intro answer
    constructor
    . intro h
      exact h.unique hreturns
    . rintro rfl
      exact hreturns
  . intro course hstart
    exact (hidle.reaches_end id builder).not_endless rfl course hstart
  . intro m hm
    have hnested := Machine.nested_of_reaches hidle hm
    refine ⟨m.registry.running.length, run_depth m.registry, ?_, ?_⟩
    . exact List.length_pos_of_ne_nil hnested.running_ne_nil
    . rw [length_ids]
      exact hnested.stacked.length_le

def coop : List (Operation Nat Nat) := [
  .register "hen" (pure 0),
  .register "egg" (Build.fetch .child "hen")]

def hen : Build Nat Nat Nat := tryCatch (Build.fetch .child "egg") fun _ => Build.depth

theorem hen_returns :
    let r := (start .overwrite 0).runAll coop
    (r.register "hen" hen).1 = .ok () ∧
    r.Returns "hen" hen (r.register "hen" hen) ∧
    ∃ m,
      (r.opening "hen" hen).Reaches m ∧
      m.registry.chain = ["hen", "egg"] ∧
      run fetch Build.depth m.registry = (.ok 2, m.registry) ∧
      2 ≤ m.registry.ids.length := by
  intro r
  obtain ⟨hreturns, _, hdepth⟩ := registration_returns .overwrite 0 coop "hen" hen
  have hegg : (r.opening "hen" hen).Reaches _ := .single rfl
  obtain ⟨depth, hrun, _, hle⟩ := hdepth _ hegg
  obtain rfl : 2 = depth := Except.ok.inj (congrArg Prod.fst hrun)
  exact ⟨rfl, (hreturns _).2 rfl, _, hegg, rfl, hrun, hle⟩

end Registry
end FixtureLab

import FixtureLab.Proofs.Registry.History
import FixtureLab.Proofs.Registry.Moment

/-!
This module contains the proof that the kept value of a fixture is the one its builder made in the
last registration of the fixture that succeeded, whatever its builder makes when it is run again.
-/

namespace FixtureLab
namespace Registry

open FixtureLab.Graph (Store)

variable {σ V : Type} {r : Registry σ V}

def Operation.made : Operation σ V → Registry σ V → List (String × V)
  | .register id builder, r =>
    if (r.register id builder).1.isOk then
      match (Registry.run Registry.fetch builder ((r.bound id builder).push id)).1 with
      | .ok v => [(id, v)]
      | .error _ => []
    else []
  | _, _ => []

def made : List (Operation σ V) → Registry σ V → List (String × V)
  | [], _ => []
  | op :: ops, r => op.made r ++ made ops (op.run r).2

def lastMade (id : String) (entries : List (String × V)) : Option V :=
  ((entries.filter (·.1 = id)).getLast?).map (·.2)

theorem lastMade_append (id : String) (es es' : List (String × V)) :
    lastMade id (es ++ es') = (lastMade id es').or (lastMade id es) := by
  unfold lastMade
  rw [List.filter_append, List.getLast?_append, Option.map_or]

theorem lastMade_singleton (id x : String) (v : V) :
    lastMade x [(id, v)] = if id = x then some v else none := by
  unfold lastMade
  by_cases h : id = x <;> simp [h]

theorem Settled.made_of_ok (h : r.Settled) {id : String} {builder : Build σ V V}
    (hok : (r.register id builder).1 = .ok ()) :
    ∃ v,
      (Operation.register id builder).made r = [(id, v)] ∧
      (r.register id builder).2.memo = Table.insert id v r.memo := by
  obtain ⟨v, s, hrun, hregister⟩ := h.idle.register_of_ok h.sorted hok
  refine ⟨v, ?_, ?_⟩
  . simp [Operation.made, hok, hrun, Except.isOk, Except.toBool]
  . rw [hregister]

theorem lastMade_eq_none {op : Operation σ V} {x : String}
    (h : ∀ builder, op = .register x builder → (r.register x builder).1 ≠ .ok ()) :
    lastMade x (op.made r) = none := by
  cases op with
  | register id builder =>
    by_cases hid : id = x
    . subst hid
      have herror := h builder rfl
      cases hanswer : (r.register id builder).1 with
      | ok _ => exact absurd hanswer herror
      | error e =>
        simp only [Operation.made, hanswer]
        rfl
    . simp only [Operation.made]
      split
      . split
        . rw [lastMade_singleton, if_neg hid]
        . rfl
      . rfl
  | _ => rfl

theorem Settled.find?_memo_run (h : r.Settled) (op : Operation σ V) (x : String) :
    Table.find? x (op.run r).2.memo = (lastMade x (op.made r)).or (Table.find? x r.memo) := by
  rcases h.kept_or_registered op with ⟨hop, s, hkept⟩ | ⟨id, builder, rfl, hok⟩
  . rw [hkept, lastMade_eq_none (hop x)]
    rfl
  . obtain ⟨v, hmade, hmemo⟩ := h.made_of_ok hok
    simp only [Operation.run]
    rw [hmade, hmemo, lastMade_singleton]
    by_cases hid : id = x
    . subst hid
      simp
    . simp [hid, Table.find?_insert_of_ne hid]

theorem Settled.find?_memo_runAll (h : r.Settled) (ops : List (Operation σ V)) (x : String) :
    Table.find? x (r.runAll ops).memo = (lastMade x (made ops r)).or (Table.find? x r.memo) := by
  induction ops generalizing r with
  | nil => rfl
  | cons op ops ih =>
    rw [runAll_cons, made, ih (h.run op), h.find?_memo_run op, lastMade_append]
    cases lastMade x (made ops (op.run r).2) <;> simp

theorem get_eq_match (r : Registry σ V) (x : String) :
    r.get x
      =
    match Table.find? x r.memo with
    | some v => .ok v
    | none => .error (.notRegistered x []) := rfl

theorem get_congr {r r' : Registry σ V} {x : String}
    (h : Table.find? x r'.memo = Table.find? x r.memo) : r'.get x = r.get x := by
  rw [get_eq_match, get_eq_match, h]

theorem exists_succeeded_of_find?_ne {s : Store} {es : List Execution} {y : String}
    (h : (s.insertAll (Execution.records es)).find? y ≠ s.find? y) :
    ∃ e ∈ es, e.succeeded ∧ e.id = y := by
  rw [Store.find?_insertAll, Execution.getLast?_filter_records] at h
  cases hlast : Execution.lastSuccess y es with
  | none =>
    rw [hlast] at h
    exact absurd rfl h
  | some e =>
    have hmem := List.mem_filter.1 (List.mem_of_getLast? hlast)
    simp only [Bool.and_eq_true, decide_eq_true_eq] at hmem
    exact ⟨e, hmem.1, hmem.2.1, hmem.2.2⟩

theorem policy_run {r : Registry σ V} (h : r.Settled) (op : Operation σ V) :
    (op.run r).2.policy = r.policy := by
  have hcases := run_cases h.idle h.sorted op
  generalize op.executions r = es at hcases
  generalize (op.run r).2 = r' at hcases ⊢
  cases hcases with
  | kept _ _ => rfl
  | registered _ _ _ _ _ _ => rfl

theorem contains_run {r : Registry σ V} (h : r.Settled) (op : Operation σ V) {x : String}
    (hx : r.contains x) : (op.run r).2.contains x := by
  have hcases := run_cases h.idle h.sorted op
  generalize op.executions r = es at hcases
  generalize (op.run r).2 = r' at hcases ⊢
  cases hcases with
  | kept _ _ => exact hx
  | registered id builder _ _ _ _ =>
    have hmem : x ∈ r.ids := contains_iff_mem_ids.1 hx
    exact contains_iff_mem_ids.2 (Table.mem_keys_insert.2 (Or.inr hmem))

theorem Settled.contains_register {r : Registry σ V} (h : r.Settled) {id : String}
    {builder : Build σ V V} (hok : (r.register id builder).1 = .ok ()) :
    (r.register id builder).2.contains id := by
  obtain ⟨v, s, -, hregister⟩ := h.idle.register_of_ok h.sorted hok
  rw [hregister]
  simp [contains, Table.contains]

theorem policy_runAll (policy : DuplicatePolicy) (s : σ) (ops : List (Operation σ V)) :
    ((start policy s).runAll ops).policy = policy := by
  have hinv := runAll_preserves (P := fun r : Registry σ V => r.Settled ∧ r.policy = policy)
    (fun r op ⟨h, hpolicy⟩ => ⟨h.run op, (policy_run h op).trans hpolicy⟩)
    ⟨settled_start policy s, rfl⟩ ops
  exact hinv.2

theorem Settled.rejected_runAll (h : r.Settled) {x : String}
    (hrejected : r.contains x ∧ r.policy = .reject) (ops : List (Operation σ V)) :
    (r.runAll ops).contains x ∧ (r.runAll ops).policy = .reject := by
  have hinv := runAll_preserves
    (P := fun r : Registry σ V => r.Settled ∧ r.contains x ∧ r.policy = .reject)
    (fun r op ⟨h, hx, hpolicy⟩ =>
      ⟨h.run op, contains_run h op hx, (policy_run h op).trans hpolicy⟩)
    ⟨h, hrejected⟩ ops
  exact hinv.2

/--
The kept value of a fixture is the one made by its last successful registration. A registration
changes the builder and the kept value of its own fixture only, and the records of those it ran with
success. Where no fixture may be registered again, the first success is the last.
-/
theorem get_runAll (policy : DuplicatePolicy) (s : σ) (ops : List (Operation σ V)) (x : String) :
    let r := (start policy s).runAll ops
    r.get x
      =
    (match lastMade x (made ops (start policy s)) with
      | some v => .ok v
      | none => .error (.notRegistered x [])) ∧
    (∀ op : Operation σ V,
      (∀ builder, op = .register x builder → (r.register x builder).1 ≠ .ok ()) →
        (op.run r).2.get x = r.get x) ∧
    (∀ (id : String) (builder : Build σ V V) (enclosing : List String) (m : Moment σ V),
      r.During id builder enclosing m → m.registry.get x = r.get x) ∧
    ∀ builder : Build σ V V, (r.register x builder).1 = .ok () →
      let r' := (r.register x builder).2
      (∃ v,
        (run fetch builder ((r.bound x builder).push x)).1 = .ok v ∧
        r'.get x = .ok v) ∧
      Table.find? x r'.builders = some builder ∧
      (∀ y, y ≠ x →
        Table.find? y r'.builders = Table.find? y r.builders ∧ r'.get y = r.get y) ∧
      (∀ y, r'.store.find? y ≠ r.store.find? y →
        ∃ e ∈ (r.registration x builder).all, e.succeeded ∧ e.id = y) ∧
      (policy = .reject →
        ¬r.contains x ∧
        ∀ (later : List (Operation σ V)) (builder' : Build σ V V),
          let r'' := r'.runAll later
          r''.register x builder' = (.error (.alreadyRegistered x), r'') ∧
          ∀ enclosing m, ¬r''.During x builder' enclosing m) := by
  have h := settled_runAll policy s ops
  have hpolicy := policy_runAll policy s ops
  have hmemo := (settled_start policy s).find?_memo_runAll ops x
  generalize (start policy s).runAll ops = r at h hpolicy hmemo ⊢
  refine ⟨?_, ?_, ?_, ?_⟩
  . have hstart : Table.find? x (start policy s : Registry σ V).memo = none := rfl
    rw [get_eq_match, hmemo, hstart, Option.or_none]
  . intro op hop
    apply get_congr
    rw [h.find?_memo_run op, lastMade_eq_none hop, Option.none_or]
  . intro id builder enclosing m hm
    exact (hm.within h.idle).get_eq x
  . intro builder hok
    obtain ⟨v, s', hrun, hregister⟩ := h.idle.register_of_ok h.sorted hok
    obtain ⟨hid, hadmitted, _⟩ := h.idle.run_of_register hok
    have hsettled : (r.register x builder).2.Settled := h.run (.register x builder)
    dsimp only
    refine ⟨⟨v, hrun, ?_⟩, ?_, ?_, ?_, ?_⟩
    . rw [hregister, get_eq_match, Table.find?_insert_self]
    . rw [hregister, Table.find?_insert_self]
    . intro y hy
      rw [hregister]
      exact ⟨Table.find?_insert_of_ne (Ne.symm hy) _ _,
        get_congr (Table.find?_insert_of_ne (Ne.symm hy) _ _)⟩
    . intro y hy
      rw [hregister] at hy
      exact exists_succeeded_of_find?_ne hy
    . intro hreject
      have hnew : ¬r.contains x := fun hx => hadmitted ⟨hx, hpolicy.trans hreject⟩
      have hrejected : (r.register x builder).2.contains x ∧
          (r.register x builder).2.policy = .reject := by
        rw [hregister]
        refine ⟨?_, hpolicy.trans hreject⟩
        simp [contains, Table.contains]
      refine ⟨hnew, ?_⟩
      intro later builder'
      have hlater := hsettled.rejected_runAll hrejected later
      exact ⟨register_eq_of_rejected hid hlater builder',
        fun _ _ => not_during_of_rejected hlater⟩

def tally : Build Nat Nat Nat := do
  let n ← Build.shared
  Build.setShared (n + 1)
  return n

def twoTallies : Build Nat Nat Nat := do
  let n ← Build.fetch .child "tally"
  let k ← Build.fetch .child "tally"
  return n + k

theorem get_tally_after_twoTallies :
    let r := (start .reject 0).runAll [.register "tally" tally, .register "two" twoTallies]
    r.shared = 3 ∧
    r.get "two" = .ok 3 ∧
    r.get "tally" = .ok 0 ∧
    ∀ builder, r.register "tally" builder = (.error (.alreadyRegistered "tally"), r) := by
  obtain ⟨htwo, _⟩ := get_runAll .reject 0
    [.register "tally" tally, .register "two" twoTallies] "two"
  obtain ⟨htally, _, _, _⟩ := get_runAll .reject 0
    [.register "tally" tally, .register "two" twoTallies] "tally"
  obtain ⟨_, _, _, hregister⟩ := get_runAll .reject 0 [] "tally"
  obtain ⟨_, _, _, _, hreject⟩ := hregister tally rfl
  refine ⟨rfl, htwo, htally, ?_⟩
  intro builder
  exact ((hreject rfl).2 [.register "two" twoTallies] builder).1

end Registry
end FixtureLab

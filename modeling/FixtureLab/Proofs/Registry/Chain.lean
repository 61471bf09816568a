import FixtureLab.Proofs.Registry.Termination
import Mathlib.Data.List.Nodup

/-!
This module contains the chains of the errors that requests raise. The error of a fetch names the
runs that enclose the request, and the error of a look-up names none. An error that no enclosing
builder swallows is the answer of the registration.
-/

namespace FixtureLab
namespace Registry

open FixtureLab.Graph (Edge)

variable {σ V : Type}

inductive Request (V : Type) : Type 1 where
  | fetch (edge : Edge) (id : String)
  | fetchAs (α : Type) (cast? : V → Option α) (expected : String) (edge : Edge) (id : String)
  | lookUp (id : String)

namespace Request

abbrev Answer : Request V → Type
  | .fetch _ _ => V
  | .fetchAs α _ _ _ _ => α
  | .lookUp _ => V

def build : (q : Request V) → Build σ V q.Answer
  | .fetch edge id => Build.fetch edge id
  | .fetchAs _ cast? expected edge id => Build.fetchAs cast? expected edge id
  | .lookUp id => Build.lookUp id

def Relays (r : Registry σ V) : Request V → Prop
  | .fetch _ id =>
    ∃ builder e, r.resolve id = .ok builder ∧ (run Registry.fetch builder (r.push id)).1 = .error e
  | .fetchAs _ _ _ _ id =>
    ∃ builder e, r.resolve id = .ok builder ∧ (run Registry.fetch builder (r.push id)).1 = .error e
  | .lookUp _ => False

def Raises (q : Request V) (r : Registry σ V) (e : Error) : Prop :=
  (run Registry.fetch q.build r).1 = .error e ∧ ¬q.Relays r

end Request

theorem resolve_eq_error {r : Registry σ V} {id : String} {e : Error}
    (h : r.resolve id = .error e) :
    e = .notRegistered id r.chain ∨ e = .cycle id r.chain ∧ id ∈ r.chain := by
  by_cases hknown : r.contains id
  . by_cases hrunning : id ∈ r.running
    . rw [resolve_of_mem_running hknown hrunning] at h
      exact Or.inr ⟨(Except.error.inj h).symm, List.mem_reverse.2 hrunning⟩
    . obtain ⟨builder, _, hresolve⟩ := exists_resolve_eq_ok hknown hrunning
      rw [hresolve] at h
      cases h
  . rw [resolve_of_not_contains hknown] at h
    exact Or.inl (Except.error.inj h).symm

theorem run_bind {α β : Type} (fetch : Fetch σ V) (p : Program σ V α) (next : α → Program σ V β)
    (r : Registry σ V) :
    run fetch (p.bind next) r = run fetch (next (run fetch p r).1) (run fetch p r).2 := by
  induction p generalizing r with
  | done a => rfl
  | fetch edge id _ ih => exact ih (fetch edge id r).1 (fetch edge id r).2
  | lookUp id _ ih => exact ih (r.get id) r
  | chain _ ih => exact ih r.chain r
  | read _ ih => exact ih r.shared r
  | write s _ ih => exact ih { r with shared := s }

variable {r : Registry σ V} {edge : Edge} {x : String} {e : Error}

theorem fetch_raised (hs : r.Stacked) (hstack : r.stack ≠ []) (h : (fetch edge x r).1 = .error e)
    (hown : ¬(Request.fetch edge x).Relays r) : r.resolve x = .error e := by
  cases hresolve : r.resolve x with
  | error e' =>
    rw [fetch_of_resolve_error hstack hresolve] at h
    exact congrArg Except.error (Except.error.inj h)
  | ok builder =>
    rw [fetch_fst hs hstack hresolve] at h
    exact absurd ⟨builder, e, hresolve, h⟩ hown

theorem fetchAs_raised {α : Type} {cast? : V → Option α} {expected : String} (hs : r.Stacked)
    (hstack : r.stack ≠ [])
    (h : (Request.fetchAs α cast? expected edge x).Raises r e) :
    r.resolve x = .error e ∨ e = .typeMismatch x expected r.chain := by
  obtain ⟨hanswer, hown⟩ := h
  simp only [Request.build, run_fetchAs] at hanswer
  cases hfetch : (fetch edge x r).1 with
  | error e' =>
    rw [hfetch] at hanswer
    obtain rfl : e' = e := Except.error.inj hanswer
    exact Or.inl (fetch_raised hs hstack hfetch hown)
  | ok v =>
    rw [hfetch] at hanswer
    dsimp only at hanswer
    cases hcast : cast? v with
    | some a =>
      rw [hcast] at hanswer
      cases hanswer
    | none =>
      rw [hcast] at hanswer
      exact Or.inr (Except.error.inj hanswer).symm

theorem lookUp_raised (h : (Request.lookUp x).Raises r e) : e = .notRegistered x [] := by
  have hget : r.get x = .error e := h.1
  unfold get at hget
  split at hget
  . cases hget
  . exact (Except.error.inj hget).symm

theorem run_dataId (r : Registry σ V) :
    run fetch Build.dataId r = (.ok (r.chain.getLast?.getD ""), r) := rfl

/-- The run ends in the error, and so does each run that waits for it when it is given the error. -/
def PassedOn (e : Error) : List (Call σ V) → Program σ V (Except Error V) → Registry σ V → Prop
  | [], p, r => (run fetch p r).1 = .error e
  | call :: calls, p, r =>
    (run fetch p r).1 = .error e ∧
    PassedOn e calls (call.next (.error e)) ((run fetch p r).2.pop false)

theorem PassedOn.of_run_eq {calls : List (Call σ V)} {p p' : Program σ V (Except Error V)}
    {r' : Registry σ V} (h : PassedOn e calls p r) (hrun : run fetch p' r' = run fetch p r) :
    PassedOn e calls p' r' := by
  cases calls with
  | nil =>
    unfold PassedOn at h ⊢
    rw [hrun]
    exact h
  | cons call calls =>
    unfold PassedOn at h ⊢
    rw [hrun]
    exact h

variable {id : String} {builder : Build σ V V}

theorem Machine.Nested.reaches_error {r' : Registry σ V} {calls : List (Call σ V)}
    {p : Program σ V (Except Error V)}
    (h : Machine.Nested ⟨p, calls, r'⟩ r id builder) (hpassed : PassedOn e calls p r') :
    ∃ r'', Machine.Reaches ⟨p, calls, r'⟩ ⟨.done (.error e), [], r''⟩ := by
  induction calls generalizing p r' with
  | nil =>
    have hend := reaches_done h.stacked (ample_size r') h.running_ne_nil p []
    unfold PassedOn at hpassed
    rw [hpassed] at hend
    exact ⟨_, hend⟩
  | cons call calls ih =>
    have hend := reaches_done h.stacked (ample_size r') h.running_ne_nil p (call :: calls)
    obtain ⟨herror, hcaller⟩ := hpassed
    rw [herror] at hend
    have hleft := hend.tail (Machine.steps_left call calls (.error e) (run fetch p r').2)
    obtain ⟨r'', hrest⟩ := ih (h.reaches hleft) hcaller
    exact ⟨r'', hleft.trans hrest⟩

theorem Idle.register_of_passedOn {m : Machine σ V} (hidle : r.Idle) (hid : id ≠ "")
    (hadmitted : ¬(r.contains id ∧ r.policy = .reject)) (h : (r.opening id builder).Reaches m)
    (hpassed : PassedOn e m.calls m.program m.registry) : (r.register id builder).1 = .error e := by
  have hnested := Machine.nested_of_reaches hidle h
  obtain ⟨r'', hrest⟩ := hnested.reaches_error hpassed
  have hend := Machine.Reaches.unique (hidle.reaches_end id builder) (h.trans hrest) rfl rfl
  obtain ⟨hdone, _, hregistry⟩ := Machine.mk.inj hend
  have hresult := Program.done.inj hdone
  rw [hidle.register_eq hid hadmitted, ← Prod.eta (run fetch builder _), hresult]

/--
The error of a fetch names the enclosing runs, the last of which is the one that makes the fetch.
The error of a look-up names none. If the runs that enclose a request pass its error on, it is the
answer of the registration.
-/
theorem raised_errors_name_enclosing (policy : DuplicatePolicy) (s : σ) (ops : List (Operation σ V))
    (id : String) (builder : Build σ V V) (hid : id ≠ "")
    (hadmitted : ¬(((start policy s).runAll ops).contains id ∧
      ((start policy s).runAll ops).policy = .reject))
    (m : Machine σ V) (h : (((start policy s).runAll ops).opening id builder).Reaches m) :
    let ids := m.enclosing id
    run fetch Build.depth m.registry = (.ok ids.length, m.registry) ∧
    (∃ current, ids.getLast? = some current ∧
      run fetch Build.dataId m.registry = (.ok current, m.registry)) ∧
    ids.Nodup ∧
    (∀ (q : Request V) (e : Error), q.Raises m.registry e →
      match q with
      | .fetch _ x => e = .notRegistered x ids ∨ e = .cycle x ids ∧ x ∈ ids
      | .fetchAs _ _ expected _ x =>
        e = .notRegistered x ids ∨ e = .cycle x ids ∧ x ∈ ids ∨ e = .typeMismatch x expected ids
      | .lookUp x => e = .notRegistered x []) ∧
    ∀ (q : Request V) (next : Except Error q.Answer → Program σ V (Except Error V)) (e : Error),
      m.program = Program.bind q.build next →
      (run fetch q.build m.registry).1 = .error e →
      PassedOn e m.calls (next (.error e)) (run fetch q.build m.registry).2 →
      (((start policy s).runAll ops).register id builder).1 = .error e := by
  intro ids
  have hidle := (settled_runAll policy s ops).idle
  have hnested := Machine.nested_of_reaches hidle h
  have hchain : m.registry.chain = ids := hnested.chain_eq
  have hlength : m.registry.running.length = ids.length := by
    rw [← hchain]
    exact List.length_reverse.symm
  have hstack := stack_ne_nil_iff.2 hnested.running_ne_nil
  refine ⟨?_, ?_, ?_, ?_, ?_⟩
  . rw [run_depth, hlength]
  . have hne : ids ≠ [] := List.cons_ne_nil _ _
    refine ⟨ids.getLast hne, List.getLast?_eq_some_getLast hne, ?_⟩
    rw [run_dataId, hchain, List.getLast?_eq_some_getLast hne]
    rfl
  . rw [← hchain]
    exact List.nodup_reverse.2 hnested.stacked.nodup
  . intro q e hraises
    cases q with
    | fetch edge x =>
      have hresolve := fetch_raised hnested.stacked hstack hraises.1 hraises.2
      rw [← hchain]
      exact resolve_eq_error hresolve
    | fetchAs α cast? expected edge x =>
      rw [← hchain]
      rcases fetchAs_raised hnested.stacked hstack hraises with hresolve | hmismatch
      . exact (resolve_eq_error hresolve).imp_right Or.inl
      . exact Or.inr (Or.inr hmismatch)
    | lookUp x => exact lookUp_raised hraises
  . intro q next e hprogram hanswer hpassed
    apply hidle.register_of_passedOn hid hadmitted h
    apply hpassed.of_run_eq
    rw [hprogram, run_bind, hanswer]

def small? (n : Nat) : Option Nat := if n < 5 then some n else none

def carton : Build Nat Nat Nat := do
  let shoe ← Build.fetchAs small? "Small" .child "shoe"
  return shoe + 1

def shop : List (Operation Nat Nat) :=
  [.register "shoe" (pure 1), .register "carton" carton, .register "shoe" (pure 7)]

def cartonOfParcel : Machine Nat Nat where
  program := carton
  calls := [⟨.parent, "carton", .done⟩]
  registry :=
    (((start .overwrite 0).runAll shop).bound "parcel" (Build.fetch .parent "carton")).push "parcel"
      |>.push "carton"

theorem mismatch_in_cartonOfParcel :
    let r := (start .overwrite 0).runAll shop
    let e := Error.typeMismatch "shoe" "Small" ["parcel", "carton"]
    (r.opening "parcel" (Build.fetch .parent "carton")).Reaches cartonOfParcel ∧
    (Request.fetchAs Nat small? "Small" .child "shoe").Raises cartonOfParcel.registry e ∧
    (r.register "parcel" (Build.fetch .parent "carton")).1 = .error e := by
  intro r e
  have hreaches : (r.opening "parcel" (Build.fetch .parent "carton")).Reaches cartonOfParcel :=
    .single rfl
  have hanswer : (run fetch (Build.fetchAs small? "Small" .child "shoe") cartonOfParcel.registry).1
      =
    .error e := rfl
  obtain ⟨_, _, _, _, hpassed⟩ := raised_errors_name_enclosing .overwrite 0 shop "parcel"
    (Build.fetch .parent "carton") (by decide) (by decide) cartonOfParcel hreaches
  refine ⟨hreaches, ⟨hanswer, ?_⟩, ?_⟩
  . rintro ⟨builder, e', hresolve, hrun⟩
    cases hresolve
    cases hrun
  . exact hpassed (.fetchAs Nat small? "Small" .child "shoe")
      (ExceptT.bindCont fun shoe => pure (shoe + 1)) e rfl hanswer ⟨rfl, rfl⟩

theorem lookUp_names_no_builder :
    let r : Registry Nat Nat := start .overwrite 0
    ∃ m e,
      (r.opening "carton" (Build.lookUp "shoe")).Reaches m ∧
      (Request.lookUp "shoe").Raises m.registry e ∧
      (r.register "carton" (Build.lookUp "shoe")).1 = .error e ∧
      m.enclosing "carton" = ["carton"] ∧
      e.chain? = some [] :=
  ⟨_, .notRegistered "shoe" [], .refl, ⟨rfl, id⟩, rfl, rfl, rfl⟩

end Registry
end FixtureLab

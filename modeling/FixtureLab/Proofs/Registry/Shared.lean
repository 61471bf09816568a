import FixtureLab.Proofs.Registry.Invariant

/-!
This module contains the proof that a registry answers the same for two shared states which its
builders do not tell apart.
-/

namespace FixtureLab
namespace Registry

open FixtureLab.Graph (Edge Record Store)

variable {σ V α : Type} {R : σ → σ → Prop}

/-- The programs do the same as long as the shared states they read are related. -/
inductive Program.Alike (R : σ → σ → Prop) : Program σ V α → Program σ V α → Prop where
  | done (a : α) : Alike R (.done a) (.done a)
  | fetch (edge : Edge) (id : String) {next next' : Except Error V → Program σ V α}
    (h : ∀ answer, Alike R (next answer) (next' answer)) :
    Alike R (.fetch edge id next) (.fetch edge id next')
  | lookUp (id : String) {next next' : Except Error V → Program σ V α}
    (h : ∀ answer, Alike R (next answer) (next' answer)) :
    Alike R (.lookUp id next) (.lookUp id next')
  | chain {next next' : List String → Program σ V α} (h : ∀ ids, Alike R (next ids) (next' ids)) :
    Alike R (.chain next) (.chain next')
  | read {next next' : σ → Program σ V α} (h : ∀ s s', R s s' → Alike R (next s) (next' s')) :
    Alike R (.read next) (.read next')
  | write {s s' : σ} (hs : R s s') {next next' : Program σ V α} (h : Alike R next next') :
    Alike R (.write s next) (.write s' next')

def Build.Blind (R : σ → σ → Prop) (builder : Build σ V V) : Prop := Program.Alike R builder builder

def Operation.Blind (R : σ → σ → Prop) : Operation σ V → Prop
  | .register _ builder => Build.Blind R builder
  | .share f => ∀ s s', R s s' → R (f s) (f s')
  | _ => True

def BlindTo (R : σ → σ → Prop) (r : Registry σ V) : Prop :=
  ∀ id builder, Table.find? id r.builders = some builder → Build.Blind R builder

theorem BlindTo.bound {r : Registry σ V} (h : r.BlindTo R) (id : String) {builder : Build σ V V}
    (hb : Build.Blind R builder) : (r.bound id builder).BlindTo R := by
  intro x b hfind
  by_cases heq : id = x
  . subst heq
    simp only [Registry.bound, Table.find?_insert_self] at hfind
    injection hfind with hfind
    exact hfind ▸ hb
  . simp only [Registry.bound, Table.find?_insert_of_ne heq] at hfind
    exact h x b hfind

def Agree {α : Type} (R : σ → σ → Prop) (a a' : α × Registry σ V) : Prop :=
  ∃ s, a' = (a.1, a.2.withShared s) ∧ R a.2.shared s

def Respects (R : σ → σ → Prop) (fetch : Fetch σ V) : Prop :=
  ∀ edge id r s, BlindTo R r → R r.shared s →
    Agree R (fetch edge id r) (fetch edge id (r.withShared s))

variable {fetch : Fetch σ V} {tracer : Tracer σ V}

theorem agree_run (h : Traced fetch tracer) (hf : Respects R fetch) {p p' : Program σ V α}
    (hp : Program.Alike R p p') {r : Registry σ V} (hr : r.BlindTo R) {s : σ}
    (hs : R r.shared s) : Agree R (run fetch p r) (run fetch p' (r.withShared s)) := by
  induction hp generalizing r s with
  | done a => exact ⟨s, rfl, hs⟩
  | fetch edge id _ ih =>
    obtain ⟨s', heq, hs'⟩ := hf edge id r s hr hs
    obtain ⟨t, hafter⟩ := h edge id r
    -- both runs go on with the same answer, and a fetch binds no builder
    simp only [run, heq]
    refine ih _ ?_ hs'
    rw [hafter]
    exact hr
  | lookUp id _ ih => exact ih (r.get id) hr hs
  | chain _ ih => exact ih r.chain hr hs
  | read _ ih => exact ih r.shared s hs hr hs
  | @write t t' ht _ _ _ ih => exact ih (r := r.withShared t) hr ht

@[simp]
theorem pop_withShared (r : Registry σ V) (s : σ) (succeeded : Bool) :
    (r.withShared s).pop succeeded = (r.pop succeeded).withShared s := by
  unfold withShared pop
  cases h : r.stack <;> simp [h]

@[simp]
theorem shared_pop (r : Registry σ V) (succeeded : Bool) : (r.pop succeeded).shared = r.shared := by
  unfold pop
  cases r.stack <;> rfl

@[simp]
theorem link_withShared (r : Registry σ V) (s : σ) (edge : Edge) (id : String) :
    (r.withShared s).link edge id = (r.link edge id).withShared s := by
  unfold withShared link
  cases h : r.stack <;> simp [h]

@[simp]
theorem shared_link (r : Registry σ V) (edge : Edge) (id : String) :
    (r.link edge id).shared = r.shared := by
  unfold link
  cases r.stack <;> rfl

theorem agree_execute (h : Traced fetch tracer) (hf : Respects R fetch) (id : String)
    {builder : Build σ V V} (hb : Build.Blind R builder) {r : Registry σ V} (hr : r.BlindTo R)
    {s : σ} (hs : R r.shared s) :
    Agree R (execute fetch id builder r) (execute fetch id builder (r.withShared s)) := by
  obtain ⟨s', heq, hs'⟩ := agree_run h hf hb (r := r.push id) hr hs
  have hpush : (r.withShared s).push id = (r.push id).withShared s := rfl
  rw [execute_eq_run, execute_eq_run, hpush, heq]
  exact ⟨s', by rw [pop_withShared], by rwa [shared_pop]⟩

theorem respects_fetchWithin (room : Nat) : Respects R (fetchWithin room : Fetch σ V) := by
  induction room using Nat.strongRecOn with
  | ind room ih =>
    intro edge id r s hr hs
    have hcases := fetch_cases room edge id r
    generalize fetchWithin room edge id r = answer at hcases ⊢
    generalize traceWithin room edge id r = t at hcases
    cases hcases with
    | idle h => exact ⟨s, (Fetched.idle (r := r.withShared s) h).fetch_eq, hs⟩
    | refused h hresolve =>
      exact ⟨s, (Fetched.refused (r := r.withShared s) h hresolve).fetch_eq, hs⟩
    | full h hresolve => exact ⟨s, (Fetched.full (r := r.withShared s) h hresolve).fetch_eq, hs⟩
    | @failed room builder e r' h hresolve hexec =>
      have hblind := hr id builder (resolve_eq_ok_iff.1 hresolve).1
      obtain ⟨s', heq, hs'⟩ := agree_execute (traced_fetchWithin room)
        (ih room (Nat.lt_succ_self room)) id hblind hr hs
      rw [hexec] at heq hs'
      exact ⟨s', (Fetched.failed (r := r.withShared s) h hresolve heq).fetch_eq, hs'⟩
    | @built room builder v r' h hresolve hexec =>
      have hblind := hr id builder (resolve_eq_ok_iff.1 hresolve).1
      obtain ⟨s', heq, hs'⟩ := agree_execute (traced_fetchWithin room)
        (ih room (Nat.lt_succ_self room)) id hblind hr hs
      rw [hexec] at heq hs'
      refine ⟨s', ?_, by simpa using hs'⟩
      rw [(Fetched.built (r := r.withShared s) h hresolve heq).fetch_eq, link_withShared]

theorem agree_build {r : Registry σ V} (hr : r.BlindTo R) {s : σ} (hs : R r.shared s)
    (id : String) : Agree R (build r id) (build (r.withShared s) id) := by
  have hresolve : (r.withShared s).resolve id = r.resolve id := rfl
  unfold build
  rw [hresolve]
  cases hbuilder : r.resolve id with
  | error e => exact ⟨s, rfl, hs⟩
  | ok builder =>
    have hblind := hr id builder (resolve_eq_ok_iff.1 hbuilder).1
    exact agree_execute (traced_fetchWithin r.size) (respects_fetchWithin r.size) id hblind hr hs

theorem agree_register {r : Registry σ V} (hr : r.BlindTo R) {s : σ} (hs : R r.shared s)
    (id : String) {builder : Build σ V V} (hb : Build.Blind R builder) :
    Agree R (r.register id builder) ((r.withShared s).register id builder) := by
  by_cases hid : id = ""
  . subst hid
    exact ⟨s, rfl, hs⟩
  by_cases hrejected : r.contains id ∧ r.policy = .reject
  . rw [register_eq_of_rejected hid hrejected,
      register_eq_of_rejected (r := r.withShared s) hid hrejected]
    exact ⟨s, rfl, hs⟩
  . rw [register_eq_of_admitted hid hrejected,
      register_eq_of_admitted (r := r.withShared s) hid hrejected]
    obtain ⟨s', heq, hs'⟩ := agree_build (hr.bound id hb) (r := r.bound id builder) hs id
    have hbound : (r.withShared s).bound id builder = (r.bound id builder).withShared s := rfl
    rw [hbound, heq]
    cases hbuild : build (r.bound id builder) id with
    | mk result r' =>
      rw [hbuild] at hs'
      cases result <;> exact ⟨s', rfl, hs'⟩

theorem Operation.Blind.agree {op : Operation σ V} (hop : op.Blind R) {r : Registry σ V}
    (hr : r.BlindTo R) {s : σ} (hs : R r.shared s) :
    Agree R (op.run r) (op.run (r.withShared s)) := by
  cases op with
  | register id builder => exact agree_register hr hs id hop
  | get id => exact ⟨s, rfl, hs⟩
  | getAs α cast? expected id => exact ⟨s, rfl, hs⟩
  | fetch edge id => exact respects_fetchWithin r.size edge id r s hr hs
  | share f => exact ⟨f s, rfl, hop r.shared s hs⟩

theorem BlindTo.run {r : Registry σ V} (hr : r.BlindTo R) (h : r.Settled) {op : Operation σ V}
    (hop : op.Blind R) : (op.run r).2.BlindTo R := by
  have hcases := run_cases h.idle h.sorted op
  generalize op.executions r = es at hcases
  generalize (op.run r).2 = r' at hcases ⊢
  cases hcases with
  | kept op s => exact hr
  | registered id builder v s _ _ => exact hr.bound id hop

theorem agree_runAll {r : Registry σ V} (hr : r.BlindTo R) (h : r.Settled) {s : σ}
    (hs : R r.shared s) {ops : List (Operation σ V)} (hops : ∀ op ∈ ops, op.Blind R) :
    (r.runAll ops).BlindTo R ∧
      ∃ s', (r.withShared s).runAll ops = (r.runAll ops).withShared s' ∧
        R (r.runAll ops).shared s' := by
  induction ops generalizing r s with
  | nil => exact ⟨hr, s, rfl, hs⟩
  | cons op ops ih =>
    have hop := hops op List.mem_cons_self
    obtain ⟨s', heq, hs'⟩ := hop.agree hr hs
    simp only [runAll_cons, heq]
    exact ih (hr.run h hop) (h.run op) hs' fun o ho => hops o (List.mem_cons_of_mem op ho)

end Registry
end FixtureLab

import FixtureLab.Proofs.Registry.Fetch

/-!
This module contains pure builders. A pure builder follows a recipe: its requests and what it makes
depend on the values it was given before, and if a request fails, it ends in the error of the first
one that does.
-/

namespace FixtureLab
namespace Registry

open FixtureLab.Graph (Edge)

variable {σ V α : Type}

/-- Requests, each of which may depend on the values of the earlier ones, and what they end in. -/
inductive Recipe (V : Type) where
  | done (value : V)
  | fail (error : List String → Error)
  | fetch (edge : Edge) (id : String) (next : V → Recipe V)
  | lookUp (id : String) (next : V → Recipe V)

namespace Recipe

def Within (fetched kept : String → Prop) : Recipe V → Prop
  | .done _ => True
  | .fail _ => True
  | .fetch _ id next => fetched id ∧ ∀ v, Within fetched kept (next v)
  | .lookUp id next => kept id ∧ ∀ v, Within fetched kept (next v)

theorem within_true (recipe : Recipe V) : recipe.Within (fun _ => True) fun _ => True := by
  induction recipe with
  | done v => trivial
  | fail error => trivial
  | fetch edge id next ih => exact ⟨trivial, ih⟩
  | lookUp id next ih => exact ⟨trivial, ih⟩

end Recipe

namespace Program

/--
The program ends in the error when `ids` are under construction. It may request more on its way
there, whatever the answers are.
-/
def Fails (ids : List String) (e : Error) : Program σ V (Except Error α) → Prop
  | .done result => result = .error e
  | .fetch _ _ next => ∀ answer, Fails ids e (next answer)
  | .lookUp _ next => ∀ answer, Fails ids e (next answer)
  | .chain next => Fails ids e (next ids)
  | .read next => ∀ s, Fails ids e (next s)
  | .write _ next => Fails ids e next

theorem Fails.run_eq {ids : List String} {e : Error} {p : Program σ V (Except Error α)}
    (h : Fails ids e p) {r : Registry σ V} (hchain : r.chain = ids) :
    (run Registry.fetch p r).1 = .error e := by
  induction p generalizing r with
  | done result => exact h
  | fetch edge id next ih =>
    obtain ⟨s, hafter⟩ := traced_fetch edge id r
    have hnext : (Registry.fetch edge id r).2.chain = ids := by rw [hafter, chain_after, hchain]
    exact ih _ (h _) hnext
  | lookUp id next ih => exact ih _ (h _) hchain
  | chain next ih =>
    subst hchain
    exact ih _ h rfl
  | read next ih => exact ih _ (h _) hchain
  | write s next ih => exact ih (r := r.withShared s) h hchain

/--
The program does what the recipe says when `ids` are under construction, whatever it reads from the
shared state. If a request fails, it ends in that error.
-/
inductive Follows (ids : List String) : Program σ V (Except Error V) → Recipe V → Prop where
  | done (v : V) : Follows ids (.done (.ok v)) (.done v)
  | fail {p : Program σ V (Except Error V)} (error : List String → Error)
    (h : Fails ids (error ids) p) : Follows ids p (.fail error)
  | fetch (edge : Edge) (id : String) {next : Except Error V → Program σ V (Except Error V)}
    {recipe : V → Recipe V} (hok : ∀ v, Follows ids (next (.ok v)) (recipe v))
    (herror : ∀ e, Fails ids e (next (.error e))) :
    Follows ids (.fetch edge id next) (.fetch edge id recipe)
  | lookUp (id : String) {next : Except Error V → Program σ V (Except Error V)}
    {recipe : V → Recipe V} (hok : ∀ v, Follows ids (next (.ok v)) (recipe v))
    (herror : ∀ e, Fails ids e (next (.error e))) :
    Follows ids (.lookUp id next) (.lookUp id recipe)
  | chain {next : List String → Program σ V (Except Error V)} {recipe : Recipe V}
    (h : Follows ids (next ids) recipe) : Follows ids (.chain next) recipe
  | read {next : σ → Program σ V (Except Error V)} {recipe : Recipe V}
    (h : ∀ s, Follows ids (next s) recipe) : Follows ids (.read next) recipe
  | write (s : σ) {next : Program σ V (Except Error V)} {recipe : Recipe V}
    (h : Follows ids next recipe) : Follows ids (.write s next) recipe

def Begins (ids : List String) (p : Program σ V (Except Error V)) : Recipe V → Prop
  | .done v => p = .done (.ok v)
  | .fail error => Fails ids (error ids) p
  | .fetch edge id recipe =>
    ∃ next,
      p = .fetch edge id next ∧
      (∀ v, Follows ids (next (.ok v)) (recipe v)) ∧
      ∀ e, Fails ids e (next (.error e))
  | .lookUp id recipe =>
    ∃ next,
      p = .lookUp id next ∧
      (∀ v, Follows ids (next (.ok v)) (recipe v)) ∧
      ∀ e, Fails ids e (next (.error e))

namespace Follows

variable {ids : List String} {p : Program σ V (Except Error V)} {recipe : Recipe V}

theorem exists_begins (h : Follows ids p recipe) {r : Registry σ V} (hchain : r.chain = ids)
    (fetch : Fetch σ V) :
    ∃ s p', run fetch p r = run fetch p' (r.withShared s) ∧ Begins ids p' recipe := by
  induction h generalizing r with
  | done v => exact ⟨r.shared, .done (.ok v), rfl, rfl⟩
  | @fail p error h => exact ⟨r.shared, p, rfl, h⟩
  | @fetch edge id next _ hok herror _ =>
    exact ⟨r.shared, .fetch edge id next, rfl, next, rfl, hok, herror⟩
  | @lookUp id next _ hok herror _ =>
    exact ⟨r.shared, .lookUp id next, rfl, next, rfl, hok, herror⟩
  | chain _ ih =>
    subst hchain
    exact ih rfl
  | read _ ih => exact ih r.shared hchain
  | write s _ ih => exact ih (r := r.withShared s) hchain

theorem run_fail {error : List String → Error} (h : Follows ids p (.fail error))
    {r : Registry σ V} (hchain : r.chain = ids) :
    (run Registry.fetch p r).1 = .error (error ids) := by
  obtain ⟨s, p', hrun, hbegins⟩ := h.exists_begins hchain Registry.fetch
  rw [hrun]
  exact Fails.run_eq (r := r.withShared s) hbegins hchain

theorem fetchAs (cast? : V → Option α) (expected : String) (edge : Edge) (id : String)
    {next : Except Error α → Program σ V (Except Error V)} {recipe : α → Recipe V}
    (hok : ∀ a, Follows ids (next (.ok a)) (recipe a))
    (herror : ∀ e, Fails ids e (next (.error e))) :
    Follows ids (Program.bind (Build.fetchAs cast? expected edge id) next)
      (.fetch edge id fun v =>
        match cast? v with
        | some a => recipe a
        | none => .fail fun ids => .typeMismatch id expected ids) := by
  apply Follows.fetch
  . intro v
    dsimp only [Build.fetchAs, Program.bind, ExceptT.bindCont]
    cases cast? v with
    | some a => exact hok a
    | none =>
      -- the error carries the chain that the program asks for, which is `ids`
      exact .fail _ (herror _)
  . exact herror

theorem dataId {id : String} (hid : ids.getLast? = some id)
    {next : Except Error String → Program σ V (Except Error V)}
    (h : Follows ids (next (.ok id)) recipe) :
    Follows ids (Program.bind Build.dataId next) recipe := by
  apply Follows.chain
  change Follows ids (next (.ok (ids.getLast?.getD ""))) recipe
  rw [hid]
  exact h

end Follows
end Program

def Build.Follows (id : String) (builder : Build σ V V) (recipe : Recipe V) : Prop :=
  ∀ ids, ids.getLast? = some id → Program.Follows ids builder recipe

/--
A builder whose requests and result depend on its identifier and the answers to its earlier requests
only, and which ends in the error of the first request that fails.
-/
def Build.IsPure (id : String) (builder : Build σ V V) : Prop :=
  ∃ recipe, Build.Follows id builder recipe

theorem Build.isPure_done (id : String) (v : V) : Build.IsPure id (pure v : Build σ V V) :=
  ⟨.done v, fun _ _ => .done v⟩

theorem Build.isPure_fetch (id : String) (edge : Edge) (x : String) :
    Build.IsPure id (Build.fetch edge x : Build σ V V) :=
  ⟨.fetch edge x .done, fun _ _ => .fetch edge x .done fun _ => rfl⟩

def AllPure (r : Registry σ V) : Prop :=
  ∀ id builder, Table.find? id r.builders = some builder → Build.IsPure id builder

theorem allPure_of_forall_mem {r : Registry σ V}
    (h : ∀ entry ∈ r.builders, Build.IsPure entry.1 entry.2) : r.AllPure :=
  fun _ _ hfind => h _ (Table.mem_of_find?_eq_some hfind)

end Registry
end FixtureLab

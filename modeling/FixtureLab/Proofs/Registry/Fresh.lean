import FixtureLab.Proofs.Registry.Book
import FixtureLab.Proofs.Registry.Memo

/-!
This module contains the proof that a fixture which is built afresh has the value that was kept, as
long as no fixture is registered again and the builders are pure: every run replays the first one,
and stores the record that is stored already.
-/

namespace FixtureLab
namespace Registry

open FixtureLab.Graph (Edge Store)

variable {σ V : Type} {r : Registry σ V} {book : String → Option (Recipe V)}

structure Faithful (r : Registry σ V) (book : String → Option (Recipe V)) : Prop where
  offers : r.Offers book
  keeps : r.KeepsTo book
  yields : ∀ id recipe, book id = some recipe →
    ∃ v t,
      Recipe.Yields book r.memo [id] recipe v t ∧
      Table.find? id r.memo = some v ∧
      r.store.find? id = some (Execution.record ⟨id, t, true⟩)

namespace Faithful

variable {id : String} {recipe : Recipe V} {enclosing : List String} {v : V} {t : Trace}

theorem kept (h : r.Faithful book) (hrecipe : book id = some recipe)
    (hyields : Recipe.Yields book r.memo enclosing recipe v t) :
    Table.find? id r.memo = some v ∧
      r.store.find? id = some (Execution.record ⟨id, t, true⟩) := by
  obtain ⟨v', t', hyields', hmemo, hstore⟩ := h.yields id recipe hrecipe
  obtain ⟨rfl, rfl⟩ := hyields.unique hyields'
  exact ⟨hmemo, hstore⟩

theorem stored (h : r.Faithful book) (hyields : Recipe.Yields book r.memo enclosing recipe v t) :
    ∀ record ∈ t.records, r.store.find? record.id = some record := by
  intro record hrecord
  obtain ⟨_, _, _, _, hrecipe, hinner, heq⟩ := hyields.exists_of_mem_records hrecord
  rw [(h.kept hrecipe hinner).2, ← heq]

theorem exists_yields_within (h : r.Faithful book) (hrecipe : book id = some recipe) {x : String}
    (hx : book x = none) : ∃ v t, Recipe.Yields book r.memo [id, x] recipe v t := by
  obtain ⟨v, t, hyields, _, _⟩ := h.yields id recipe hrecipe
  refine ⟨v, t, hyields.of_disjoint ?_⟩
  intro y hy hmem
  rcases List.mem_cons.1 hmem with rfl | hmem
  . exact hyields.not_mem_running hy List.mem_cons_self
  . -- the book does not know `x`, so no run of a recipe asks for it
    obtain rfl := List.mem_singleton.1 hmem
    obtain ⟨record, hrecord, rfl⟩ := List.mem_map.1 hy
    obtain ⟨_, _, _, _, hknown, _, _⟩ := hyields.exists_of_mem_records hrecord
    rw [hx] at hknown
    cases hknown

theorem withShared (h : r.Faithful book) (s : σ) : (r.withShared s).Faithful book :=
  ⟨h.offers, h.keeps, h.yields⟩

theorem insertAll_records (h : r.Faithful book) (hr : r.Settled)
    (hyields : Recipe.Yields book r.memo enclosing recipe v t) :
    r.store.insertAll (Execution.records (Execution.all ⟨id, t, true⟩))
      =
    r.store.insert (Execution.record ⟨id, t, true⟩) := by
  rw [Trace.records_all, Store.insertAll_append,
    Store.insertAll_eq_self hr.store_sorted (h.stored hyields)]
  rfl

theorem registered (h : r.Faithful book) (hr : r.Settled) (hnew : ¬r.contains id)
    {builder : Build σ V V} (hbuilder : Build.Follows id builder recipe)
    (hyields : Recipe.Yields book r.memo [id] recipe v t) (s : σ) :
    Faithful
      { r with
        builders := Table.insert id builder r.builders
        memo := Table.insert id v r.memo
        store := r.store.insert (Execution.record ⟨id, t, true⟩)
        shared := s }
      (Function.update book id (some recipe)) := by
  have hunknown : book id = none := h.offers.eq_none hnew
  -- what was yielded before is yielded still
  have hmono : ∀ {x recipe' w u}, Recipe.Yields book r.memo [x] recipe' w u →
      Recipe.Yields (Function.update book id (some recipe)) (Table.insert id v r.memo) [x]
        recipe' w u := by
    intro x recipe' w u hyields'
    refine hyields'.mono ?_ fun _ _ => hr.find?_insert_memo hnew v
    intro y _ recipe'' hy
    have hne : y ≠ id := by
      rintro rfl
      rw [hunknown] at hy
      cases hy
    rw [Function.update_of_ne hne, hy]
  refine ⟨h.offers.update hbuilder, h.keeps.update hbuilder, ?_⟩
  intro x recipe' hx
  by_cases hid : x = id
  . subst hid
    rw [Function.update_self] at hx
    obtain rfl := Option.some.inj hx
    refine ⟨v, t, hmono hyields, Table.find?_insert_self _ _ _, ?_⟩
    rw [Store.find?_insert]
    exact if_pos rfl
  . rw [Function.update_of_ne hid] at hx
    obtain ⟨w, u, hyields', hmemo, hstore⟩ := h.yields x recipe' hx
    refine ⟨w, u, hmono hyields', hr.find?_insert_memo hnew v hmemo, ?_⟩
    rw [Store.find?_insert, ← hstore]
    exact if_neg (Ne.symm hid)

theorem exists_register (h : r.Faithful book) (hr : r.Settled) {builder : Build σ V V}
    (hnew : ¬r.contains id) (hbuilder : Build.Follows id builder recipe)
    (hok : (r.register id builder).1 = .ok ()) :
    ∃ v t s,
      Recipe.Yields book r.memo [id] recipe v t ∧
      (r.register id builder).2
        =
      { r with
        builders := Table.insert id builder r.builders
        memo := Table.insert id v r.memo
        store := r.store.insert (Execution.record ⟨id, t, true⟩)
        shared := s } := by
  have hid := (hr.idle.run_of_register hok).1
  obtain ⟨v, t, hyields⟩ := hr.idle.exists_yields_of_register h.keeps hbuilder hok
  obtain ⟨s, hregister⟩ := hr.idle.register_of_yields hid hnew h.offers hbuilder hyields
  refine ⟨v, t, s, hyields, ?_⟩
  rw [hregister, h.insertAll_records hr hyields]

end Faithful

theorem AllPure.of_bound {id : String} {builder : Build σ V V}
    (h : (r.bound id builder).AllPure) (hnew : ¬r.contains id) :
    r.AllPure ∧ Build.IsPure id builder := by
  refine ⟨?_, h id builder (Table.find?_insert_self _ _ _)⟩
  intro x b hfind
  have hne : id ≠ x := ne_of_contains hnew (contains_iff.2 ⟨b, hfind⟩)
  exact h x b ((Table.find?_insert_of_ne hne _ _).trans hfind)

theorem exists_faithful_runAll (s : σ) (ops : List (Operation σ V))
    (hpure : ((start .reject s).runAll ops).AllPure) :
    ∃ book, ((start .reject s).runAll ops).Faithful book := by
  have hinv := runAll_preserves
    (P := fun r : Registry σ V =>
      r.Settled ∧ r.policy = .reject ∧ (r.AllPure → ∃ book, r.Faithful book))
    ?_ ⟨settled_start .reject s, rfl, ?_⟩ ops
  . exact hinv.2.2 hpure
  . rintro r op ⟨hr, hpolicy, hfaithful⟩
    refine ⟨hr.run op, (policy_run hr op).trans hpolicy, ?_⟩
    rcases hr.kept_or_registered op with ⟨_, s', hkept⟩ | ⟨id, builder, rfl, hok⟩
    . rw [hkept]
      intro hpure
      obtain ⟨book, h⟩ := hfaithful hpure
      exact ⟨book, h.withShared s'⟩
    . have hnew : ¬r.contains id :=
        fun hknown => (hr.idle.run_of_register hok).2.1 ⟨hknown, hpolicy⟩
      intro hpure
      obtain ⟨_, _, _, hregister⟩ := hr.idle.register_of_ok hr.sorted hok
      have hbound : (r.bound id builder).AllPure := by
        simp only [Operation.run, hregister] at hpure
        exact hpure
      obtain ⟨hpure', recipe, hbuilder⟩ := hbound.of_bound hnew
      obtain ⟨book, h⟩ := hfaithful hpure'
      obtain ⟨v, t, s', hyields, heq⟩ := h.exists_register hr hnew hbuilder hok
      simp only [Operation.run, heq]
      exact ⟨_, h.registered hr hnew hbuilder hyields s'⟩
  . intro _
    refine ⟨fun _ => none, ?_, ?_, ?_⟩
    all_goals
      intro _ _ h
      cases h

variable {id : String} {builder : Build σ V V} {enclosing : List String} {m : Moment σ V}

def Moment.Replays (m : Moment σ V) (r : Registry σ V) (book : String → Option (Recipe V))
    (id : String) (enclosing : List String) : Prop :=
  enclosing = [id] ∨
    ∃ recipe v t,
      Program.Follows m.registry.chain m.program recipe ∧
      Recipe.Yields book r.memo enclosing recipe v t

theorem Moment.Replays.exists_yields (h : m.Replays r book id enclosing) (hf : r.Faithful book)
    (hnew : ¬r.contains id) {edge : Edge} {x : String}
    {next : Except Error V → Program σ V (Except Error V)}
    (hprogram : m.program = .fetch edge x next)
    (hx : enclosing = [id] → r.contains x) :
    ∃ recipe v t,
      book x = some recipe ∧
      x ∉ enclosing ∧
      Recipe.Yields book r.memo (x :: enclosing) recipe v t := by
  rcases h with rfl | ⟨recipe, v, t, hfollows, hyields⟩
  . obtain ⟨recipe, hrecipe⟩ := hf.keeps.exists_recipe (hx rfl)
    obtain ⟨v, t, hyields⟩ := hf.exists_yields_within hrecipe (hf.offers.eq_none hnew)
    refine ⟨recipe, v, t, hrecipe, ?_, hyields⟩
    rw [List.mem_singleton]
    exact Ne.symm (ne_of_contains hnew (hx rfl))
  . rw [hprogram] at hfollows
    cases hfollows with
    | fetch _ _ _ _ =>
      cases hyields with
      | fetch _ hrecipe hfree hinner _ => exact ⟨_, _, _, hrecipe, hfree, hinner⟩
    | fail _ _ => cases hyields

theorem Moment.Replays.next (h : m.Replays r book id enclosing)
    (hw : m.Within r id builder enclosing) (hoffers : m.registry.Offers book)
    (hne : enclosing ≠ []) {m' : Moment σ V} (hnext : m.next? = some m') :
    m'.Replays r book id enclosing := by
  rcases h with htop | ⟨recipe, v, t, hfollows, hyields⟩
  . exact Or.inl htop
  right
  obtain ⟨program, r'⟩ := m
  dsimp only at hfollows
  cases hfollows with
  | done _ => cases hnext
  | fail _ _ => cases hyields
  | fetch edge x hok _ =>
    cases hyields with
    | @fetch _ _ _ _ _ _ _ inner _ hrecipe hfree hinner hlater =>
      obtain ⟨s, hfetch⟩ := hinner.exists_fetch edge hrecipe hfree hoffers hw.stacked hw.memo_eq
        hw.running_eq hne
      simp only [Moment.next?, hfetch] at hnext
      obtain rfl := Option.some.inj hnext
      refine ⟨_, _, _, ?_, hlater⟩
      rw [chain_after]
      exact hok _
  | lookUp x hok _ =>
    cases hyields with
    | lookUp hfind hlater =>
      have hget : r'.get x = .ok _ := get_eq_ok_iff.2 ((congrArg _ hw.memo_eq).trans hfind)
      simp only [Moment.next?, hget] at hnext
      obtain rfl := Option.some.inj hnext
      exact ⟨_, _, _, hok _, hlater⟩
  | chain h =>
    obtain rfl := Option.some.inj hnext
    exact ⟨recipe, v, t, h, hyields⟩
  | read h =>
    obtain rfl := Option.some.inj hnext
    exact ⟨recipe, v, t, h r'.shared, hyields⟩
  | write s h =>
    obtain rfl := Option.some.inj hnext
    exact ⟨recipe, v, t, h, hyields⟩

theorem Moment.Within.offers (hw : m.Within r id builder enclosing) (h : r.Offers book)
    (hnew : ¬r.contains id) : m.registry.Offers book :=
  (h.bound (h.eq_none hnew) builder).of_eq hw.builders_eq

theorem During.replays (hd : r.During id builder enclosing m) (hr : r.Settled)
    (hf : r.Faithful book) (hnew : ¬r.contains id) : m.Replays r book id enclosing := by
  induction hd with
  | start _ _ => exact Or.inl rfl
  | next hd hnext ih =>
    have hw := hd.within hr.idle
    exact ih.next hw (hw.offers hf.offers hnew) hd.enclosing_ne_nil hnext
  | @enter enclosing edge x next r' inner hd hresolve ih =>
    have hw := hd.within hr.idle
    obtain ⟨hfind, hfree⟩ := resolve_eq_ok_iff.1 hresolve
    have hknown : enclosing = [id] → r.contains x := by
      intro htop
      have hne : id ≠ x := by
        rintro rfl
        exact hfree (hw.running_eq ▸ htop ▸ List.mem_singleton_self id)
      rw [show r'.builders = _ from hw.builders_eq] at hfind
      exact contains_iff.2
        ⟨inner, (Table.find?_insert_of_ne hne _ _).symm.trans hfind⟩
    obtain ⟨recipe, v, t, hrecipe, _, hyields⟩ := ih.exists_yields hf hnew rfl hknown
    obtain ⟨inner', hfind', hfollows⟩ := hw.offers hf.offers hnew x recipe hrecipe
    obtain rfl := Option.some.inj (hfind.symm.trans hfind')
    exact Or.inr ⟨recipe, v, t, hfollows _ (getLast?_chain_push r' x), hyields⟩

theorem During.exists_fetch (hd : r.During id builder enclosing m) (hr : r.Settled)
    (hf : r.Faithful book) (hnew : ¬r.contains id) {edge : Edge} {x : String}
    {next : Except Error V → Program σ V (Except Error V)}
    (hprogram : m.program = .fetch edge x next)
    (hx : r.contains x) : ∃ v, r.get x = .ok v ∧ (fetch edge x m.registry).1 = .ok v := by
  have hw := hd.within hr.idle
  obtain ⟨recipe, v, t, hrecipe, hfree, hyields⟩ :=
    (hd.replays hr hf hnew).exists_yields hf hnew hprogram fun _ => hx
  obtain ⟨s, hfetch⟩ := hyields.exists_fetch edge hrecipe hfree (hw.offers hf.offers hnew)
    hw.stacked hw.memo_eq hw.running_eq hd.enclosing_ne_nil
  exact ⟨v, get_eq_ok_iff.2 (hf.kept hrecipe hyields).1, by rw [hfetch]⟩

theorem getAs_of_get {α : Type} (cast? : V → Option α) (expected : String) (hidle : r.Idle) {v : V}
    (hget : r.get id = .ok v) :
    r.getAs cast? expected id
      =
    match cast? v with
    | some a => .ok a
    | none => .error (.typeMismatch id expected []) := by
  have hchain : r.chain = [] := by simp [chain, hidle.stack_eq]
  cases hcast : cast? v <;> simp only [getAs, hget, hchain, hcast]

/--
Where no fixture may be registered again and the builders are pure, what is built afresh during a
registration is what was kept. A registration that succeeds changes no record that is stored, and
stores its own.
-/
theorem fetch_makes_kept_value (s : σ) (ops : List (Operation σ V))
    (hpure : ((start .reject s).runAll ops).AllPure) (id : String) (builder : Build σ V V) :
    let r := (start .reject s).runAll ops
    (∀ (enclosing : List String) (m : Moment σ V), r.During id builder enclosing m →
      ∀ (edge : Edge) (x : String) (next : Except Error V → Program σ V (Except Error V)),
        m.program = .fetch edge x next → r.contains x →
        ∃ v,
          r.get x = .ok v ∧
          (fetch edge x m.registry).1 = .ok v ∧
          ∀ (α : Type) (cast? : V → Option α) (expected : String),
            (run fetch (Build.fetchAs cast? expected edge x) m.registry).1
              =
            (match cast? v with
              | some a => .ok a
              | none => .error (.typeMismatch x expected m.registry.chain)) ∧
            r.getAs cast? expected x
              =
            (match cast? v with
              | some a => .ok a
              | none => .error (.typeMismatch x expected []))) ∧
    (Build.IsPure id builder → (r.register id builder).1 = .ok () →
      let r' := (r.register id builder).2
      r.store.find? id = none ∧
      ∃ record,
        record.id = id ∧
        r'.store = r.store.insert record ∧
        ∀ x, r'.store.find? x = if x = id then some record else r.store.find? x) := by
  have hr := settled_runAll .reject s ops
  have hpolicy := policy_runAll .reject s ops
  obtain ⟨book, hf⟩ := exists_faithful_runAll s ops hpure
  generalize (start .reject s).runAll ops = r at hr hpolicy hf ⊢
  constructor
  . intro enclosing m hd edge x next hprogram hx
    have hnew : ¬r.contains id := fun hknown => not_during_of_rejected ⟨hknown, hpolicy⟩ hd
    obtain ⟨v, hget, hfetch⟩ := hd.exists_fetch hr hf hnew hprogram hx
    refine ⟨v, hget, hfetch, ?_⟩
    intro α cast? expected
    have htyped := congrArg Prod.fst (run_fetchAs cast? expected edge x m.registry)
    rw [hfetch] at htyped
    exact ⟨htyped, getAs_of_get cast? expected hr.idle hget⟩
  . rintro ⟨recipe, hbuilder⟩ hok
    have hnew : ¬r.contains id :=
      fun hknown => (hr.idle.run_of_register hok).2.1 ⟨hknown, hpolicy⟩
    obtain ⟨v, t, s', _, hregister⟩ := hf.exists_register hr hnew hbuilder hok
    have hnone : r.store.find? id = none := by
      rw [← Option.not_isSome_iff_eq_none, Store.isSome_find?_iff, hr.mem_store]
      exact fun hmem => hnew (contains_iff_mem_ids.2 hmem)
    refine ⟨hnone, Execution.record ⟨id, t, true⟩, rfl, ?_, ?_⟩
    . rw [hregister]
    . intro x
      rw [hregister, Store.find?_insert]
      exact if_congr eq_comm rfl rfl

def positive? (n : Nat) : Option Nat := if n = 0 then none else some n

def grown (name : String) : Build Nat Nat Nat := do
  let roots ← Build.fetchAs positive? "positive number" .child "root"
  return name.length * roots

def stem : Build Nat Nat Nat := do
  let id ← Build.dataId
  grown id

def garden : List (Operation Nat Nat) := [
  .register "root" (pure 3),
  .register "stem" stem]

def gauge : Build Nat Nat Nat := do
  let n ← Build.shared
  Build.setShared (n + 1)
  let stems ← Build.fetch .child "stem"
  return n + stems

def stemOfGauge : Moment Nat Nat where
  program := grown "stem"
  registry := { ((start .reject 0).runAll garden).bound "gauge" gauge with
    stack := [{ id := "stem" }, { id := "gauge" }]
    shared := 1 }

theorem isPure_stem : Build.IsPure "stem" stem := by
  have hgrown : ∀ ids : List String, Program.Follows ids (grown "stem") _ := fun _ =>
    .fetchAs positive? "positive number" .child "root"
      (fun roots => .done ("stem".length * roots)) fun _ => rfl
  exact ⟨_, fun ids hids => .dataId hids (hgrown ids)⟩

theorem allPure_garden : ((start .reject 0).runAll garden).AllPure := by
  have hbuilders : ((start .reject 0).runAll garden).builders
      =
    [("root", pure 3), ("stem", stem)] := rfl
  apply allPure_of_forall_mem
  rw [hbuilders]
  simpa using ⟨Build.isPure_done "root" 3, isPure_stem⟩

theorem during_stemOfGauge :
    ((start .reject 0).runAll garden).During "gauge" gauge ["stem", "gauge"] stemOfGauge := by
  have hstart : ((start .reject 0).runAll garden).During "gauge" gauge ["gauge"] _ :=
    .start (by decide) (by decide)
  have hcounted := During.next (.next hstart rfl) rfl
  exact .next (.enter hcounted rfl) rfl

theorem fetch_root_in_stemOfGauge :
    let r := (start .reject 0).runAll garden
    let r' := (r.register "bud" (Build.fetch .parent "stem")).2
    r.get "root" = .ok 3 ∧
    (fetch .child "root" stemOfGauge.registry).1 = r.get "root" ∧
    r'.store.find? "bud" = some { id := "bud", parent := some "stem" } ∧
    r'.store.find? "stem" = r.store.find? "stem" := by
  obtain ⟨hfetch, _⟩ := fetch_makes_kept_value 0 garden allPure_garden "gauge" gauge
  obtain ⟨_, hget, hroot, _⟩ :=
    hfetch ["stem", "gauge"] stemOfGauge during_stemOfGauge .child "root" _ rfl (by decide)
  obtain ⟨_, hregister⟩ := fetch_makes_kept_value 0 garden allPure_garden "bud"
    (Build.fetch .parent "stem")
  obtain ⟨_, _, _, _, hfind⟩ := hregister (Build.isPure_fetch "bud" .parent "stem") rfl
  exact ⟨rfl, hroot.trans hget.symm, rfl, hfind "stem"⟩

end Registry
end FixtureLab

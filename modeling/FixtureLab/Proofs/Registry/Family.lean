import FixtureLab.Proofs.Registry.Registration
import FixtureLab.Proofs.Registry.Yield
import Mathlib.Data.List.Nodup

/-!
This module contains families of fixtures, which are made from each other and from nothing else. A
fixture of a family has one value and one record, whatever else is registered and run, and in
whichever order.
-/

namespace FixtureLab
namespace Registry

open FixtureLab.Graph (Edge Record)

variable {σ V : Type} {book : String → Option (Recipe V)}

def SelfContained (book : String → Option (Recipe V)) : Prop :=
  ∀ id recipe, book id = some recipe → recipe.Within (fun x => (book x).isSome) fun _ => False

def Makes (book : String → Option (Recipe V)) (id : String) (v : V) (t : Trace) : Prop :=
  ∃ recipe, book id = some recipe ∧ Recipe.Yields book [] [] recipe v t

def Conforms (book : String → Option (Recipe V)) (record : Record) : Prop :=
  (book record.id).isSome →
    ∃ v t, Makes book record.id v t ∧ record = Execution.record ⟨record.id, t, true⟩

def Heeds (r : Registry σ V) (book : String → Option (Recipe V)) : Prop :=
  ∀ id recipe builder, book id = some recipe → Table.find? id r.builders = some builder →
    Build.Follows id builder recipe

def known (r : Registry σ V) (book : String → Option (Recipe V)) : String → Option (Recipe V) :=
  fun id => if r.contains id then book id else none

variable {id : String} {v : V} {t : Trace}

theorem Makes.unique {v' : V} {t' : Trace} (h : Makes book id v t) (h' : Makes book id v' t') :
    v = v' ∧ t = t' := by
  obtain ⟨recipe, hrecipe, hyields⟩ := h
  obtain ⟨recipe', hrecipe', hyields'⟩ := h'
  obtain rfl := Option.some.inj (hrecipe.symm.trans hrecipe')
  exact hyields.unique hyields'

theorem SelfContained.makes (hbook : SelfContained book) {recipe : Recipe V}
    (hrecipe : book id = some recipe) {memo : Table V} {running : List String}
    (h : Recipe.Yields book memo running recipe v t) : Makes book id v t := by
  have hempty : Recipe.Yields book [] running recipe v t :=
    h.of_within hbook (fun _ _ hkept => hkept.elim) (hbook id recipe hrecipe)
  exact ⟨recipe, hrecipe, hempty.of_disjoint fun _ _ => List.not_mem_nil⟩

def Build.IsPureWithin (fetched : String → Prop) (id : String) (builder : Build σ V V) : Prop :=
  ∃ recipe : Recipe V, recipe.Within fetched (fun _ => False) ∧ Build.Follows id builder recipe

namespace Build.IsPureWithin

variable {fetched : String → Prop}

theorem pure (v : V) : Build.IsPureWithin fetched id (pure v : Build σ V V) :=
  ⟨.done v, trivial, fun _ _ => .done v⟩

theorem fetchAs {α : Type} {cast? : V → Option α} {expected : String} {edge : Edge} {x : String}
    {next : α → Build σ V V} (hx : fetched x) (h : ∀ a, Build.IsPureWithin fetched id (next a)) :
    Build.IsPureWithin fetched id (Build.fetchAs cast? expected edge x >>= next) := by
  choose recipe hwithin hfollows using h
  refine ⟨_, ?_, fun ids hids =>
    .fetchAs cast? expected edge x (fun a => hfollows a ids hids) fun _ => rfl⟩
  refine ⟨hx, fun v => ?_⟩
  dsimp only
  cases cast? v with
  | some a => exact hwithin a
  | none => trivial

end Build.IsPureWithin

theorem exists_selfContained {entries : List (String × Build σ V V)}
    (hnodup : (entries.map (·.1)).Nodup)
    (h : ∀ entry ∈ entries, Build.IsPureWithin (· ∈ entries.map (·.1)) entry.1 entry.2) :
    ∃ book : String → Option (Recipe V),
      SelfContained book ∧
      (∀ id, (book id).isSome ↔ id ∈ entries.map (·.1)) ∧
      ∀ entry ∈ entries, ∀ recipe, book entry.1 = some recipe →
        Build.Follows entry.1 entry.2 recipe := by
  have hentry : ∀ id, ∃ o : Option (Recipe V),
      (o.isSome ↔ id ∈ entries.map (·.1)) ∧
      ∀ recipe, o = some recipe →
        recipe.Within (· ∈ entries.map (·.1)) (fun _ => False) ∧
        ∀ entry ∈ entries, entry.1 = id → Build.Follows id entry.2 recipe := by
    intro id
    by_cases hid : id ∈ entries.map (·.1)
    . obtain ⟨entry, hmem, rfl⟩ := List.mem_map.1 hid
      obtain ⟨recipe, hwithin, hfollows⟩ := h entry hmem
      refine ⟨some recipe, by simpa using hid, ?_⟩
      intro recipe' hrecipe'
      obtain rfl := Option.some.inj hrecipe'
      refine ⟨hwithin, fun entry' hmem' heq => ?_⟩
      rw [List.inj_on_of_nodup_map hnodup hmem' hmem heq]
      exact hfollows
    . exact ⟨none, by simpa using hid, fun _ hnone => by cases hnone⟩
  choose book hknown hrecipe using hentry
  refine ⟨book, ?_, hknown, ?_⟩
  . intro id recipe hid
    simp only [hknown]
    exact (hrecipe id recipe hid).1
  . intro entry hmem recipe hid
    exact (hrecipe entry.1 recipe hid).2 entry hmem rfl

namespace Heeds

variable {r : Registry σ V} {builder : Build σ V V}

theorem offers (h : r.Heeds book) : r.Offers (r.known book) := by
  intro id recipe hrecipe
  unfold known at hrecipe
  split at hrecipe
  . next hknown =>
    obtain ⟨builder, hfind⟩ := contains_iff.1 hknown
    exact ⟨builder, hfind, h id recipe builder hrecipe hfind⟩
  . cases hrecipe

theorem bound (h : r.Heeds book)
    (hbuilder : ∀ recipe, book id = some recipe → Build.Follows id builder recipe) :
    (r.bound id builder).Heeds book := by
  intro x recipe b hrecipe hfind
  by_cases hid : id = x
  . subst hid
    simp only [Registry.bound, Table.find?_insert_self] at hfind
    obtain rfl := Option.some.inj hfind
    exact hbuilder recipe hrecipe
  . simp only [Registry.bound, Table.find?_insert_of_ne hid] at hfind
    exact h x recipe b hrecipe hfind

theorem exists_run (h : r.Heeds book) (hbook : SelfContained book) (hs : r.Stacked)
    (hresolve : r.resolve id = .ok builder) (hid : (book id).isSome)
    (hrun : (run fetch builder (r.push id)).1 = .ok v) :
    ∃ t s,
      Makes book id v t ∧
      run fetch builder (r.push id) = (.ok v, (r.push id).after t s) := by
  obtain ⟨recipe, hrecipe⟩ := Option.isSome_iff_exists.1 hid
  have hfind := (resolve_eq_ok_iff.1 hresolve).1
  have hfollows := h id recipe builder hrecipe hfind _ (getLast?_chain_push r id)
  have hkeeps : ∀ x b, (book x).isSome → Table.find? x (r.push id).builders = some b →
      ∃ recipe, r.known book x = some recipe
        ∧ recipe.Within (fun y => (book y).isSome) (fun _ => False)
        ∧ Build.Follows x b recipe := by
    intro x b hx hb
    obtain ⟨recipe, hrecipe⟩ := Option.isSome_iff_exists.1 hx
    have hknown : r.known book x = book x := if_pos (contains_iff.2 ⟨b, hb⟩)
    exact ⟨recipe, hknown.trans hrecipe, hbook x recipe hrecipe, h x recipe b hrecipe hb⟩
  obtain ⟨t, hyields⟩ := exists_yields_of_within hkeeps (hs.push hresolve) (ample_size _)
    (List.cons_ne_nil _ _) hfollows (hbook id recipe hrecipe) hrun
  obtain ⟨s, hrun'⟩ := hyields.exists_run (r := r.push id) h.offers (hs.push hresolve) rfl rfl
    (List.cons_ne_nil _ _) hfollows
  refine ⟨t, s, hbook.makes hrecipe (hyields.mono ?_ fun _ _ hfind => hfind), hrun'⟩
  intro x _ recipe' hx
  unfold known at hx
  split at hx
  . exact hx
  . cases hx

theorem conforms_execute (h : r.Heeds book) (hbook : SelfContained book) (hs : r.Stacked)
    (hresolve : r.resolve id = .ok builder)
    (hinner : ∀ record ∈ (run fetch builder (r.push id)).2.staged, Conforms book record) :
    ∀ record ∈ (execute fetch id builder r).2.staged, Conforms book record := by
  obtain ⟨s, hafter⟩ := run_eq_after traced_fetch builder (r.push id)
  generalize runTrace fetch trace builder (r.push id) = t at hafter
  intro record hrecord
  rw [hafter] at hinner
  rw [execute_eq_run, hafter, pop_after_push, Trace.records_all] at hrecord
  simp only [← List.append_assoc, List.mem_append] at hrecord
  rcases hrecord with hrecord | hrecord
  . exact hinner record (List.mem_append.2 hrecord)
  . cases hanswer : (run fetch builder (r.push id)).1 with
    | error e =>
      rw [hanswer] at hrecord
      cases hrecord
    | ok v =>
      rw [hanswer] at hrecord
      obtain rfl := List.mem_singleton.1 hrecord
      intro hid
      obtain ⟨t', s', hmakes, hrun⟩ := h.exists_run hbook hs hresolve hid hanswer
      -- both traces tell what the run makes of its frame, which is the record
      have hframe : (t.linkOn { id } :: r.stack) = t'.linkOn { id } :: r.stack :=
        congrArg stack (hafter.symm.trans (congrArg Prod.snd hrun))
      have heq : Execution.record ⟨id, t, true⟩ = Execution.record ⟨id, t', true⟩ := by
        rw [← Trace.linkOn_empty, ← Trace.linkOn_empty]
        exact (List.cons.inj hframe).1
      exact ⟨v, t', hmakes, heq⟩

theorem conforms_fetch (h : r.Heeds book) (hbook : SelfContained book) (hs : r.Stacked)
    (hstack : r.stack ≠ []) (edge : Edge) (id : String)
    (hstaged : ∀ record ∈ r.staged, Conforms book record)
    (hinner : ∀ builder, r.resolve id = .ok builder →
      ∀ record ∈ (run fetch builder (r.push id)).2.staged, Conforms book record) :
    ∀ record ∈ (fetch edge id r).2.staged, Conforms book record := by
  cases hresolve : r.resolve id with
  | error e =>
    rw [fetch_of_resolve_error hstack hresolve]
    exact hstaged
  | ok builder =>
    have hexec := h.conforms_execute hbook hs hresolve (hinner builder hresolve)
    rw [fetch_eq_execute hs hstack hresolve]
    cases hanswer : execute fetch id builder r with
    | mk result r' =>
      rw [hanswer] at hexec
      cases result with
      | error e => exact hexec
      | ok v =>
        dsimp only
        rw [staged_link]
        exact hexec

theorem conforms_run {room : Nat} (h : r.Heeds book) (hbook : SelfContained book)
    (hs : r.Stacked) (hroom : Ample room r) (hstack : r.stack ≠ [])
    (p : Program σ V (Except Error V)) (hstaged : ∀ record ∈ r.staged, Conforms book record) :
    ∀ record ∈ (run fetch p r).2.staged, Conforms book record := by
  -- each run takes up room, and within one run the program gets smaller
  induction room using Nat.strongRecOn generalizing r p with
  | ind room ihroom =>
    induction p generalizing r with
    | done a => exact hstaged
    | fetch edge id next ih =>
      have hfetched := h.conforms_fetch hbook hs hstack edge id hstaged fun builder hresolve => by
        obtain ⟨room, rfl⟩ := hroom.exists_eq_succ hs hresolve
        exact ihroom room (Nat.lt_succ_self room) (r := r.push id) h (hs.push hresolve)
          (hroom.push id) (List.cons_ne_nil _ _) builder hstaged
      obtain ⟨s, hafter⟩ := traced_fetch edge id r
      have hrunning := running_after r (trace edge id r) s
      change ∀ record ∈ (run fetch (next (fetch edge id r).1) (fetch edge id r).2).2.staged, _
      rw [hafter] at hfetched ⊢
      exact ih _ h (hs.of_eq rfl hrunning) (hroom.of_eq rfl hrunning)
        (stack_ne_nil_iff.2 (hrunning ▸ stack_ne_nil_iff.1 hstack)) hfetched
    | lookUp id next ih => exact ih _ h hs hroom hstack hstaged
    | chain next ih => exact ih _ h hs hroom hstack hstaged
    | read next ih => exact ih _ h hs hroom hstack hstaged
    | write s next ih => exact ih (r := r.withShared s) h (hs.of_eq rfl rfl) hroom hstack hstaged

end Heeds

structure TrueTo (r : Registry σ V) (book : String → Option (Recipe V)) : Prop where
  heeds : r.Heeds book
  makes : ∀ id v, (book id).isSome → Table.find? id r.memo = some v → ∃ t, Makes book id v t
  conforms : ∀ id record, r.store.find? id = some record → Conforms book record

theorem trueTo_start (policy : DuplicatePolicy) (s : σ) (book : String → Option (Recipe V)) :
    (start policy s).TrueTo book := by
  constructor
  . intro id recipe builder _ hfind
    cases hfind
  . intro id v _ hfind
    cases hfind
  . intro id record hfind
    cases hfind

theorem Settled.conforms_registration {r : Registry σ V} (h : r.Settled)
    (hbook : SelfContained book) {builder : Build σ V V}
    (hheeds : (r.bound id builder).Heeds book) :
    ∀ record ∈ Execution.records (r.registration id builder).all, Conforms book record := by
  have hs := (h.idle.bound id builder).stacked
  have hresolve := h.idle.resolve_bound id builder
  have hnone : ∀ record ∈ ((r.bound id builder).push id).staged, Conforms book record := by
    intro record hrecord
    change record ∈ r.staged at hrecord
    rw [h.idle.staged_eq] at hrecord
    cases hrecord
  have hinner := hheeds.conforms_run (r := (r.bound id builder).push id) hbook
    (h.idle.stacked_opened id builder) (ample_size _) (List.cons_ne_nil _ _) builder hnone
  have hexec := hheeds.conforms_execute hbook hs hresolve hinner
  obtain ⟨s, hbuild⟩ := h.idle.build_bound_snd id builder
  rw [← build_eq_execute hs hresolve, hbuild] at hexec
  exact hexec

theorem TrueTo.register {r : Registry σ V} (hr : r.TrueTo book) (h : r.Settled)
    (hbook : SelfContained book) {builder : Build σ V V}
    (hbuilder : ∀ recipe, book id = some recipe → Build.Follows id builder recipe) :
    (r.register id builder).2.TrueTo book := by
  cases hanswer : (r.register id builder).1 with
  | error e =>
    obtain ⟨s, hkept⟩ := h.register_of_error hanswer
    rw [hkept]
    exact ⟨hr.heeds, hr.makes, hr.conforms⟩
  | ok _ =>
    obtain ⟨v, s, hrun, hregister⟩ := h.idle.register_of_ok h.sorted hanswer
    have hheeds := hr.heeds.bound hbuilder
    rw [hregister]
    refine ⟨hheeds, ?_, ?_⟩
    . intro x w hx hfind
      by_cases hid : id = x
      . subst hid
        obtain ⟨t, _, hmakes, _⟩ := hheeds.exists_run hbook (h.idle.bound id builder).stacked
          (h.idle.resolve_bound id builder) hx hrun
        rw [Table.find?_insert_self] at hfind
        cases hfind
        exact ⟨t, hmakes⟩
      . rw [Table.find?_insert_of_ne hid] at hfind
        exact hr.makes x w hx hfind
    . intro x record hfind
      rcases Graph.Store.find?_insertAll_eq_some hfind with ⟨hrecord, _⟩ | hfind
      . exact h.conforms_registration hbook hheeds record hrecord
      . exact hr.conforms x record hfind

theorem TrueTo.exists_entry {r : Registry σ V} (hr : r.TrueTo book) (h : r.Settled)
    (hid : (book id).isSome) (hin : r.contains id) :
    ∃ v t,
      Makes book id v t ∧
      r.get id = .ok v ∧
      r.store.find? id = some (Execution.record ⟨id, t, true⟩) := by
  have hmem : id ∈ r.ids := contains_iff_mem_ids.1 hin
  obtain ⟨v, hv⟩ := Option.isSome_iff_exists.1 (Table.find?_isSome_iff.2 ((h.mem_memo id).2 hmem))
  obtain ⟨record, hrecord⟩ :=
    Option.isSome_iff_exists.1 (Graph.Store.isSome_find?_iff.2 ((h.mem_store id).2 hmem))
  obtain ⟨t, hmakes⟩ := hr.makes id v hid hv
  obtain rfl := h.keyed.id_eq hrecord
  obtain ⟨w, t', hmakes', heq⟩ := hr.conforms record.id record hrecord hid
  obtain ⟨rfl, rfl⟩ := hmakes.unique hmakes'
  exact ⟨v, t, hmakes, get_eq_ok_iff.2 hv, hrecord.trans (congrArg some heq)⟩

end Registry
end FixtureLab

import FixtureLab.Proofs.Registry.Registration
import FixtureLab.Proofs.Registry.Yield
import Mathlib.Logic.Function.Basic

/-!
This module contains what the registration of a pure builder makes of a registry of pure builders:
it succeeds iff the builder's recipe yields a value, and keeps that value.
-/

namespace FixtureLab
namespace Registry

variable {σ V : Type} {r : Registry σ V} {book : String → Option (Recipe V)} {id : String}
  {builder : Build σ V V} {recipe : Recipe V}

theorem Offers.eq_none (h : r.Offers book) (hnew : ¬r.contains id) : book id = none := by
  cases hid : book id with
  | none => rfl
  | some recipe =>
    obtain ⟨builder, hfind, _⟩ := h id recipe hid
    exact absurd (contains_iff.2 ⟨builder, hfind⟩) hnew

theorem KeepsTo.exists_recipe (h : r.KeepsTo book) (hknown : r.contains id) :
    ∃ recipe, book id = some recipe := by
  obtain ⟨builder, hfind⟩ := contains_iff.1 hknown
  obtain ⟨recipe, hrecipe, _⟩ := h id builder hfind
  exact ⟨recipe, hrecipe⟩

theorem Offers.of_eq (h : r.Offers book) {r' : Registry σ V}
    (hbuilders : r'.builders = r.builders) :
    r'.Offers book := by
  unfold Offers at h ⊢
  rw [hbuilders]
  exact h

theorem Offers.bound (h : r.Offers book) (hnew : book id = none) (builder : Build σ V V) :
    (r.bound id builder).Offers book := by
  intro x recipe hx
  have hne : id ≠ x := by
    rintro rfl
    rw [hnew] at hx
    cases hx
  obtain ⟨b, hfind, hb⟩ := h x recipe hx
  exact ⟨b, (Table.find?_insert_of_ne hne _ _).trans hfind, hb⟩

theorem Offers.update (h : r.Offers book) (hbuilder : Build.Follows id builder recipe) :
    (r.bound id builder).Offers (Function.update book id (some recipe)) := by
  intro x recipe' hx
  by_cases hid : x = id
  . subst hid
    rw [Function.update_self] at hx
    obtain rfl := Option.some.inj hx
    exact ⟨builder, Table.find?_insert_self _ _ _, hbuilder⟩
  . rw [Function.update_of_ne hid] at hx
    obtain ⟨b, hfind, hb⟩ := h x recipe' hx
    exact ⟨b, (Table.find?_insert_of_ne (Ne.symm hid) _ _).trans hfind, hb⟩

theorem KeepsTo.update (h : r.KeepsTo book) (hbuilder : Build.Follows id builder recipe) :
    (r.bound id builder).KeepsTo (Function.update book id (some recipe)) := by
  intro x b hfind
  by_cases hid : x = id
  . subst hid
    simp only [Registry.bound, Table.find?_insert_self] at hfind
    obtain rfl := Option.some.inj hfind
    exact ⟨recipe, Function.update_self _ _ _, hbuilder⟩
  . simp only [Registry.bound, Table.find?_insert_of_ne (Ne.symm hid)] at hfind
    obtain ⟨recipe', hx, hb⟩ := h x b hfind
    exact ⟨recipe', (Function.update_of_ne hid _ _).trans hx, hb⟩

theorem Settled.find?_insert_memo (h : r.Settled) (hnew : ¬r.contains id) (v : V) {x : String}
    {w : V} (hfind : Table.find? x r.memo = some w) :
    Table.find? x (Table.insert id v r.memo) = some w := by
  have hmem : x ∈ r.ids := (h.mem_memo x).1 (Table.find?_isSome_iff.1 (by simp [hfind]))
  rw [Table.find?_insert_of_ne (ne_of_contains hnew (contains_iff_mem_ids.2 hmem)), hfind]

theorem Idle.exists_yields_of_register (h : r.Idle) (hkeeps : r.KeepsTo book)
    (hbuilder : Build.Follows id builder recipe) (hok : (r.register id builder).1 = .ok ()) :
    ∃ v t, Recipe.Yields book r.memo [id] recipe v t := by
  obtain ⟨_, _, v, hrun⟩ := h.run_of_register hok
  have hfollows := hbuilder _ (getLast?_chain_push (r.bound id builder) id)
  have hstack : ((r.bound id builder).push id).stack ≠ [] := List.cons_ne_nil _ _
  obtain ⟨t, hyields⟩ := exists_yields (r := (r.bound id builder).push id)
    (hkeeps.update hbuilder) (h.stacked_opened id builder) (ample_size _) hstack hfollows hrun
  rw [h.running_opened] at hyields
  -- `id` is running and so not asked for: the recipes known before suffice
  refine ⟨v, t, hyields.mono ?_ fun _ _ hfind => hfind⟩
  intro x hx recipe' hrecipe'
  have hne : x ≠ id := fun heq => hx (List.mem_singleton.2 heq)
  rwa [Function.update_of_ne hne] at hrecipe'

theorem Idle.register_of_yields (h : r.Idle) (hid : id ≠ "") (hnew : ¬r.contains id)
    (hoffers : r.Offers book) (hbuilder : Build.Follows id builder recipe) {v : V} {t : Trace}
    (hyields : Recipe.Yields book r.memo [id] recipe v t) :
    ∃ s,
      r.register id builder
        =
      (.ok (),
        { r with
          builders := Table.insert id builder r.builders
          memo := Table.insert id v r.memo
          store := r.store.insertAll (Execution.records (Execution.all ⟨id, t, true⟩))
          shared := s }) := by
  have hfollows := hbuilder _ (getLast?_chain_push (r.bound id builder) id)
  obtain ⟨s, hrun⟩ := hyields.exists_run (r := (r.bound id builder).push id)
    (hoffers.bound (hoffers.eq_none hnew) builder) (h.stacked_opened id builder) rfl
    (h.running_opened id builder) (List.cons_ne_nil _ _) hfollows
  exact ⟨s, h.register_of_run hid (fun hrejected => hnew hrejected.1) hrun⟩

end Registry
end FixtureLab

import FixtureLab.Proofs.Registry.Recipe

/-!
This module contains what recipes yield, told without frames, staging and shared state, and the
proof that it is what running the builders that follow them comes to.
-/

namespace FixtureLab
namespace Registry

open FixtureLab.Graph (Edge Record)

variable {σ V : Type}

/--
The recipe comes to the value when its fetches follow the recipes of the book, its look-ups find the
kept values, and nothing of what is running is run again. The trace tells what is fetched.
-/
inductive Recipe.Yields (book : String → Option (Recipe V)) (memo : Table V) :
    List String → Recipe V → V → Trace → Prop where
  | done (running : List String) (v : V) : Yields book memo running (.done v) v .nil
  | fetch {running : List String} (edge : Edge) {id : String} {next : V → Recipe V}
    {recipe : Recipe V} {v w : V} {inner later : Trace} (hrecipe : book id = some recipe)
    (hfree : id ∉ running) (hinner : Yields book memo (id :: running) recipe w inner)
    (hlater : Yields book memo running (next w) v later) :
    Yields book memo running (.fetch edge id next) v (.run edge id inner true later)
  | lookUp {running : List String} {id : String} {next : V → Recipe V} {v w : V} {t : Trace}
    (hmemo : Table.find? id memo = some w) (hlater : Yields book memo running (next w) v t) :
    Yields book memo running (.lookUp id next) v t

def Offers (r : Registry σ V) (book : String → Option (Recipe V)) : Prop :=
  ∀ id recipe, book id = some recipe →
    ∃ builder, Table.find? id r.builders = some builder ∧ Build.Follows id builder recipe

def KeepsTo (r : Registry σ V) (book : String → Option (Recipe V)) : Prop :=
  ∀ id builder, Table.find? id r.builders = some builder →
    ∃ recipe, book id = some recipe ∧ Build.Follows id builder recipe

theorem AllPure.exists_book {r : Registry σ V} (h : r.AllPure) :
    ∃ book : String → Option (Recipe V), r.Offers book ∧ r.KeepsTo book := by
  have hentry : ∀ id, ∃ entry : Option (Recipe V),
      (∀ recipe, entry = some recipe →
        ∃ builder, Table.find? id r.builders = some builder ∧ Build.Follows id builder recipe) ∧
      ∀ builder, Table.find? id r.builders = some builder →
        ∃ recipe, entry = some recipe ∧ Build.Follows id builder recipe := by
    intro id
    cases hfind : Table.find? id r.builders with
    | none => exact ⟨none, by simp, by simp⟩
    | some builder =>
      obtain ⟨recipe, hfollows⟩ := h id builder hfind
      exact ⟨some recipe, by simpa using hfollows, by simpa using hfollows⟩
  choose book hoffers hkeeps using hentry
  exact ⟨book, hoffers, hkeeps⟩

variable {book book' : String → Option (Recipe V)} {memo memo' : Table V} {running : List String}
  {recipe : Recipe V} {v : V} {t : Trace}

namespace Recipe.Yields

theorem unique {running' : List String} {v' : V} {t' : Trace}
    (h : Yields book memo running recipe v t) (h' : Yields book memo running' recipe v' t') :
    v = v' ∧ t = t' := by
  induction h generalizing running' v' t' with
  | done running v =>
    cases h' with
    | done _ _ => exact ⟨rfl, rfl⟩
  | fetch edge hrecipe _ _ _ ihinner ihlater =>
    cases h' with
    | fetch _ hrecipe' _ hinner' hlater' =>
      obtain rfl := Option.some.inj (hrecipe.symm.trans hrecipe')
      obtain ⟨rfl, rfl⟩ := ihinner hinner'
      obtain ⟨rfl, rfl⟩ := ihlater hlater'
      exact ⟨rfl, rfl⟩
  | lookUp hmemo _ ih =>
    cases h' with
    | lookUp hmemo' hlater' =>
      obtain rfl := Option.some.inj (hmemo.symm.trans hmemo')
      exact ih hlater'

theorem mono (h : Yields book memo running recipe v t)
    (hbook : ∀ id, id ∉ running → ∀ recipe, book id = some recipe → book' id = some recipe)
    (hmemo : ∀ id v, Table.find? id memo = some v → Table.find? id memo' = some v) :
    Yields book' memo' running recipe v t := by
  induction h with
  | done running v => exact .done running v
  | fetch edge hrecipe hfree _ _ ihinner ihlater =>
    refine .fetch edge (hbook _ hfree _ hrecipe) hfree (ihinner ?_) (ihlater hbook)
    intro id hid
    exact hbook id fun hmem => hid (List.mem_cons_of_mem _ hmem)
  | lookUp hfind _ ih => exact .lookUp (hmemo _ _ hfind) (ih hbook)

theorem of_within {fetched kept : String → Prop}
    (hbook : ∀ id recipe, book id = some recipe → recipe.Within fetched kept)
    (hmemo : ∀ id v, kept id → Table.find? id memo = some v → Table.find? id memo' = some v)
    (h : Yields book memo running recipe v t) (hwithin : recipe.Within fetched kept) :
    Yields book memo' running recipe v t := by
  induction h with
  | done running v => exact .done running v
  | fetch edge hrecipe hfree _ _ ihinner ihlater =>
    exact .fetch edge hrecipe hfree (ihinner (hbook _ _ hrecipe)) (ihlater (hwithin.2 _))
  | lookUp hfind _ ih => exact .lookUp (hmemo _ _ hwithin.1 hfind) (ih (hwithin.2 _))

theorem not_mem_running (h : Yields book memo running recipe v t) {id : String}
    (hid : id ∈ t.built) : id ∉ running := by
  induction h with
  | done running v => cases hid
  | fetch edge _ hfree _ _ ihinner ihlater =>
    simp only [Trace.built_run, List.mem_append, if_true, List.mem_singleton] at hid
    rcases hid with (hid | rfl) | hid
    . exact fun hmem => ihinner hid (List.mem_cons_of_mem _ hmem)
    . exact hfree
    . exact ihlater hid
  | lookUp _ _ ih => exact ih hid

theorem of_disjoint {running' : List String} (h : Yields book memo running recipe v t)
    (hdisjoint : ∀ id ∈ t.built, id ∉ running') : Yields book memo running' recipe v t := by
  induction h generalizing running' with
  | done running v => exact .done running' v
  | @fetch running edge id next recipe v w inner later hrecipe hfree hinner _ ihinner ihlater =>
    simp only [Trace.built_run, List.mem_append, if_true, List.mem_singleton] at hdisjoint
    refine .fetch edge hrecipe (hdisjoint id (Or.inl (Or.inr rfl))) (ihinner ?_) (ihlater ?_)
    . intro x hx hmem
      rcases List.mem_cons.1 hmem with rfl | hmem
      . exact hinner.not_mem_running hx List.mem_cons_self
      . exact hdisjoint x (Or.inl (Or.inl hx)) hmem
    . exact fun x hx => hdisjoint x (Or.inr hx)
  | lookUp hmemo _ ih => exact .lookUp hmemo (ih hdisjoint)

theorem exists_of_mem_records (h : Yields book memo running recipe v t) {record : Record}
    (hmem : record ∈ t.records) :
    ∃ running' recipe' w inner,
      book record.id = some recipe' ∧
      Yields book memo running' recipe' w inner ∧
      record = Execution.record ⟨record.id, inner, true⟩ := by
  induction h with
  | done running v => cases hmem
  | @fetch running edge id next recipe v w inner later hrecipe _ hinner _ ihinner ihlater =>
    simp only [Trace.records_run, Trace.records_all, List.mem_append, if_true,
      List.mem_singleton] at hmem
    rcases hmem with (hmem | rfl) | hmem
    . exact ihinner hmem
    . exact ⟨_, recipe, w, inner, hrecipe, hinner, rfl⟩
    . exact ihlater hmem
  | lookUp _ _ ih => exact ih hmem

end Recipe.Yields

theorem get_eq_ok_iff {r : Registry σ V} {id : String} {v : V} :
    r.get id = .ok v ↔ Table.find? id r.memo = some v := by
  unfold get
  cases Table.find? id r.memo <;> simp

theorem getLast?_chain_push (r : Registry σ V) (id : String) :
    (r.push id).chain.getLast? = some id := by
  unfold chain push
  simp

theorem Recipe.Yields.exists_run (h : Yields book memo running recipe v t) {r : Registry σ V}
    (hoffers : r.Offers book) (hs : r.Stacked) (hmemo : r.memo = memo)
    (hrunning : r.running = running) (hne : running ≠ [])
    {p : Program σ V (Except Error V)} (hp : Program.Follows r.chain p recipe) :
    ∃ s, run Registry.fetch p r = (.ok v, r.after t s) := by
  induction h generalizing r p with
  | done running v =>
    obtain ⟨s, p', hrun, hbegins⟩ := hp.exists_begins rfl Registry.fetch
    refine ⟨s, ?_⟩
    rw [hrun, hbegins, after_nil]
    rfl
  | @fetch running edge id next recipe v w inner later hrecipe hfree _ _ ihinner ihlater =>
    obtain ⟨s, _, hrun, next', rfl, hok, _⟩ := hp.exists_begins rfl Registry.fetch
    obtain ⟨builder, hfind, hbuilder⟩ := hoffers id recipe hrecipe
    have hresolve : (r.withShared s).resolve id = .ok builder :=
      resolve_eq_ok_iff.2 ⟨hfind, hrunning ▸ hfree⟩
    have hs' : (r.withShared s).Stacked := hs.of_eq rfl rfl
    have hstack : (r.withShared s).stack ≠ [] := by
      rw [stack_ne_nil_iff]
      exact hrunning ▸ hne
    obtain ⟨s', hinner⟩ := ihinner (r := (r.withShared s).push id) hoffers (hs'.push hresolve) hmemo
      (congrArg _ hrunning) (List.cons_ne_nil _ _) (hbuilder _ (getLast?_chain_push _ id))
    have hfetch : Registry.fetch edge id (r.withShared s) = _ :=
      fetch_eq_of_run hs' hstack hresolve hinner
    have hrunning' := running_after (r.withShared s) (.run edge id inner true .nil) s'
    have hchain := chain_after (r.withShared s) (.run edge id inner true .nil) s'
    obtain ⟨s'', hlater⟩ := ihlater (r := (r.withShared s).after (.run edge id inner true .nil) s')
      hoffers (hs'.of_eq rfl hrunning') hmemo (hrunning'.trans hrunning) hne
      (hchain ▸ hok w)
    refine ⟨s'', ?_⟩
    rw [hrun]
    simp only [run, hfetch]
    rw [hlater, ← after_append]
    rfl
  | @lookUp running id next v w t hfind _ ih =>
    obtain ⟨s, _, hrun, next', rfl, hok, _⟩ := hp.exists_begins rfl Registry.fetch
    have hget : (r.withShared s).get id = .ok w := get_eq_ok_iff.2 (hmemo ▸ hfind)
    obtain ⟨s', hlater⟩ := ih (r := r.withShared s) hoffers (hs.of_eq rfl rfl) hmemo hrunning hne
      (hok w)
    refine ⟨s', ?_⟩
    rw [hrun, run, hget, hlater]
    rfl

theorem Recipe.Yields.exists_fetch (edge : Edge) {id : String} (hrecipe : book id = some recipe)
    (hfree : id ∉ running) (h : Yields book memo (id :: running) recipe v t) {r : Registry σ V}
    (hoffers : r.Offers book) (hs : r.Stacked) (hmemo : r.memo = memo)
    (hrunning : r.running = running) (hne : running ≠ []) :
    ∃ s, Registry.fetch edge id r = (.ok v, r.after (.run edge id t true .nil) s) :=
  (Yields.fetch edge hrecipe hfree h (.done running v)).exists_run hoffers hs hmemo hrunning hne
    (.fetch edge id .done fun _ => rfl)

namespace Program.Follows

variable {r : Registry σ V} {p : Program σ V (Except Error V)} {edge : Edge} {id : String}
  {next : V → Recipe V}

theorem exists_run_of_fetch (h : Follows r.chain p (.fetch edge id next)) (hs : r.Stacked)
    (hstack : r.stack ≠ []) (hrun : (run Registry.fetch p r).1 = .ok v) :
    ∃ builder w p' t s s',
      r.resolve id = .ok builder ∧
      (run Registry.fetch builder ((r.withShared s).push id)).1 = .ok w ∧
      Follows r.chain p' (next w) ∧
      (run Registry.fetch p' (r.after t s')).1 = .ok v := by
  obtain ⟨s, _, heq, next', rfl, hok, herror⟩ := h.exists_begins rfl Registry.fetch
  obtain ⟨s', hafter⟩ := traced_fetch edge id (r.withShared s)
  have hchain := chain_after (r.withShared s) (trace edge id (r.withShared s)) s'
  rw [heq] at hrun
  simp only [run] at hrun
  rw [hafter] at hrun
  cases hanswer : (Registry.fetch edge id (r.withShared s)).1 with
  | error e =>
    -- a builder that follows a recipe does not go on after an error
    rw [hanswer, (herror e).run_eq hchain] at hrun
    cases hrun
  | ok w =>
    rw [hanswer] at hrun
    obtain ⟨builder, hresolve, hbuild⟩ :=
      exists_run_of_fetch_ok (r := r.withShared s) (hs.of_eq rfl rfl) hstack hanswer
    exact ⟨builder, w, next' (.ok w), _, s, s', hresolve, hbuild, hok w, hrun⟩

theorem exists_run_of_lookUp (h : Follows r.chain p (.lookUp id next))
    (hrun : (run Registry.fetch p r).1 = .ok v) :
    ∃ w p' s,
      Table.find? id r.memo = some w ∧
      Follows r.chain p' (next w) ∧
      (run Registry.fetch p' (r.withShared s)).1 = .ok v := by
  obtain ⟨s, _, heq, next', rfl, hok, herror⟩ := h.exists_begins rfl Registry.fetch
  rw [heq, run] at hrun
  cases hget : (r.withShared s).get id with
  | error e =>
    rw [hget, (herror e).run_eq (r := r.withShared s) rfl] at hrun
    cases hrun
  | ok w =>
    rw [hget] at hrun
    exact ⟨w, next' (.ok w), s, get_eq_ok_iff.1 hget, hok w, hrun⟩

end Program.Follows

theorem exists_yields_of_within {fetched kept : String → Prop} {room : Nat} {r : Registry σ V}
    (hkeeps : ∀ id builder, fetched id → Table.find? id r.builders = some builder →
      ∃ recipe,
        book id = some recipe ∧ recipe.Within fetched kept ∧ Build.Follows id builder recipe)
    (hs : r.Stacked) (hroom : Ample room r) (hstack : r.stack ≠ [])
    {p : Program σ V (Except Error V)} (hp : Program.Follows r.chain p recipe)
    (hwithin : recipe.Within fetched kept) (hrun : (run fetch p r).1 = .ok v) :
    ∃ t, Recipe.Yields book r.memo r.running recipe v t := by
  -- each run takes up room, and within one run the recipe gets smaller
  induction room using Nat.strongRecOn generalizing r p recipe v with
  | ind room ihroom =>
    induction recipe generalizing r p with
    | done w =>
      obtain ⟨s, p', heq, hbegins⟩ := hp.exists_begins rfl fetch
      rw [heq, hbegins] at hrun
      obtain rfl := Except.ok.inj hrun
      exact ⟨.nil, .done _ _⟩
    | fail error =>
      rw [hp.run_fail rfl] at hrun
      cases hrun
    | fetch edge id next ih =>
      obtain ⟨hfetched, hnext⟩ := hwithin
      obtain ⟨builder, w, p', t, s, s', hresolve, hbuild, hp', hrest⟩ :=
        hp.exists_run_of_fetch hs hstack hrun
      obtain ⟨hfind, hfree⟩ := resolve_eq_ok_iff.1 hresolve
      obtain ⟨recipe, hrecipe, hinside, hbuilder⟩ := hkeeps id builder hfetched hfind
      obtain ⟨room, rfl⟩ := hroom.exists_eq_succ hs hresolve
      obtain ⟨inner, hinner⟩ := ihroom room (Nat.lt_succ_self room)
        (r := (r.withShared s).push id) hkeeps ((hs.push hresolve).of_eq rfl rfl)
        (hroom.push id) (List.cons_ne_nil _ _) (hbuilder _ (getLast?_chain_push _ id)) hinside
        hbuild
      have hrunning := running_after r t s'
      obtain ⟨later, hlater⟩ := ih w (r := r.after t s') hkeeps (hs.of_eq rfl hrunning)
        (hroom.of_eq rfl hrunning) (stack_ne_nil_iff.2 (hrunning ▸ stack_ne_nil_iff.1 hstack))
        ((chain_after r t s').symm ▸ hp') (hnext w) hrest
      rw [hrunning] at hlater
      exact ⟨_, .fetch edge hrecipe hfree hinner hlater⟩
    | lookUp id next ih =>
      obtain ⟨w, p', s, hfind, hp', hrest⟩ := hp.exists_run_of_lookUp hrun
      obtain ⟨t, hlater⟩ := ih w (r := r.withShared s) hkeeps (hs.of_eq rfl rfl) hroom hstack hp'
        (hwithin.2 w) hrest
      exact ⟨t, .lookUp hfind hlater⟩

theorem exists_yields {room : Nat} {r : Registry σ V} (hkeeps : r.KeepsTo book) (hs : r.Stacked)
    (hroom : Ample room r) (hstack : r.stack ≠ []) {p : Program σ V (Except Error V)}
    (hp : Program.Follows r.chain p recipe) (hrun : (run fetch p r).1 = .ok v) :
    ∃ t, Recipe.Yields book r.memo r.running recipe v t := by
  refine exists_yields_of_within ?_ hs hroom hstack hp recipe.within_true hrun
  intro id builder _ hfind
  obtain ⟨recipe', hrecipe, hbuilder⟩ := hkeeps id builder hfind
  exact ⟨recipe', hrecipe, recipe'.within_true, hbuilder⟩

end Registry
end FixtureLab

import FixtureLab.Proofs.Registry.Book

/-!
This module contains the proof that two pure fixtures which can each be registered can be registered
in either order. What the one is built from is not changed by the other, so both runs replay, and
what both of them run again has the same record in both.
-/

namespace FixtureLab
namespace Registry

open FixtureLab.Graph (Store)

variable {σ V : Type} {r : Registry σ V} {book : String → Option (Recipe V)} {a b : String}
  {A B : Build σ V V} {recipe recipe' : Recipe V} {v v' : V} {t t' : Trace}

theorem Recipe.Yields.records_agree {memo : Table V}
    (h : Recipe.Yields book memo [a] recipe v t) (h' : Recipe.Yields book memo [b] recipe' v' t')
    (hne : a ≠ b) (ha : book a = none) (hb : book b = none) :
    ∀ record ∈ Execution.records (Execution.all ⟨a, t, true⟩),
      ∀ record' ∈ Execution.records (Execution.all ⟨b, t', true⟩),
        record.id = record'.id → record = record' := by
  intro record hrecord record' hrecord' hid
  rw [Trace.records_all, if_pos rfl, List.mem_append, List.mem_singleton] at hrecord hrecord'
  rcases hrecord with hrecord | rfl
  . obtain ⟨_, _, _, inner, hbook, hinner, heq⟩ := h.exists_of_mem_records hrecord
    rcases hrecord' with hrecord' | rfl
    . obtain ⟨_, _, _, inner', hbook', hinner', heq'⟩ := h'.exists_of_mem_records hrecord'
      rw [← hid, hbook] at hbook'
      obtain rfl := Option.some.inj hbook'
      rw [heq, heq', (hinner.unique hinner').2, hid]
    . -- the recipe of `b` is not in the book yet
      rw [hid] at hbook
      exact absurd (hb.symm.trans hbook) (by simp)
  . rcases hrecord' with hrecord' | rfl
    . obtain ⟨_, _, _, _, hbook', _, _⟩ := h'.exists_of_mem_records hrecord'
      rw [← hid] at hbook'
      exact absurd (ha.symm.trans hbook') (by simp)
    . exact absurd hid hne

theorem Settled.register_register_of_yields (h : r.Settled) (hne : a ≠ b) (ha : a ≠ "")
    (hb : b ≠ "") (hnewa : ¬r.contains a) (hnewb : ¬r.contains b) (hoffers : r.Offers book)
    (hA : Build.Follows a A recipe) (hB : Build.Follows b B recipe')
    (hyieldsA : Recipe.Yields book r.memo [a] recipe v t)
    (hyieldsB : Recipe.Yields book r.memo [b] recipe' v' t') :
    ∃ s,
      (r.register a A).2.register b B
        =
      (.ok (),
        { r with
          builders := Table.insert b B (Table.insert a A r.builders)
          memo := Table.insert b v' (Table.insert a v r.memo)
          store := (r.store.insertAll (Execution.records (Execution.all ⟨a, t, true⟩))).insertAll
            (Execution.records (Execution.all ⟨b, t', true⟩))
          shared := s }) := by
  obtain ⟨s, hregister⟩ := h.idle.register_of_yields ha hnewa hoffers hA hyieldsA
  have hidle : (r.register a A).2.Idle := (h.run (.register a A)).idle
  -- what is kept of `a` is new, so `b` finds what it would have found without it
  have hlater : Recipe.Yields book (Table.insert a v r.memo) [b] recipe' v' t' :=
    hyieldsB.mono (fun _ _ _ hrecipe => hrecipe) fun _ _ => h.find?_insert_memo hnewa v
  rw [hregister] at hidle ⊢
  apply hidle.register_of_yields hb _ (hoffers.bound (hoffers.eq_none hnewa) A) hB hlater
  simpa [contains, Table.contains, Table.find?_insert_of_ne hne] using hnewb

theorem register_comm (policy : DuplicatePolicy) (s : σ) (ops : List (Operation σ V))
    (hpure : ((start policy s).runAll ops).AllPure) (a b : String) (hne : a ≠ b)
    (hnewa : ¬((start policy s).runAll ops).contains a)
    (hnewb : ¬((start policy s).runAll ops).contains b) (A B : Build σ V V)
    (hA : Build.IsPure a A) (hB : Build.IsPure b B)
    (hoka : (((start policy s).runAll ops).register a A).1 = .ok ())
    (hokb : (((start policy s).runAll ops).register b B).1 = .ok ()) :
    let r := (start policy s).runAll ops
    let ab := (r.register a A).2.register b B
    let ba := (r.register b B).2.register a A
    ab.1 = .ok () ∧
    ba.1 = .ok () ∧
    ab.2.builders = ba.2.builders ∧
    ab.2.memo = ba.2.memo ∧
    ab.2.store = ba.2.store := by
  have h := settled_runAll policy s ops
  generalize (start policy s).runAll ops = r at h hpure hnewa hnewb hoka hokb ⊢
  obtain ⟨book, hoffers, hkeeps⟩ := hpure.exists_book
  obtain ⟨recipe, hA⟩ := hA
  obtain ⟨recipe', hB⟩ := hB
  obtain ⟨v, t, hyieldsA⟩ := h.idle.exists_yields_of_register hkeeps hA hoka
  obtain ⟨v', t', hyieldsB⟩ := h.idle.exists_yields_of_register hkeeps hB hokb
  have ha := (h.idle.run_of_register hoka).1
  have hb := (h.idle.run_of_register hokb).1
  obtain ⟨s, hab⟩ := h.register_register_of_yields hne ha hb hnewa hnewb hoffers hA hB hyieldsA
    hyieldsB
  obtain ⟨s', hba⟩ := h.register_register_of_yields (Ne.symm hne) hb ha hnewb hnewa hoffers hB hA
    hyieldsB hyieldsA
  have hagree := hyieldsA.records_agree hyieldsB hne (hoffers.eq_none hnewa)
    (hoffers.eq_none hnewb)
  dsimp only
  rw [hab, hba]
  exact ⟨rfl, rfl, Table.insert_comm (Ne.symm hne) B A r.builders,
    Table.insert_comm (Ne.symm hne) v' v r.memo, Store.insertAll_comm h.store_sorted hagree⟩

def plank : Build Nat Nat Nat := Build.fetch .child "wood"

def workshop : List (Operation Nat Nat) := [
  .register "wood" (pure 1),
  .register "plank" plank,
  .register "wood" (pure 2)]

def stool : Build Nat Nat Nat := Build.fetch .child "plank"

def shelf : Build Nat Nat Nat := do
  let kept ← Build.lookUp "plank"
  let fresh ← Build.fetch .parent "plank"
  return kept + fresh

theorem allPure_workshop : ((start .overwrite 0).runAll workshop).AllPure := by
  have hbuilders : ((start .overwrite 0).runAll workshop).builders
      =
    [("plank", plank), ("wood", pure 2)] := rfl
  apply allPure_of_forall_mem
  rw [hbuilders]
  simpa using ⟨Build.isPure_fetch "plank" .child "wood", Build.isPure_done "wood" 2⟩

theorem register_stool_shelf_comm :
    let r := (start .overwrite 0).runAll workshop
    let first := (r.register "stool" stool).2.register "shelf" shelf
    let second := (r.register "shelf" shelf).2.register "stool" stool
    first.2.memo = [("plank", 1), ("shelf", 3), ("stool", 2), ("wood", 2)] ∧
    first.2.memo = second.2.memo ∧
    first.2.store = second.2.store := by
  have hshelf : Build.IsPure "shelf" shelf := by
    refine ⟨.lookUp "plank" fun kept => .fetch .parent "plank" fun fresh =>
      .done (kept + fresh), ?_⟩
    intro ids _
    apply Program.Follows.lookUp
    . intro kept
      exact .fetch .parent "plank" (fun fresh => .done (kept + fresh)) fun _ => rfl
    . exact fun _ => rfl
  obtain ⟨_, _, _, hmemo, hstore⟩ := register_comm .overwrite 0 workshop allPure_workshop "stool"
    "shelf" (by decide) (by decide) (by decide) stool shelf
    (Build.isPure_fetch "stool" .child "plank") hshelf rfl rfl
  exact ⟨rfl, hmemo, hstore⟩

end Registry
end FixtureLab

import FixtureLab.Proofs.Registry.Invariant
import Mathlib.Logic.Relation

/-!
This module contains the proof that the graph of the stored records has no cycle. Each fixture is
dated by the start of the run its record is from; what a fixture uses has a later date than the
fixture, however often either of them is run again.
-/

namespace FixtureLab
namespace Registry

open FixtureLab.Graph (Edge Record Store)

structure Clock where
  date : String → Nat := fun _ => 0
  now : Nat := 0

namespace Clock

def advance (c : Clock) : Clock := { c with now := c.now + 1 }

def stamp (c : Clock) (id : String) (start : Nat) : Clock :=
  { c with date := fun x => if x = id then start else c.date x }

def Current (c : Clock) : Prop := ∀ id, c.date id ≤ c.now

theorem current_advance {c : Clock} (h : c.Current) : c.advance.Current :=
  fun id => Nat.le_succ_of_le (h id)

theorem current_stamp {c : Clock} (h : c.Current) (id : String) {start : Nat}
    (hstart : start ≤ c.now) : (c.stamp id start).Current := by
  intro x
  simp only [stamp]
  split
  . exact hstart
  . exact h x

theorem stamp_self (c : Clock) (id : String) (start : Nat) :
    (c.stamp id start).date id = start := by
  simp [stamp]

theorem stamp_of_ne (c : Clock) {id x : String} (h : x ≠ id) (start : Nat) :
    (c.stamp id start).date x = c.date x := by
  simp [stamp, h]

end Clock

namespace Trace

def tick : Trace → Clock → Clock
  | .nil, c => c
  | .run _ id inner succeeded later, c =>
    let c' := inner.tick c.advance
    later.tick (if succeeded then c'.stamp id c.advance.now else c')

variable {known running : List String} {t : Trace} {c : Clock}

theorem now_le_tick (t : Trace) (c : Clock) : c.now ≤ (t.tick c).now := by
  induction t generalizing c with
  | nil => exact Nat.le_refl c.now
  | run edge id inner succeeded later ihi ihl =>
    have hinner : c.now + 1 ≤ (inner.tick c.advance).now := ihi c.advance
    have hlater := ihl (if succeeded then (inner.tick c.advance).stamp id c.advance.now
      else inner.tick c.advance)
    simp only [tick]
    refine Nat.le_trans ?_ hlater
    split
    . simp only [Clock.stamp]
      omega
    . omega

theorem current_tick (t : Trace) (h : c.Current) : (t.tick c).Current := by
  induction t generalizing c with
  | nil => exact h
  | run edge id inner succeeded later ihi ihl =>
    have hinner := ihi (Clock.current_advance h)
    simp only [tick]
    apply ihl
    split
    . exact Clock.current_stamp hinner id (now_le_tick inner c.advance)
    . exact hinner

theorem date_tick_of_mem (ht : t.Sound known running) {id : String} (hid : id ∈ running) :
    (t.tick c).date id = c.date id := by
  induction t generalizing running c with
  | nil => rfl
  | run edge id' inner succeeded later ihi ihl =>
    obtain ⟨_, hfree, hinner, hlater⟩ := ht
    have hne : id ≠ id' := fun heq => hfree (heq ▸ hid)
    have hdate := ihi hinner (c := c.advance) (List.mem_cons_of_mem id' hid)
    simp only [tick]
    rw [ihl hlater hid]
    split
    . rw [Clock.stamp_of_ne _ hne, hdate]
      rfl
    . exact hdate

theorem date_le_date_tick (ht : t.Sound known running) (h : c.Current) (id : String) :
    c.date id ≤ (t.tick c).date id := by
  induction t generalizing running c with
  | nil => exact Nat.le_refl _
  | run edge id' inner succeeded later ihi ihl =>
    obtain ⟨_, _, hinner, hlater⟩ := ht
    have hcurrent := current_tick inner (Clock.current_advance h)
    have hdate : c.date id ≤ (inner.tick c.advance).date id :=
      ihi hinner (Clock.current_advance h)
    simp only [tick]
    split
    . have hstamp := Clock.current_stamp hcurrent id' (now_le_tick inner c.advance)
      refine Nat.le_trans ?_ (ihl hlater hstamp)
      by_cases heq : id = id'
      . subst heq
        rw [Clock.stamp_self]
        exact Nat.le_succ_of_le (h id)
      . rw [Clock.stamp_of_ne _ heq]
        exact hdate
    . exact Nat.le_trans hdate (ihl hlater hcurrent)

theorem now_lt_date_tick_of_mem_uses (ht : t.Sound known running) (h : c.Current) {edge : Edge}
    {id : String} (hid : id ∈ t.uses edge) : c.now < (t.tick c).date id := by
  induction t generalizing running c with
  | nil => simp [uses] at hid
  | run e id' inner succeeded later ihi ihl =>
    obtain ⟨_, _, hinner, hlater⟩ := ht
    have hcurrent := current_tick inner (Clock.current_advance h)
    have hnow : c.now < (inner.tick c.advance).now := now_le_tick inner c.advance
    have hstamp := Clock.current_stamp hcurrent id' (now_le_tick inner c.advance)
    simp only [tick]
    simp only [uses] at hid
    cases succeeded with
    | false => exact Nat.lt_trans hnow (ihl hlater hcurrent (by simpa using hid))
    | true =>
      rw [if_pos rfl]
      have hrest : id ∈ later.uses edge →
          c.now < (later.tick ((inner.tick c.advance).stamp id' c.advance.now)).date id :=
        fun hmem => Nat.lt_trans hnow (ihl hlater hstamp hmem)
      split at hid
      . rcases List.mem_cons.1 hid with rfl | hid
        . have hle := date_le_date_tick hlater hstamp id
          rw [Clock.stamp_self] at hle
          exact hle
        . exact hrest hid
      . exact hrest hid

end Trace

def Dated (s : Store) (c : Clock) : Prop :=
  ∀ id target, s.Uses id target → c.date id < c.date target

theorem Dated.lt_of_transGen {s : Store} {c : Clock} (h : Dated s c) {id target : String}
    (hpath : Relation.TransGen s.Uses id target) : c.date id < c.date target := by
  induction hpath with
  | single huse => exact h _ _ huse
  | tail _ huse ih => exact Nat.lt_trans ih (h _ _ huse)

theorem Dated.stamp {s : Store} {c : Clock} (h : Dated s c) (record : Record) {start : Nat}
    (hself : c.date record.id < start) (huses : ∀ id ∈ record.targets, start < c.date id) :
    Dated (s.insert record) (c.stamp record.id start) := by
  rintro id target ⟨r, hr, htarget⟩
  rw [Store.find?_insert] at hr
  split at hr
  . next hid =>
    injection hr with hr
    subst hr hid
    have hlt := huses target htarget
    have hne : target ≠ record.id := by
      intro heq
      rw [heq] at hlt
      omega
    rw [Clock.stamp_self, Clock.stamp_of_ne _ hne]
    exact hlt
  . next hid =>
    -- an older record: its edge may lead to the fixture whose date changes
    have hlt := h id target ⟨r, hr, htarget⟩
    rw [Clock.stamp_of_ne _ (Ne.symm hid)]
    by_cases heq : target = record.id
    . subst heq
      rw [Clock.stamp_self]
      omega
    . rw [Clock.stamp_of_ne _ heq]
      exact hlt

theorem Dated.tick {known running : List String} {t : Trace} {s : Store} {c : Clock}
    (h : Dated s c) (ht : t.Sound known running) (hc : c.Current) :
    Dated (s.insertAll t.records) (t.tick c) := by
  induction t generalizing running s c with
  | nil => exact h
  | run edge id inner succeeded later ihi ihl =>
    obtain ⟨_, _, hinner, hlater⟩ := ht
    have hcurrent := Trace.current_tick inner (Clock.current_advance hc)
    have hdated : Dated (s.insertAll inner.records) (inner.tick c.advance) :=
      ihi h hinner (Clock.current_advance hc)
    simp only [Trace.tick, Trace.records_run, Trace.records_all, Store.insertAll_append]
    apply ihl _ hlater
    . split
      . exact Clock.current_stamp hcurrent id (Trace.now_le_tick inner c.advance)
      . exact hcurrent
    . split
      . -- the new date is later than the old one, so edges to the fixture stay in order, and
        -- earlier than those of what the run has built
        apply hdated.stamp
        . have hdate : (inner.tick c.advance).date id = c.date id :=
            Trace.date_tick_of_mem hinner List.mem_cons_self
          change (inner.tick c.advance).date id < c.now + 1
          rw [hdate]
          exact Nat.lt_succ_of_le (hc id)
        . intro x hx
          obtain ⟨e, he⟩ := Trace.mem_targets_record hx
          exact Trace.now_lt_date_tick_of_mem_uses hinner (Clock.current_advance hc) he
      . exact hdated

variable {σ V : Type}

theorem Settled.exists_dated_run {r : Registry σ V} (h : r.Settled) {c : Clock} (hc : c.Current)
    (hdated : Dated r.store c) (op : Operation σ V) :
    ∃ c' : Clock, c'.Current ∧ Dated (op.run r).2.store c' := by
  have hcases := run_cases h.idle h.sorted op
  generalize op.executions r = es at hcases
  generalize (op.run r).2 = r' at hcases ⊢
  cases hcases with
  | kept op s => exact ⟨c, hc, hdated⟩
  | registered id builder v s _ _ =>
    have htick := hdated.tick (h.idle.sound_registration id builder .child) hc
    rw [Trace.records_toTrace] at htick
    exact ⟨_, Trace.current_tick _ hc, htick⟩

theorem exists_dated_runAll (policy : DuplicatePolicy) (s : σ) (ops : List (Operation σ V)) :
    ∃ c : Clock, Dated ((start policy s).runAll ops).store c := by
  have hstart : Dated (start policy s : Registry σ V).store {} := by
    rintro id target ⟨r, hr, _⟩
    cases hr
  have hinv := runAll_preserves
    (P := fun r : Registry σ V => r.Settled ∧ ∃ c : Clock, c.Current ∧ Dated r.store c)
    (fun r op ⟨hr, c, hc, hdated⟩ => ⟨hr.run op, hr.exists_dated_run hc hdated op⟩)
    ⟨settled_start policy s, {}, fun _ => Nat.le_refl 0, hstart⟩ ops
  obtain ⟨_, c, _, hdated⟩ := hinv
  exact ⟨c, hdated⟩

theorem acyclic_runAll (policy : DuplicatePolicy) (s : σ) (ops : List (Operation σ V))
    (id : String) : ¬Relation.TransGen ((start policy s).runAll ops).store.Uses id id := by
  intro hcycle
  obtain ⟨c, hdated⟩ := exists_dated_runAll policy s ops
  exact Nat.lt_irrefl _ (hdated.lt_of_transGen hcycle)

end Registry
end FixtureLab

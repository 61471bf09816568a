import FixtureLab.Proofs.Schema.WellFormed

/-!
This module contains what holds of the definitions that are inferred from files: the
leaves of every sample are in order, and source can be rendered.
-/

namespace FixtureLab
namespace Schema

theorem sorted_leavesOf {leaves : Table String} (h : Table.Sorted leaves) (fs : List Finding) :
    Table.Sorted (leavesOf leaves fs) := by
  unfold leavesOf
  induction fs generalizing leaves with
  | nil => exact h
  | cons f fs ih =>
    cases f with
    | leaf place field => exact ih (Table.sorted_insert h place field.typeName)
    | complete type | fault place => exact ih h

namespace Inferrer

def LeavesSorted (t : Inferrer) : Prop := ∀ s ∈ t.samples, Table.Sorted s.leaves

theorem LeavesSorted.addValue {t : Inferrer} (h : t.LeavesSorted) (file : String) (v : Json) :
    (t.addValue file v).2.LeavesSorted := by
  rw [addValue_eq]
  split
  . exact h
  split
  . exact h
  . intro s hs
    rcases List.mem_append.1 hs with hs | hs
    . exact h s hs
    . rw [List.mem_singleton.1 hs]
      exact sorted_leavesOf Table.sorted_nil _

theorem LeavesSorted.run {t : Inferrer} (h : t.LeavesSorted) (c : Call) :
    (c.run t).2.LeavesSorted := by
  cases hsample : c.sample? with
  | none =>
    obtain ⟨e, hrun, -⟩ := Call.run_of_unread hsample t
    rw [hrun]
    exact h
  | some sample =>
    rw [Call.run_of_sample? hsample]
    exact h.addValue sample.1 sample.2

theorem LeavesSorted.runAll {t : Inferrer} (h : t.LeavesSorted) (calls : List Call) :
    (t.runAll calls).LeavesSorted := by
  induction calls generalizing t with
  | nil => exact h
  | cons c rest ih => exact ih (h.run c)

theorem addFiles_of_ok {t t' : Inferrer} {fs : FileSystem} {paths : List Path}
    (h : t.addFiles fs paths = .ok t') : t' = t.runAll (paths.map (.read fs)) := by
  induction paths generalizing t with
  | nil => exact (Except.ok.inj h).symm
  | cons path rest ih =>
    rw [addFiles] at h
    split at h
    . next t₁ hadd =>
      have hrun : (Call.read fs path).run t = (.ok (), t₁) := hadd
      rw [ih h, List.map_cons, runAll, runAll, List.foldl_cons, hrun]
    . cases h

end Inferrer

theorem inferFiles_eq_ok_iff {fs : FileSystem} {pattern model : String} {d : Definitions} :
    inferFiles fs pattern model = .ok d
      ↔
    ∃ t₀ paths t, Inferrer.new model = .ok t₀ ∧ fs.expand pattern = .ok paths
      ∧ t₀.addFiles fs paths = .ok t ∧ t.finish = d := by
  unfold inferFiles
  cases Inferrer.new model with
  | error e => simp [bind, Except.bind]
  | ok t₀ =>
    cases fs.expand pattern with
    | error e => simp [bind, Except.bind]
    | ok paths =>
      cases hadd : t₀.addFiles fs paths with
      | error e => simp [hadd, bind, Except.bind]
      | ok t => simp [hadd, bind, Except.bind, pure, Except.pure]

theorem inferFiles_of_ok {fs : FileSystem} {pattern model : String} {d : Definitions}
    (h : inferFiles fs pattern model = .ok d) :
    (∀ s ∈ d.samples, Table.Sorted s.leaves) ∧ ∃ text, Source.render d = .ok text := by
  obtain ⟨t₀, paths, t, hnew, -, hadd, rfl⟩ := inferFiles_eq_ok_iff.1 h
  cases Inferrer.new_of_ok hnew
  cases Inferrer.addFiles_of_ok hadd
  constructor
  . exact Inferrer.LeavesSorted.runAll (fun _ hs => absurd hs List.not_mem_nil) _
  . have hcalls : ∀ c ∈ paths.map (Inferrer.Call.read fs), c.KeysDistinct := by
      intro c hc
      obtain ⟨path, -, rfl⟩ := List.mem_map.1 hc
      trivial
    have hwell := (Inferrer.wellFormed_new (Text.upperCamelCase model)).runAll hcalls
    exact ⟨_, Definitions.render_eq_sourceFile (hwell.table.error?_eq_none rfl)⟩

end Schema
end FixtureLab

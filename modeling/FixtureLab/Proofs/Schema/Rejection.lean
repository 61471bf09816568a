import FixtureLab.Proofs.Schema.WellFormed

/-!
This module contains what a rejected sample leaves behind: no entry and no base name, but the types
of the objects that were complete before its first fault.
-/

namespace FixtureLab
namespace Schema
namespace Inferrer

def Call.completed (t : Inferrer) (c : Call) : List RecordType :=
  match c.sample? with
  | some (label, v) =>
    if Path.baseName label ∈ t.used then []
    else (beforeFault (findIn t.model v)).filterMap Finding.type?
  | none => []

theorem addValue_of_error {t t' : Inferrer} {file : String} {v : Json} {e : Error}
    (h : t.addValue file v = (.error e, t')) :
    Path.baseName file ∈ t.used ∧ e = .duplicateFile (Path.baseName file) ∧ t' = t
      ∨ Path.baseName file ∉ t.used ∧ (∃ place, e = .notAnObject file place)
        ∧ t' = { t with table := t.tableWith v } := by
  rw [addValue_eq] at h
  split at h
  . next hused =>
    cases h
    exact .inl ⟨hused, rfl, rfl⟩
  . next hnew =>
    split at h
    . next place _ =>
      cases h
      exact .inr ⟨hnew, ⟨place, rfl⟩, rfl⟩
    . cases h

end Inferrer

/--
A call that fails keeps the entries and the base names. The table gets what the first objects of a
sample show, if one of the later values is a fault; other errors keep the table too.
-/
theorem rejected_call {t t' : Inferrer} {c : Inferrer.Call} {e : Error}
    (h : c.run t = (.error e, t')) :
    t'.samples = t.samples ∧ t'.used = t.used ∧ t'.model = t.model
      ∧ t'.table = (c.completed t).foldl .put t.table
      ∧ (∀ label v, c.sample? = some (label, v) →
          c.completed t <+: (objectsIn t.model v).map TypedObject.shown)
      ∧ ((∀ label place, e ≠ .notAnObject label place) → t' = t) := by
  cases hsample : c.sample? with
  | none =>
    obtain ⟨e', hrun, -⟩ := Inferrer.Call.run_of_unread hsample t
    cases h.symm.trans hrun
    have hnone : c.completed t = [] := by rw [Inferrer.Call.completed, hsample]
    simp [hnone]
  | some sample =>
    obtain ⟨label, v⟩ := sample
    rw [Inferrer.Call.run_of_sample? hsample] at h
    rcases Inferrer.addValue_of_error h with ⟨hused, -, rfl⟩ | ⟨hnew, ⟨place, rfl⟩, rfl⟩
    . have hnone : c.completed t' = [] := by
        rw [Inferrer.Call.completed, hsample]
        exact if_pos hused
      simp [hnone]
    . have hsome : c.completed t = (beforeFault (findIn t.model v)).filterMap Finding.type? := by
        rw [Inferrer.Call.completed, hsample]
        exact if_neg hnew
      refine ⟨rfl, rfl, rfl, by rw [hsome]; rfl, ?_, fun hne => absurd rfl (hne label place)⟩
      rintro label' v' ⟨⟩
      rw [hsome]
      exact isPrefix_types_findIn t.model v

def lateFault : Inferrer.Call :=
  .offer "arr.json" (.obj [("list", .arr [.null, .obj [("x", .int 1)], .str "s"])])

theorem rejected_lateFault :
    ∃ t', lateFault.run { model := "Root" } = (.error (.notAnObject "arr.json" "list[2]"), t')
      ∧ t'.samples = [] ∧ t'.used = []
      ∧ t'.table.types = [{ name := "List", fields := [{ name := "x", kind := .int64 }] }] := by
  have hrun : lateFault.run { model := "Root" }
      = (.error (.notAnObject "arr.json" "list[2]"), (lateFault.run { model := "Root" }).2) := rfl
  obtain ⟨hsamples, hused, -, htable, -, -⟩ := rejected_call hrun
  refine ⟨_, hrun, hsamples, hused, ?_⟩
  rw [htable]
  rfl

theorem type_of_rejected_sample :
    ∃ t rejected accepted alone,
      Inferrer.new "root" = .ok t
        ∧ lateFault.run t = (.error (.notAnObject "arr.json" "list[2]"), rejected)
        ∧ rejected.finish ≠ t.finish
        ∧ rejected.addValue "two.json" (.obj [("list", .arr [.obj [("x", .bool true)]])])
          = (.ok (), accepted)
        ∧ t.addValue "two.json" (.obj [("list", .arr [.obj [("x", .bool true)]])])
          = (.ok (), alone)
        ∧ accepted.finish.samples = alone.finish.samples
        ∧ accepted.finish.field? "List" "x" = some { name := "x", kind := .int64 }
        ∧ alone.finish.field? "List" "x" = some { name := "x", kind := .bool } := by
  refine ⟨_, _, _, _, rfl, rfl, ?_, rfl, rfl, rfl, rfl, rfl⟩
  decide

end Schema
end FixtureLab

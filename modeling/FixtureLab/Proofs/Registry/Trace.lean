import FixtureLab.Registry.Error
import FixtureLab.Proofs.Graph.Store

/-!
This module contains traces: which builders ran within a run, nested as they ran, and which of them
succeeded. The records of a trace are read off it without regard to frames and staging.
-/

namespace FixtureLab
namespace Registry

open FixtureLab.Graph (Edge Record Store)

/--
The runs of builders that were fetched within a run, in the order in which they began. A fetch that
was refused ran no builder and is not listed.
-/
inductive Trace where
  | nil
  | run (edge : Edge) (id : String) (inner : Trace) (succeeded : Bool) (later : Trace)

structure Execution where
  id : String
  inner : Trace
  succeeded : Bool

namespace Trace

def append : Trace → Trace → Trace
  | .nil, u => u
  | .run edge id inner succeeded later, u => .run edge id inner succeeded (later.append u)

instance : Append Trace := ⟨append⟩

def executions : Trace → List Execution
  | .nil => []
  | .run _ id inner succeeded later =>
    inner.executions ++ { id, inner, succeeded } :: later.executions

def uses (edge : Edge) : Trace → List String
  | .nil => []
  | .run e id _ succeeded later =>
    if succeeded ∧ e = edge then id :: later.uses edge else later.uses edge

def linkOn : Trace → Record → Record
  | .nil, frame => frame
  | .run edge id _ succeeded later, frame =>
    later.linkOn (if succeeded then frame.link edge id else frame)

def Sound (known : List String) : List String → Trace → Prop
  | _, .nil => True
  | running, .run _ id inner _ later =>
    id ∈ known ∧ id ∉ running ∧ Sound known (id :: running) inner ∧ Sound known running later

end Trace

namespace Execution

def all (e : Execution) : List Execution := e.inner.executions ++ [e]

def toTrace (edge : Edge) (e : Execution) : Trace := .run edge e.id e.inner e.succeeded .nil

def record (e : Execution) : Record where
  id := e.id
  parent := (e.inner.uses .parent).getLast?
  children := (e.inner.uses .child).eraseDups

def records (es : List Execution) : List Record := (es.filter (·.succeeded)).map record

@[simp]
theorem records_nil : records [] = [] := rfl

@[simp]
theorem records_append (es es' : List Execution) :
    records (es ++ es') = records es ++ records es' := by
  unfold records
  rw [List.filter_append, List.map_append]

theorem records_cons (e : Execution) (es : List Execution) :
    records (e :: es) = if e.succeeded then e.record :: records es else records es := by
  unfold records
  rw [List.filter_cons]
  split <;> simp

end Execution

namespace Trace

def records (t : Trace) : List Record := Execution.records t.executions

@[simp]
theorem nil_append (t : Trace) : nil ++ t = t := rfl

@[simp]
theorem run_append (edge : Edge) (id : String) (inner : Trace) (succeeded : Bool)
    (later t : Trace) :
    run edge id inner succeeded later ++ t = run edge id inner succeeded (later ++ t) := rfl

@[simp]
theorem append_nil (t : Trace) : t ++ nil = t := by
  induction t with
  | nil => rfl
  | run edge id inner succeeded later _ ih => rw [run_append, ih]

theorem append_assoc (t u v : Trace) : t ++ u ++ v = t ++ (u ++ v) := by
  induction t with
  | nil => rfl
  | run edge id inner succeeded later _ ih => simp only [run_append, ih]

theorem executions_append (t u : Trace) : (t ++ u).executions = t.executions ++ u.executions := by
  induction t with
  | nil => rfl
  | run edge id inner succeeded later _ ih => simp [executions, ih]

@[simp]
theorem records_nil : nil.records = [] := rfl

@[simp]
theorem records_append (t u : Trace) : (t ++ u).records = t.records ++ u.records := by
  unfold records
  rw [executions_append, Execution.records_append]

theorem records_all (e : Execution) :
    Execution.records e.all = e.inner.records ++ if e.succeeded then [e.record] else [] := by
  rw [Execution.all, Execution.records_append, Execution.records_cons, Execution.records_nil]
  rfl

theorem records_run (edge : Edge) (id : String) (inner : Trace) (succeeded : Bool) (later : Trace) :
    (run edge id inner succeeded later).records
      =
    Execution.records (Execution.all ⟨id, inner, succeeded⟩) ++ later.records := by
  simp only [records_all, records, executions, Execution.records_append, Execution.records_cons]
  split <;> simp

@[simp]
theorem records_toTrace (e : Execution) (edge : Edge) :
    (e.toTrace edge).records = Execution.records e.all := by
  rw [Execution.toTrace, records_run, records_nil, List.append_nil]

theorem linkOn_append (t u : Trace) (frame : Record) :
    (t ++ u).linkOn frame = u.linkOn (t.linkOn frame) := by
  induction t generalizing frame with
  | nil => rfl
  | run edge id inner succeeded later _ ih => simp [linkOn, ih]

@[simp]
theorem linkOn_id (t : Trace) (frame : Record) : (t.linkOn frame).id = frame.id := by
  induction t generalizing frame with
  | nil => rfl
  | run edge id inner succeeded later _ ih =>
    rw [linkOn, ih]
    split <;> simp

theorem linkOn_children (t : Trace) {frame : Record} {l : List String}
    (h : frame.children = l.eraseDups) :
    (t.linkOn frame).children = (l ++ t.uses .child).eraseDups := by
  induction t generalizing frame l with
  | nil => simp [linkOn, uses, h]
  | run edge id inner succeeded later _ ih =>
    simp only [linkOn, uses]
    cases succeeded with
    | false => simp [ih h]
    | true =>
      cases edge with
      | parent => simpa [Record.link] using @ih (frame.setParent id) l h
      | child =>
        have hadd : (frame.addChild id).children = (l ++ [id]).eraseDups := by
          rw [Table.eraseDups_concat]
          unfold Record.addChild
          split <;> simp_all
        simpa [Record.link] using @ih (frame.addChild id) (l ++ [id]) hadd

theorem linkOn_parent (t : Trace) (frame : Record) :
    (t.linkOn frame).parent = (t.uses .parent).getLast?.or frame.parent := by
  induction t generalizing frame with
  | nil => simp [linkOn, uses]
  | run edge id inner succeeded later _ ih =>
    simp only [linkOn, uses]
    rw [ih]
    cases succeeded with
    | false => simp
    | true =>
      cases edge with
      | child =>
        simp only [if_true, Record.link, Record.addChild]
        split <;> simp
      | parent =>
        simp only [if_true, Record.link, Record.setParent, and_self, List.getLast?_cons]
        cases (later.uses .parent).getLast? <;> simp

theorem linkOn_empty (id : String) (t : Trace) (succeeded : Bool) :
    t.linkOn { id } = Execution.record ⟨id, t, succeeded⟩ := by
  have hid : (t.linkOn { id }).id = id := by simp
  have hparent : (t.linkOn { id }).parent = (t.uses .parent).getLast? := by
    rw [linkOn_parent]
    simp
  have hchildren : (t.linkOn { id }).children = (t.uses .child).eraseDups :=
    @linkOn_children t { id } [] (by simp)
  unfold Execution.record
  rw [← hparent, ← hchildren]
  -- a record is determined by its three fields
  generalize t.linkOn { id } = frame at hid ⊢
  subst hid
  rfl

def built (t : Trace) : List String := t.records.map (·.id)

theorem built_run (edge : Edge) (id : String) (inner : Trace) (succeeded : Bool) (later : Trace) :
    (run edge id inner succeeded later).built
      =
    inner.built ++ (if succeeded then [id] else []) ++ later.built := by
  unfold built
  rw [records_run, records_all]
  cases succeeded <;> simp [Execution.record]

theorem mem_built_of_mem_uses {t : Trace} {edge : Edge} {id : String} (h : id ∈ t.uses edge) :
    id ∈ t.built := by
  induction t with
  | nil => simp [uses] at h
  | run e id' inner succeeded later _ ih =>
    simp only [uses] at h
    rw [built_run, List.mem_append]
    split at h
    . next hs =>
      rcases List.mem_cons.1 h with rfl | h
      . simp [hs.1]
      . exact Or.inr (ih h)
    . exact Or.inr (ih h)

theorem mem_targets_record {e : Execution} {id : String} (h : id ∈ e.record.targets) :
    ∃ edge, id ∈ e.inner.uses edge := by
  simp only [Record.targets, Execution.record, List.mem_append, Option.mem_toList] at h
  rcases h with h | h
  . exact ⟨.parent, List.mem_of_getLast? h⟩
  . exact ⟨.child, List.mem_eraseDups.1 h⟩

theorem mem_built_of_mem_targets {t : Trace} {r : Record} (hr : r ∈ t.records) {id : String}
    (h : id ∈ r.targets) : id ∈ t.built := by
  induction t with
  | nil => simp at hr
  | run edge id' inner succeeded later ihi ihl =>
    simp only [records_run, records_all, List.mem_append] at hr
    simp only [built_run, List.mem_append]
    rcases hr with (hr | hr) | hr
    . exact Or.inl (Or.inl (ihi hr))
    . -- the record of the run itself: what it leads to was built within the run
      have hrec : r = Execution.record ⟨id', inner, succeeded⟩ := by
        split at hr <;> simp at hr
        exact hr
      subst hrec
      obtain ⟨edge, hedge⟩ := mem_targets_record h
      exact Or.inl (Or.inl (mem_built_of_mem_uses hedge))
    . exact Or.inr (ihl hr)

theorem Sound.append {known running : List String} {t u : Trace} (ht : Sound known running t)
    (hu : Sound known running u) : Sound known running (t ++ u) := by
  induction t with
  | nil => exact hu
  | run edge id inner succeeded later _ ih =>
    obtain ⟨hknown, hfree, hinner, hlater⟩ := ht
    exact ⟨hknown, hfree, hinner, ih hlater⟩

theorem Sound.known_of_mem_built {known running : List String} {t : Trace}
    (ht : Sound known running t) {id : String} (h : id ∈ t.built) : id ∈ known := by
  induction t generalizing running with
  | nil => cases h
  | run edge id' inner succeeded later ihi ihl =>
    obtain ⟨hknown, _, hinner, hlater⟩ := ht
    simp only [built_run, List.mem_append] at h
    rcases h with (h | h) | h
    . exact ihi hinner h
    . split at h <;> simp at h
      rw [h]
      exact hknown
    . exact ihl hlater h

end Trace

end Registry
end FixtureLab

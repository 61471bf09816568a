import FixtureLab.Graph.Export
import FixtureLab.Proofs.Text.Replace

/-!
This module contains what the escape of script terminators does to a JSON text: no terminator is
left, and the text says the same as before.
-/

namespace FixtureLab
namespace Graph

open Json Text

def closer : List Char := ['<', '/']

theorem closer_ne_nil : closer ≠ [] := List.cons_ne_nil _ _

theorem escapeScript_occurrence (cs : List Char) :
    escapeScript (closer ++ cs) = ['<', '\\', '/'] ++ escapeScript cs :=
  replaceAll_occurrence closer_ne_nil cs

theorem escapeScript_cons {c : Char} {cs : List Char} (h : ¬closer <+: c :: cs) :
    escapeScript (c :: cs) = c :: escapeScript cs := replaceAll_cons h

theorem not_closer_infix_escapeScript (cs : List Char) : ¬closer <:+: escapeScript cs := by
  induction cs using induction_on_occurrences closer_ne_nil with
  | nil => decide
  | occurrence cs ih =>
    rw [escapeScript_occurrence]
    simpa [closer, List.infix_cons_iff, List.cons_prefix_cons] using ih
  | other c cs h ih =>
    -- A slash that follows stood there before.
    have hslash : ['/'] <+: escapeScript cs ↔ ['/'] <+: cs :=
      prefix_replaceAll_iff (by decide) (by decide) cs
    rw [escapeScript_cons h, List.infix_cons_iff, not_or]
    refine ⟨?_, ih⟩
    rwa [closer, List.cons_prefix_cons, hslash, ← List.cons_prefix_cons]

theorem mem_escapeScript {c : Char} {cs : List Char} (h : c ∈ escapeScript cs) :
    c ∈ cs ∨ c = '\\' := by
  induction cs using induction_on_occurrences closer_ne_nil with
  | nil => exact .inl h
  | occurrence cs ih =>
    rw [escapeScript_occurrence, List.mem_append] at h
    rcases h with h | h
    . simp only [List.mem_cons, List.not_mem_nil, or_false] at h
      rcases h with rfl | rfl | rfl <;> simp [closer]
    . exact (ih h).imp_left (List.mem_append_right _)
  | other d cs hprefix ih =>
    rw [escapeScript_cons hprefix, List.mem_cons] at h
    rcases h with rfl | h
    . simp
    . exact (ih h).imp_left (List.mem_cons_of_mem d)

theorem foldlM_closer (state : Scan × List Token) :
    ['<', '\\', '/'].foldlM Scan.step state = closer.foldlM Scan.step state := by
  obtain ⟨scan, done⟩ := state
  have hstart : ∀ done, Scan.start done '<' = none := fun _ => rfl
  cases scan with
  | between => rfl
  | word seen =>
    have hstep : Scan.step (.word seen, done) '<' = none :=
      Option.bind_eq_none_iff.2 fun token _ => hstart (token :: done)
    simp [closer, List.foldlM_cons, hstep]
  | number seen =>
    have hstep : Scan.step (.number seen, done) '<' = none :=
      Option.bind_eq_none_iff.2 fun literal _ => hstart (.number literal :: done)
    simp [closer, List.foldlM_cons, hstep]
  | str seen => rfl
  | escape seen => rfl
  | hex seen digits value => rfl

theorem foldlM_escapeScript (cs : List Char) (state : Scan × List Token) :
    (escapeScript cs).foldlM Scan.step state = cs.foldlM Scan.step state := by
  induction cs using induction_on_occurrences closer_ne_nil generalizing state with
  | nil => rfl
  | occurrence cs ih =>
    rw [escapeScript_occurrence, List.foldlM_append, List.foldlM_append, foldlM_closer]
    exact congrArg _ (funext ih)
  | other c cs h ih =>
    rw [escapeScript_cons h, List.foldlM_cons, List.foldlM_cons]
    exact congrArg _ (funext ih)

theorem ofChars?_escapeScript (cs : List Char) :
    Raw.ofChars? (escapeScript cs) = Raw.ofChars? cs := by
  simp only [Raw.ofChars?, tokens?, List.foldlM_append, foldlM_escapeScript]

end Graph
end FixtureLab

import FixtureLab.Text.Replace
import Mathlib.Data.List.Infix

/-!
This module contains how the replacement of a pattern treats the parts of a text, and how often a
pattern occurs in it.
-/

namespace FixtureLab
namespace Text

variable {p r cs : List Char} {c : Char}

theorem prefix_append_cons_iff (hc : c ∉ p) (cs rest : List Char) :
    p <+: cs ++ c :: rest ↔ p <+: cs := by
  refine ⟨fun h => ?_, fun h => h.trans (List.prefix_append _ _)⟩
  have hsplit : cs ++ c :: rest = (cs ++ [c]) ++ rest := by simp
  rw [hsplit] at h
  rcases List.prefix_or_prefix_of_prefix h (List.prefix_append _ _) with h | h
  . rcases List.prefix_concat_iff.1 h with rfl | h
    . simp at hc
    . exact h
  . exact absurd (h.subset (by simp)) hc

theorem induction_on_occurrences {motive : List Char → Prop} (hp : p ≠ []) (nil : motive [])
    (occurrence : ∀ cs, motive cs → motive (p ++ cs))
    (other : ∀ c cs, ¬p <+: c :: cs → motive cs → motive (c :: cs)) (cs : List Char) :
    motive cs := by
  induction hn : cs.length using Nat.strongRecOn generalizing cs with
  | ind n ih =>
    by_cases h : p <+: cs
    . obtain ⟨rest, rfl⟩ := h
      have hlength := List.length_pos_iff.2 hp
      have hlt : rest.length < n := by
        rw [← hn, List.length_append]
        omega
      exact occurrence rest (ih _ hlt rest rfl)
    . cases cs with
      | nil => exact nil
      | cons c cs =>
        have hlt : cs.length < n := by
          rw [← hn]
          exact Nat.lt_succ_self _
        exact other c cs h (ih _ hlt cs rfl)

@[simp]
theorem replaceAll_nil : replaceAll p r [] = [] := rfl

theorem replaceAll.go_append (skipped cs : List Char) :
    replaceAll.go p r skipped.length (skipped ++ cs) = replaceAll p r cs := by
  induction skipped with
  | nil => rfl
  | cons c skipped ih => exact ih

theorem replaceAll_occurrence (hp : p ≠ []) (cs : List Char) :
    replaceAll p r (p ++ cs) = r ++ replaceAll p r cs := by
  cases hcons : p with
  | nil => exact absurd hcons hp
  | cons c p' =>
    have hprefix : (c :: p').isPrefixOf (c :: (p' ++ cs)) := by simp
    rw [List.cons_append, replaceAll, replaceAll.go, if_pos hprefix]
    exact congrArg (r ++ ·) (replaceAll.go_append p' cs)

theorem replaceAll_self (hp : p ≠ []) : replaceAll p r p = r := by
  have h := replaceAll_occurrence (r := r) hp []
  rwa [List.append_nil, replaceAll_nil, List.append_nil] at h

theorem replaceAll_cons (h : ¬p <+: c :: cs) :
    replaceAll p r (c :: cs) = c :: replaceAll p r cs := by
  rw [replaceAll, replaceAll.go, if_neg (by simpa using h)]
  rfl

theorem replaceAll_append (h : c ∉ cs) (p r rest : List Char) :
    replaceAll (c :: p) r (cs ++ rest) = cs ++ replaceAll (c :: p) r rest := by
  induction cs with
  | nil => rfl
  | cons d cs ih =>
    rw [List.mem_cons, not_or] at h
    have hprefix : ¬c :: p <+: d :: (cs ++ rest) := fun h' => h.1 (List.cons_prefix_cons.1 h').1
    rw [List.cons_append, replaceAll_cons hprefix, ih h.2, List.cons_append]

theorem replaceAll_append_cons (hp : p ≠ []) (hc : c ∉ p) (cs rest : List Char) :
    replaceAll p r (cs ++ c :: rest) = replaceAll p r cs ++ c :: replaceAll p r rest := by
  induction cs using induction_on_occurrences hp with
  | nil =>
    apply replaceAll_cons
    exact fun h => hp (List.prefix_nil.1 ((prefix_append_cons_iff hc [] rest).1 h))
  | occurrence cs ih =>
    rw [List.append_assoc, replaceAll_occurrence hp, ih, replaceAll_occurrence hp,
      List.append_assoc]
  | other d cs h ih =>
    have h' : ¬p <+: d :: (cs ++ c :: rest) := fun h' =>
      h ((prefix_append_cons_iff hc (d :: cs) rest).1 h')
    rw [List.cons_append, replaceAll_cons h', replaceAll_cons h, ih]
    rfl

theorem replaceAll_eq_self (h : ¬p <:+: cs) : replaceAll p r cs = cs := by
  induction cs with
  | nil => rfl
  | cons c cs ih =>
    rw [replaceAll_cons fun hprefix => h hprefix.isInfix]
    exact congrArg _ (ih fun hinfix => h (List.infix_cons hinfix))

theorem prefix_cons_iff_of_not_mem (hc : c ∉ p) (cs : List Char) : p <+: c :: cs ↔ p = [] := by
  rw [← List.prefix_nil, ← prefix_append_cons_iff hc [] cs, List.nil_append]

theorem prefix_replaceAll_iff {x y : Char} {q : List Char} (hx : x ∉ q) (hy : y ∉ q)
    (cs : List Char) : q <+: replaceAll (x :: p) (y :: r) cs ↔ q <+: cs := by
  induction cs using induction_on_occurrences (List.cons_ne_nil x p) generalizing q with
  | nil => rfl
  | occurrence cs _ =>
    rw [replaceAll_occurrence (List.cons_ne_nil x p), List.cons_append, List.cons_append,
      prefix_cons_iff_of_not_mem hx, prefix_cons_iff_of_not_mem hy]
  | other c cs h ih =>
    rw [replaceAll_cons h]
    cases q with
    | nil => simp
    | cons d q =>
      rw [List.cons_prefix_cons, List.cons_prefix_cons,
        ih (fun hmem => hx (List.mem_cons_of_mem d hmem))
          (fun hmem => hy (List.mem_cons_of_mem d hmem))]

theorem replaceAll_comm {x y x' y' : Char} {p r p' r' : List Char} (hx : x ∉ x' :: p')
    (hy : y ∉ x' :: p') (hr' : x ∉ y' :: r') (hx' : x' ∉ x :: p) (hy' : y' ∉ x :: p)
    (hr : x' ∉ y :: r) (cs : List Char) :
    replaceAll (x :: p) (y :: r) (replaceAll (x' :: p') (y' :: r') cs)
      = replaceAll (x' :: p') (y' :: r') (replaceAll (x :: p) (y :: r) cs) := by
  have hp := List.cons_ne_nil x p
  have hp' := List.cons_ne_nil x' p'
  -- Where one pattern occurs the other does not begin, nor does it in what is put there.
  induction hn : cs.length using Nat.strongRecOn generalizing cs with
  | ind n ih =>
    have hrest : ∀ (c : Char) (cs rest : List Char), (c :: cs ++ rest).length = n →
        rest.length < n := by
      intro c cs rest hlength
      rw [List.length_append, List.length_cons] at hlength
      omega
    by_cases h : x :: p <+: cs
    . obtain ⟨rest, rfl⟩ := h
      rw [replaceAll_append hx', replaceAll_occurrence hp, replaceAll_occurrence hp,
        replaceAll_append hr, ih rest.length (hrest _ _ rest hn) rest rfl]
    by_cases h' : x' :: p' <+: cs
    . obtain ⟨rest, rfl⟩ := h'
      rw [replaceAll_append hx, replaceAll_occurrence hp', replaceAll_occurrence hp',
        replaceAll_append hr', ih rest.length (hrest _ _ rest hn) rest rfl]
    . cases cs with
      | nil => rfl
      | cons c cs =>
        have hkept := prefix_replaceAll_iff (p := p') (r := r') hx' hy' (c :: cs)
        have hkept' := prefix_replaceAll_iff (p := p) (r := r) hx hy (c :: cs)
        rw [replaceAll_cons h'] at hkept ⊢
        rw [replaceAll_cons h] at hkept' ⊢
        rw [replaceAll_cons fun hprefix => h (hkept.1 hprefix),
          replaceAll_cons fun hprefix => h' (hkept'.1 hprefix),
          ih cs.length (hrest c [] cs hn) cs rfl]

theorem count_replaceAll_le (hp : p ≠ []) (hr : c ∉ r) (cs : List Char) :
    (replaceAll p r cs).count c ≤ cs.count c := by
  induction cs using induction_on_occurrences hp with
  | nil => exact Nat.le_refl _
  | occurrence cs ih =>
    rw [replaceAll_occurrence hp, List.count_append, List.count_append, List.count_eq_zero.2 hr]
    omega
  | other d cs h ih =>
    rw [replaceAll_cons h, List.count_cons, List.count_cons]
    omega

theorem count_replaceAll_lt (hp : p ≠ []) (hc : c ∈ p) (hr : c ∉ r) (h : p <:+: cs) :
    (replaceAll p r cs).count c < cs.count c := by
  induction cs using induction_on_occurrences hp with
  | nil => exact absurd (List.infix_nil.1 h) hp
  | occurrence cs _ =>
    have hle := count_replaceAll_le hp hr cs
    have hpos := List.count_pos_iff.2 hc
    rw [replaceAll_occurrence hp, List.count_append, List.count_append, List.count_eq_zero.2 hr]
    omega
  | other d cs hprefix ih =>
    have hlt := ih ((List.infix_cons_iff.1 h).resolve_left hprefix)
    rw [replaceAll_cons hprefix, List.count_cons, List.count_cons]
    omega

def occurrences (p : List Char) : List Char → Nat
  | [] => 0
  | c :: cs => (if p.isPrefixOf (c :: cs) then 1 else 0) + occurrences p cs

theorem occurrences_eq_zero_iff (hp : p ≠ []) : occurrences p cs = 0 ↔ ¬p <:+: cs := by
  induction cs with
  | nil => simpa [occurrences] using hp
  | cons c cs ih =>
    simp only [occurrences, Nat.add_eq_zero_iff, ih, List.infix_cons_iff, not_or]
    simp

theorem occurrences_append_cons (hp : p ≠ []) (hc : c ∉ p) (cs rest : List Char) :
    occurrences p (cs ++ c :: rest) = occurrences p cs + occurrences p rest := by
  have hprefix : ∀ cs : List Char, p.isPrefixOf (cs ++ c :: rest) = p.isPrefixOf cs := by
    intro cs
    rw [Bool.eq_iff_iff, List.isPrefixOf_iff_prefix, List.isPrefixOf_iff_prefix,
      prefix_append_cons_iff hc]
  induction cs with
  | nil =>
    have hnil : p.isPrefixOf (c :: rest) = false := by
      rw [← List.nil_append (c :: rest), hprefix []]
      cases p with
      | nil => exact absurd rfl hp
      | cons d p => rfl
    simp [occurrences, hnil]
  | cons d cs ih =>
    have hcons := hprefix (d :: cs)
    rw [List.cons_append] at hcons ⊢
    rw [occurrences, hcons, ih, occurrences, Nat.add_assoc]

end Text
end FixtureLab

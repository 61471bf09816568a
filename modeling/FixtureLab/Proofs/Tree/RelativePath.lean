import FixtureLab.Tree.Expand
import Mathlib.Data.List.Basic
import Mathlib.Data.List.Induction

/-!
This module contains the paths that lead to the locations of a tree from its root, as texts: how
they fall into pieces and components, how they are put together, and how they are sorted.
-/

namespace FixtureLab

theorem Path.splitOn_eq (sep : Char) (cs : List Char) : Path.splitOn sep cs = cs.splitOn sep := by
  induction cs with
  | nil => rfl
  | cons c rest ih =>
    simp only [Path.splitOn, ih, List.splitOn_cons_eq_if_modifyHead, beq_iff_eq]
    split
    . rfl
    . cases hrest : rest.splitOn sep with
      | nil => exact absurd hrest (List.splitOn_ne_nil _ _)
      | cons piece pieces => rfl

namespace FileTree

structure IsPiece (piece : String) : Prop where
  ne_empty : piece ≠ ""
  no_slash : '/' ∉ piece.toList

structure IsName (name : String) : Prop extends IsPiece name where
  ne_current : name ≠ "."
  ne_parent : name ≠ ".."

theorem isName_iff {name : String} :
    IsName name ↔ name ∉ ["", ".", ".."] ∧ '/' ∉ name.toList := by
  simp only [List.mem_cons, List.not_mem_nil, or_false, not_or]
  exact ⟨fun h => ⟨⟨h.ne_empty, h.ne_current, h.ne_parent⟩, h.no_slash⟩,
    fun ⟨⟨hempty, hcurrent, hparent⟩, hslash⟩ => ⟨⟨hempty, hslash⟩, hcurrent, hparent⟩⟩

instance (name : String) : Decidable (IsName name) := decidable_of_iff _ isName_iff.symm

def relativePath (l : Location) : Path := "/".intercalate l

theorem toList_relativePath (l : Location) :
    (relativePath l).toList = ['/'].intercalate (l.map String.toList) := String.toList_intercalate

theorem relativePath_cons_cons (name next : String) (l : Location) :
    relativePath (name :: next :: l) = name ++ "/" ++ relativePath (next :: l) :=
  String.intercalate_cons_cons

theorem relativePath_append {l m : Location} (hl : l ≠ []) (hm : m ≠ []) :
    relativePath (l ++ m) = relativePath l ++ "/" ++ relativePath m := by
  induction l with
  | nil => exact absurd rfl hl
  | cons name l ih =>
    cases l with
    | nil =>
      obtain ⟨next, m, rfl⟩ := List.exists_cons_of_ne_nil hm
      exact relativePath_cons_cons name next m
    | cons next l =>
      rw [List.cons_append, List.cons_append, relativePath_cons_cons, relativePath_cons_cons,
        ← List.cons_append, ih (List.cons_ne_nil _ _)]
      simp only [String.append_assoc]

theorem mem_relativePath {l : Location} {c : Char} (h : c ∈ (relativePath l).toList) :
    c = '/' ∨ ∃ name ∈ l, c ∈ name.toList := by
  induction l with
  | nil => cases h
  | cons name l ih =>
    cases l with
    | nil => exact .inr ⟨name, List.mem_singleton_self name, by simpa [relativePath] using h⟩
    | cons next l =>
      rw [relativePath_cons_cons, String.toList_append, String.toList_append, List.mem_append,
        List.mem_append] at h
      rcases h with (hname | hslash) | hrest
      . exact .inr ⟨name, List.mem_cons_self, hname⟩
      . exact .inl (List.mem_singleton.1 hslash)
      . exact (ih hrest).imp_right fun ⟨other, hother, hc⟩ =>
          ⟨other, List.mem_cons_of_mem name hother, hc⟩

section Pieces

theorem pieces_relativePath {l : Location} (hl : l ≠ []) (h : ∀ name ∈ l, '/' ∉ name.toList) :
    pieces (relativePath l) = l := by
  rw [pieces, Path.splitOn_eq, toList_relativePath, List.splitOn_intercalate]
  . simp [List.map_map]
  . simpa using h
  . simpa using hl

theorem relativePath_pieces (p : Path) : relativePath (pieces p) = p := by
  rw [← String.toList_inj, toList_relativePath, pieces, Path.splitOn_eq, List.map_map]
  simp [List.intercalate_splitOn]

theorem slash_notMem_splitOn {cs piece : List Char} (h : piece ∈ Path.splitOn '/' cs) :
    '/' ∉ piece := by
  fun_induction Path.splitOn '/' cs generalizing piece with
  | case1 =>
    rw [List.mem_singleton.1 h]
    exact List.not_mem_nil
  | case2 rest ih =>
    rcases List.mem_cons.1 h with rfl | h
    . exact List.not_mem_nil
    . exact ih h
  | case3 c rest hc first others hrest ih =>
    rcases List.mem_cons.1 h with rfl | h
    . rw [List.mem_cons, not_or]
      exact ⟨Ne.symm hc, ih (hrest ▸ List.mem_cons_self)⟩
    . exact ih (hrest ▸ List.mem_cons_of_mem _ h)
  | case4 c rest hc hrest =>
    rw [List.mem_singleton.1 h, List.mem_singleton]
    exact Ne.symm hc

theorem slash_notMem_of_mem_pieces {p : Path} {piece : String} (h : piece ∈ pieces p) :
    '/' ∉ piece.toList := by
  obtain ⟨cs, hcs, rfl⟩ := List.mem_map.1 h
  rw [String.toList_ofList]
  exact slash_notMem_splitOn hcs

theorem pieces_ne_nil (p : Path) : pieces p ≠ [] := by
  rw [pieces, Path.splitOn_eq, Ne, List.map_eq_nil_iff]
  exact List.splitOn_ne_nil _ _

theorem pieces_of_toList_eq {p q : Path} {text : List Char}
    (h : p.toList = q.toList ++ '/' :: text) :
    pieces p = pieces q ++ pieces (String.ofList text) := by
  rw [pieces, pieces, pieces, h, String.toList_ofList, Path.splitOn_eq, Path.splitOn_eq,
    Path.splitOn_eq, List.splitOn_append_cons_self, List.map_append]

theorem exists_below_of_toList_eq {l above : Location} {text : List Char} (hl : l ≠ [])
    (hslash : ∀ name ∈ l, '/' ∉ name.toList) (habove : above ≠ [])
    (hslash' : ∀ name ∈ above, '/' ∉ name.toList)
    (h : (relativePath l).toList = (relativePath above).toList ++ '/' :: text) :
    ∃ below ≠ [], l = above ++ below := by
  have hpieces := pieces_of_toList_eq h
  rw [pieces_relativePath hl hslash, pieces_relativePath habove hslash'] at hpieces
  exact ⟨_, pieces_ne_nil _, hpieces⟩

theorem count_slash_relativePath {l : Location} (hl : l ≠ [])
    (h : ∀ name ∈ l, '/' ∉ name.toList) : (relativePath l).toList.count '/' + 1 = l.length := by
  induction l with
  | nil => exact absurd rfl hl
  | cons name l ih =>
    obtain ⟨hname, hrest⟩ := List.forall_mem_cons.1 h
    cases l with
    | nil =>
      have hzero : name.toList.count '/' = 0 := List.count_eq_zero.2 hname
      simp [relativePath, hzero]
    | cons next l =>
      have ih := ih (List.cons_ne_nil _ _) hrest
      rw [relativePath_cons_cons, String.toList_append, String.toList_append, List.count_append,
        List.count_append, List.count_eq_zero.2 hname, List.length_cons, ← ih]
      simp +arith

theorem components_eq_of_isName {p : Path} (h : ∀ piece ∈ pieces p, IsName piece) :
    p.components = (pieces p).map fun piece => .normal piece.toList := by
  have hnormal : ∀ cs ∈ Path.splitOn '/' p.toList, Path.component? cs = some (.normal cs) := by
    intro cs hcs
    have hname := h _ (List.mem_map_of_mem hcs)
    have hempty : cs ≠ [] := fun heq => hname.ne_empty (by simp [heq])
    have hcurrent : cs ≠ ['.'] := fun heq => hname.ne_current (by rw [heq])
    have hparent : cs ≠ ['.', '.'] := fun heq => hname.ne_parent (by rw [heq])
    simp [Path.component?, hempty, hcurrent, hparent]
  have hstart : (Path.splitOn '/' p.toList).head? ≠ some ['.'] := fun heq => by
    have hcurrent := hnormal _ (List.mem_of_head? heq)
    simp [Path.component?] at hcurrent
  rw [Path.components, Path.componentsOf.eq_def]
  split
  . next rest hroot =>
    have hempty := hnormal [] (by simp [hroot, Path.splitOn])
    simp [Path.component?] at hempty
  . dsimp only
    rw [if_neg hstart, List.nil_append, pieces, List.map_map]
    rw [List.filterMap_eq_map_iff_forall_eq_some.2 hnormal]
    simp [Function.comp_def]

theorem components_relativePath {l : Location} (h : ∀ name ∈ l, IsName name) :
    (relativePath l).components = l.map fun name => .normal name.toList := by
  by_cases hl : l = []
  . subst hl
    rfl
  . have hpieces := pieces_relativePath hl fun name hname => (h name hname).no_slash
    rw [components_eq_of_isName (hpieces.symm ▸ h), hpieces]

end Pieces

section Join

theorem join_relativePath {l : Location} (hl : ∀ piece ∈ l, IsPiece piece) {name : String}
    (hname : IsPiece name) : Path.join (relativePath l) name = relativePath (l ++ [name]) := by
  have hrelative : name.toList.head? ≠ some '/' := fun h => hname.no_slash (List.mem_of_head? h)
  rw [Path.join, if_neg hrelative]
  rcases List.eq_nil_or_concat l with rfl | ⟨above, last, rfl⟩
  . simp [relativePath]
  . have hlast := hl last (by simp)
    have hbelow : relativePath (above.concat last)
        = (if above = [] then "" else relativePath above ++ "/") ++ last := by
      rw [List.concat_eq_append]
      split
      . next habove => simp [habove, relativePath]
      . next habove => exact relativePath_append habove (List.cons_ne_nil _ _)
    have hne : last.toList ≠ [] := fun h => hlast.ne_empty (String.toList_eq_nil_iff.1 h)
    have hend : (relativePath (above.concat last)).toList.getLast? ≠ some '/' := by
      rw [hbelow, String.toList_append, List.getLast?_append, List.getLast?_eq_some_getLast hne,
        Option.some_or]
      exact fun h => hlast.no_slash (Option.some.inj h ▸ List.getLast_mem hne)
    have hfull : relativePath (above.concat last) ≠ "" := by
      rw [hbelow]
      simp [hlast.ne_empty]
    rw [if_neg (by simpa only [Bool.or_eq_true, String.isEmpty_iff, decide_eq_true_eq, not_or]
        using ⟨hfull, hend⟩), relativePath_append (by simp) (List.cons_ne_nil _ _)]
    simp [relativePath]

theorem pathOf_names {l : Location} (h : ∀ name ∈ l, IsName name) :
    pathOf (l.map fun name => .normal name.toList) = relativePath l := by
  induction l using List.reverseRecOn with
  | nil => rfl
  | append_singleton l name ih =>
    rw [List.forall_mem_append, List.forall_mem_singleton] at h
    have hjoin := join_relativePath (fun piece hpiece => (h.1 piece hpiece).toIsPiece) h.2.toIsPiece
    rw [← hjoin, ← ih h.1]
    simp [pathOf, Path.Component.text]

theorem dropDot_relativePath {l : Location} (hl : l ≠ []) :
    dropDot (relativePath ("." :: l)) = relativePath l := by
  have htext : (relativePath ("." :: l)).toList = '.' :: '/' :: (relativePath l).toList := by
    rw [← List.singleton_append, relativePath_append (List.cons_ne_nil _ _) hl]
    simp [relativePath]
  rw [dropDot, htext]
  simp

end Join

section Order

theorem componentsLe_names (l m : Location) :
    componentsLe (l.map fun name => .normal name.toList) (m.map fun name => .normal name.toList)
      = decide (¬m < l) := by
  induction l generalizing m with
  | nil => simp [componentsLe]
  | cons a l ih =>
    cases m with
    | nil => simp [componentsLe]
    | cons b m =>
      rw [List.map_cons, List.map_cons, componentsLe, ih, Bool.eq_iff_iff]
      simp only [componentLt, String.ofList_toList, Bool.or_eq_true, Bool.and_eq_true,
        Bool.not_eq_true', decide_eq_true_eq, decide_eq_false_iff_not, List.cons_lt_cons_iff]
      by_cases hab : a < b
      . have hba : ¬b < a := fun hba => String.lt_irrefl a (String.lt_trans hab hba)
        have hne : b ≠ a := fun heq => String.lt_irrefl a (heq ▸ hab)
        simp [hab, hba, hne]
      . have heq : ¬b < a → b = a := fun hba =>
          String.le_antisymm (String.not_lt.1 hab) (String.not_lt.1 hba)
        by_cases hba : b < a
        . simp [hab, hba]
        . simp [heq hba]

theorem pathLe_relativePath {l m : Location} (hl : ∀ name ∈ l, IsName name)
    (hm : ∀ name ∈ m, IsName name) :
    pathLe (relativePath l) (relativePath m) = decide (¬m < l) := by
  rw [pathLe, components_relativePath hl, components_relativePath hm, componentsLe_names]

theorem mergeSort_relativePath {ls : List Location} (h : ∀ l ∈ ls, ∀ name ∈ l, IsName name) :
    (ls.map relativePath).mergeSort pathLe
      = (ls.mergeSort fun l m => ¬m < l).map relativePath :=
  (List.map_mergeSort fun l hl m hm => (pathLe_relativePath (h l hl) (h m hm)).symm).symm

theorem pairwise_lt_mergeSort {ls : List Location} (h : ls.Nodup) :
    (ls.mergeSort fun l m => ¬m < l).Pairwise (· < ·) := by
  have htrans : ∀ a b c : Location, ¬b < a → ¬c < b → ¬c < a := fun a b c hab hbc =>
    List.not_lt.2 (List.le_trans (List.not_lt.1 hab) (List.not_lt.1 hbc))
  have htotal : ∀ a b : Location, ¬b < a ∨ ¬a < b := fun a b =>
    (List.le_total a b).imp List.not_lt.2 List.not_lt.2
  have hle : (ls.mergeSort fun l m => ¬m < l).Pairwise fun l m => ¬m < l := by
    simpa using @List.pairwise_mergeSort Location (fun l m => ¬m < l)
      (by simpa using htrans) (by simpa using htotal) ls
  have hne : (ls.mergeSort fun l m => ¬m < l).Nodup := (List.mergeSort_perm ls _).nodup_iff.2 h
  refine hle.imp₂ (fun l m hlm hne => ?_) hne
  exact (List.le_iff_lt_or_eq.1 (List.not_lt.1 hlm)).resolve_right hne

end Order

end FileTree
end FixtureLab

import FixtureLab.Proofs.Table
import FixtureLab.Proofs.Tree.RelativePath
import FixtureLab.Proofs.Tree.Writing

/-!
This module contains walks through trees without links: paths lead where their pieces say, and a
walk lists every file below its directory once, down to the depth it is limited to.
-/

namespace FixtureLab
namespace FileTree

inductive Plain : FileTree → Prop where
  | file {content : ByteArray} : Plain (.file content)
  | dir {es : List (String × FileTree)} (names : ∀ e ∈ es, IsName e.1)
    (distinct : (es.map (·.1)).Nodup) (nodes : ∀ e ∈ es, Plain e.2) : Plain (.dir es)

def HasFile (t : FileTree) (l : Location) : Prop := ∃ content, t.find? l = some (.file content)

theorem mem_entries_of_find? {t : FileTree} {name : String} {rest : Location} {node : FileTree}
    (h : t.find? (name :: rest) = some node) :
    ∃ child, (name, child) ∈ t.entries ∧ child.find? rest = some node := by
  obtain ⟨child, hchild, hnode⟩ := Option.bind_eq_some_iff.1 h
  exact ⟨child, Table.mem_of_find?_eq_some hchild, hnode⟩

theorem find?_eq_some_of_nodup {es : List (String × FileTree)} (h : (es.map (·.1)).Nodup)
    {e : String × FileTree} (he : e ∈ es) : Table.find? e.1 es = some e.2 := by
  induction es with
  | nil => cases he
  | cons first es ih =>
    obtain ⟨hfirst, hrest⟩ := List.nodup_cons.1 h
    rw [Table.find?]
    rcases List.mem_cons.1 he with rfl | he
    . exact if_pos rfl
    . have hne : first.1 ≠ e.1 := fun heq => hfirst (List.mem_map.2 ⟨e, he, heq.symm⟩)
      exact (if_neg hne).trans (ih hrest he)

theorem hasFile_append {t node : FileTree} {l : Location} (h : t.find? l = some node)
    (m : Location) : t.HasFile (l ++ m) ↔ node.HasFile m := by
  rw [HasFile, HasFile, find?_append, h, Option.bind_some]

theorem HasFile.ne_nil {es : List (String × FileTree)} {l : Location}
    (h : (FileTree.dir es).HasFile l) : l ≠ [] := by
  rintro rfl
  obtain ⟨content, hfile⟩ := h
  cases hfile

theorem HasFile.exists_dir {t : FileTree} {l below : Location} (h : t.HasFile (l ++ below))
    (hbelow : below ≠ []) : ∃ es, t.find? l = some (.dir es) := by
  obtain ⟨content, hfile⟩ := h
  obtain ⟨name, rest, rfl⟩ := List.exists_cons_of_ne_nil hbelow
  obtain ⟨node, hnode, hrest⟩ := Option.bind_eq_some_iff.1 (find?_append t l _ ▸ hfile)
  obtain ⟨child, hchild, -⟩ := mem_entries_of_find? hrest
  cases node with
  | dir es => exact ⟨es, hnode⟩
  | file content | link target => cases hchild

theorem hasFile_file_iff {content : ByteArray} {l : Location} :
    (FileTree.file content).HasFile l ↔ l = [] := by
  cases l with
  | nil => exact ⟨fun _ => rfl, fun _ => ⟨content, rfl⟩⟩
  | cons name rest => exact ⟨fun ⟨_, h⟩ => (by cases h), fun h => (by cases h)⟩

namespace Plain

variable {t : FileTree}

theorem of_find? (h : t.Plain) {l : Location} {node : FileTree} (hnode : t.find? l = some node) :
    node.Plain ∧ ∀ name ∈ l, IsName name := by
  induction l generalizing t with
  | nil =>
    cases hnode
    exact ⟨h, by simp⟩
  | cons name rest ih =>
    obtain ⟨child, hchild, hbelow⟩ := mem_entries_of_find? hnode
    cases h with
    | file => cases hchild
    | dir names distinct nodes =>
      obtain ⟨hplain, hrest⟩ := ih (nodes _ hchild) hbelow
      exact ⟨hplain, List.forall_mem_cons.2 ⟨names _ hchild, hrest⟩⟩

theorem isName_of_hasFile (h : t.Plain) {l : Location} (hl : t.HasFile l) :
    ∀ name ∈ l, IsName name := by
  obtain ⟨content, hfile⟩ := hl
  exact (h.of_find? hfile).2

theorem hasFile_dir_iff {es : List (String × FileTree)} (h : Plain (.dir es)) {l : Location} :
    (FileTree.dir es).HasFile l ↔ ∃ e ∈ es, ∃ rest, l = e.1 :: rest ∧ e.2.HasFile rest := by
  cases h with
  | dir names distinct nodes =>
    constructor
    . rintro ⟨content, hfile⟩
      cases l with
      | nil => cases hfile
      | cons name rest =>
        obtain ⟨child, hchild, hfile⟩ := mem_entries_of_find? hfile
        exact ⟨_, hchild, rest, rfl, content, hfile⟩
    . rintro ⟨e, he, rest, rfl, hfile⟩
      have hentry : (FileTree.dir es).find? [e.1] = some e.2 := by
        simp [find?, entries, find?_eq_some_of_nodup distinct he]
      exact (hasFile_append hentry rest).2 hfile

section Paths

variable {node : FileTree} {base : Location}

theorem next (h : node.Plain) (hbase : t.find? base = some node) (name : String) :
    t.shapeAt (base ++ [name]) = none
      ∨ ∃ child, child.Plain ∧ t.find? (base ++ [name]) = some child := by
  rw [shapeAt, find?_append, hbase, Option.bind_some]
  cases hchild : node.find? [name] with
  | none => exact .inl rfl
  | some child => exact .inr ⟨child, (h.of_find? hchild).1, rfl⟩

theorem shape_ne_link (h : t.Plain) (target : Path) : t.shape ≠ .link target := by
  cases h <;> exact Shape.noConfusion

theorem lead_ne_link (h : node.Plain) (hbase : t.find? base = some node) {rest : List String}
    (hnames : ∀ name ∈ rest, IsName name) :
    ∀ directory target rest', t.lead base rest ≠ .link directory target rest' := by
  intro directory target rest' hlead
  induction rest generalizing base node with
  | nil => cases hlead
  | cons name rest ih =>
    obtain ⟨hname, hrest⟩ := List.forall_mem_cons.1 hnames
    rw [lead_cons_of_proper hname.ne_empty hname.ne_current hname.ne_parent] at hlead
    split at hlead
    . rcases h.next hbase name with hnone | ⟨child, hplain, hchild⟩
      . rw [hnone] at hlead
        dsimp only at hlead
        split at hlead <;> cases hlead
      . rw [shapeAt, hchild, Option.map_some] at hlead
        cases hshape : child.shape with
        | link target => exact hplain.shape_ne_link target hshape
        | file | dir =>
          rw [hshape] at hlead
          exact ih hplain hchild hrest hlead
    . cases hlead

theorem lead_eq_found_iff (h : node.Plain) (hbase : t.find? base = some node) {loc : Location}
    {rest : List String} (hnames : ∀ name ∈ rest, IsName name) :
    t.lead base rest = .found loc ↔ loc = base ++ rest ∧ (t.find? loc).isSome := by
  induction rest generalizing base node with
  | nil =>
    rw [lead, List.append_nil, Lead.found.injEq]
    exact ⟨fun heq => ⟨heq.symm, heq ▸ hbase ▸ rfl⟩, fun heq => heq.1.symm⟩
  | cons name rest ih =>
    obtain ⟨hname, hrest⟩ := List.forall_mem_cons.1 hnames
    have hnext : t.find? (base ++ name :: rest)
        = (t.find? (base ++ [name])).bind (find? · rest) := by
      rw [List.append_cons, find?_append]
    rw [lead_cons_of_proper hname.ne_empty hname.ne_current hname.ne_parent]
    rcases h.next hbase name with hnone | ⟨child, hplain, hchild⟩
    . have hmissing : ¬(loc = base ++ name :: rest ∧ (t.find? loc).isSome) := by
        rintro ⟨rfl, hsome⟩
        rw [hnext, Option.map_eq_none_iff.1 hnone] at hsome
        cases hsome
      rw [iff_false_right hmissing, hnone]
      split
      . dsimp only
        split <;> exact Lead.noConfusion
      . exact Lead.noConfusion
    . have hdir : t.shapeAt base = some .dir := by
        rw [find?_append, hbase, Option.bind_some] at hchild
        obtain ⟨child', hchild', -⟩ := Option.bind_eq_some_iff.1 hchild
        rw [shapeAt, hbase, Option.map_some, shape_of_entries hchild']
      have ih := ih hplain hchild hrest
      rw [List.append_assoc, List.singleton_append] at ih
      rw [if_pos hdir, shapeAt, hchild, Option.map_some]
      cases hshape : child.shape with
      | link target => exact absurd hshape (hplain.shape_ne_link target)
      | file | dir => exact ih

end Paths

end Plain

end FileTree

namespace FileSystem

open FileTree

variable {fs : FileSystem} {node : FileTree}

theorem follow_relativePath (h : node.Plain) (hroot : fs.tree.find? fs.workDir = some node)
    {l : Location} (hl : l ≠ []) (hnames : ∀ name ∈ l, IsName name) :
    fs.follow (relativePath l) = fs.tree.lead fs.workDir l := by
  have hpieces : pieces (relativePath l) = l :=
    pieces_relativePath hl fun name hname => (hnames name hname).no_slash
  obtain ⟨name, rest, rfl⟩ := List.exists_cons_of_ne_nil hl
  have hne := (List.forall_mem_cons.1 hnames).1.ne_empty
  have hnonempty : relativePath (name :: rest) ≠ "" := by
    intro heq
    rw [heq] at hpieces
    exact hne (List.cons.inj hpieces).1.symm
  have hrelative : (relativePath (name :: rest)).toList.head? ≠ some '/' := by
    intro hslash
    obtain ⟨cs, hcs⟩ := List.head?_eq_some_iff.1 hslash
    rw [pieces, hcs] at hpieces
    exact hne (List.cons.inj hpieces).1.symm
  rw [follow, if_neg (by simpa using hnonempty), origin, if_neg hrelative, hpieces,
    leadThrough_of_ne_link (h.lead_ne_link hroot hnames)]

theorem locate?_relativePath (h : node.Plain) (hroot : fs.tree.find? fs.workDir = some node)
    {l : Location} (hl : l ≠ []) (hnames : ∀ name ∈ l, IsName name) :
    fs.locate? (relativePath l)
      = if (node.find? l).isSome then some (fs.workDir ++ l) else none := by
  have hlead : ∀ loc, fs.tree.lead fs.workDir l = .found loc
      ↔ loc = fs.workDir ++ l ∧ (fs.tree.find? loc).isSome :=
    fun loc => h.lead_eq_found_iff hroot hnames
  have hnode : fs.tree.find? (fs.workDir ++ l) = node.find? l := by
    rw [find?_append, hroot, Option.bind_some]
  rw [locate?, follow_relativePath h hroot hl hnames, ← hnode]
  split
  . next loc hfound =>
    obtain ⟨rfl, hsome⟩ := (hlead loc).1 hfound
    exact (if_pos hsome).symm
  . next hnone =>
    exact (if_neg fun hsome => hnone _ ((hlead _).2 ⟨rfl, hsome⟩)).symm

theorem locate?_current {es : List (String × FileTree)}
    (hroot : fs.tree.find? fs.workDir = some (.dir es)) : fs.locate? "." = some fs.workDir := by
  have hpieces : pieces "." = ["."] := rfl
  have horigin : origin fs.workDir "." = fs.workDir := rfl
  have hlead : fs.tree.lead fs.workDir ["."] = .found fs.workDir := by
    simp [lead, hroot]
  rw [locate?, follow, hpieces, horigin, leadThrough_of_ne_link (by simp [hlead]), hlead]
  rfl

end FileSystem

namespace FileTree

section Walk

def Lists (base : Location) (wanted : Location → Prop) (found : Option (List Path)) : Prop :=
  ∃ ls : List Location, found = some (ls.map fun l => relativePath (base ++ l)) ∧ ls.Nodup
    ∧ ∀ l, l ∈ ls ↔ wanted l

theorem Lists.congr {base : Location} {wanted wanted' : Location → Prop}
    {found : Option (List Path)} (h : Lists base wanted found) (hiff : ∀ l, wanted l ↔ wanted' l) :
    Lists base wanted' found := by
  obtain ⟨ls, hfound, hnodup, hmem⟩ := h
  exact ⟨ls, hfound, hnodup, fun l => (hmem l).trans (hiff l)⟩

theorem Lists.collect {base : Location} {descend : String × FileTree → Option (List Path)}
    {wanted : String × FileTree → Location → Prop} {es : List (String × FileTree)}
    (hdistinct : (es.map (·.1)).Nodup)
    (h : ∀ e ∈ es, Lists (base ++ [e.1]) (wanted e) (descend e)) :
    Lists base (fun l => ∃ e ∈ es, ∃ rest, l = e.1 :: rest ∧ wanted e rest)
      (collect descend es) := by
  induction es with
  | nil => exact ⟨[], rfl, .nil, by simp⟩
  | cons e es ih =>
    obtain ⟨hfirst, hrest⟩ := List.nodup_cons.1 hdistinct
    obtain ⟨he, hes⟩ := List.forall_mem_cons.1 h
    obtain ⟨ls, hfound, hnodup, hmem⟩ := he
    obtain ⟨others, hothers, hnodup', hmem'⟩ := ih hrest hes
    refine ⟨ls.map (e.1 :: ·) ++ others, ?_, ?_, fun l => ?_⟩
    . rw [FileTree.collect, hfound, hothers]
      simp [Function.comp_def]
    . have hdisjoint : (ls.map (e.1 :: ·)).Disjoint others := by
        intro l hl hl'
        obtain ⟨rest, -, rfl⟩ := List.mem_map.1 hl
        obtain ⟨e', he', _, heq, -⟩ := (hmem' _).1 hl'
        exact hfirst (List.mem_map.2 ⟨e', he', (List.cons.inj heq).1.symm⟩)
      exact (hnodup.map List.cons_injective).append hnodup' hdisjoint
    . dsimp only
      rw [List.mem_append, hmem', List.exists_mem_cons_iff]
      refine or_congr_left ?_
      simp only [List.mem_map, hmem, @eq_comm _ l, and_comm]

def Within (levels : Option Nat) (l : Location) : Prop := ∀ n ∈ levels, l.length ≤ n

theorem within_cons_iff {levels : Option Nat} (h : levels ≠ some 0) (name : String)
    (rest : Location) : Within levels (name :: rest) ↔ Within (levels.map (· - 1)) rest := by
  cases levels with
  | none => simp [Within]
  | some n =>
    have hn : n ≠ 0 := fun heq => h (heq ▸ rfl)
    simp only [Within, Option.mem_def, Option.some.injEq, forall_eq', Option.map_some,
      List.length_cons]
    omega

theorem size_le_of_mem {es : List (String × FileTree)} {e : String × FileTree} (h : e ∈ es) :
    e.2.size ≤ sizeEntries es := by
  induction es with
  | nil => cases h
  | cons first es ih =>
    rw [sizeEntries]
    rcases List.mem_cons.1 h with rfl | h
    . omega
    . have hle := ih h
      omega

theorem size_le_of_find? {t node : FileTree} {l : Location} (h : t.find? l = some node) :
    node.size ≤ t.size := by
  induction l generalizing t with
  | nil =>
    cases h
    exact Nat.le_refl _
  | cons name rest ih =>
    obtain ⟨child, hchild, hnode⟩ := mem_entries_of_find? h
    cases t with
    | dir es =>
      have hsize := size_le_of_mem hchild
      have hle := ih hnode
      rw [size]
      dsimp only [entries] at hsize
      omega
    | file content | link target => cases hchild

theorem size_lt_depthBound (t : FileTree) : t.size < t.depthBound := by
  rw [depthBound]
  exact Nat.lt_of_lt_of_le (Nat.lt_succ_self t.size) (Nat.le_mul_self _)

theorem Plain.lists_walkFrom {t : FileTree} {fuel : Nat} {above : List Location}
    {here base : Location} {es : List (String × FileTree)} {levels : Option Nat}
    (hplain : Plain (.dir es)) (hhere : t.find? here = some (.dir es))
    (hbase : ∀ piece ∈ base, IsPiece piece) (hfuel : (FileTree.dir es).size ≤ fuel) :
    Lists base (fun l => (FileTree.dir es).HasFile l ∧ Within levels l)
      (t.walkFrom fuel above here (relativePath base) levels) := by
  induction fuel generalizing above here base es levels with
  | zero => simp [size] at hfuel
  | succ fuel ih =>
    rw [walkFrom]
    split
    . next hlevels =>
      -- With no levels left only the directory itself is near enough, and that is no file.
      refine ⟨[], rfl, .nil, fun l => ⟨by simp, fun ⟨hfile, hwithin⟩ => ?_⟩⟩
      have hlength := hwithin 0 hlevels
      exact absurd (List.length_eq_zero_iff.1 (Nat.le_zero.1 hlength)) hfile.ne_nil
    . next hlevels =>
      have hentries : ((t.find? here).map entries).getD [] = es := by rw [hhere]; rfl
      have hcases := hplain
      cases hcases with
      | dir names distinct nodes =>
        dsimp only
        rw [hentries]
        refine Lists.congr (@Lists.collect base _ (fun e rest =>
          e.2.HasFile rest ∧ Within (levels.map (· - 1)) rest) es distinct ?_) fun l => ?_
        . rintro ⟨name, child⟩ he
          have hpiece : IsPiece name := (names _ he).toIsPiece
          have hjoin := join_relativePath hbase hpiece
          have hchild := nodes _ he
          have hsize : child.size ≤ sizeEntries es := size_le_of_mem he
          rw [size] at hfuel
          -- An entry is a file, found by itself, or a directory for which less fuel is enough.
          cases hchild with
          | file =>
            refine ⟨[[]], by simp [meet, hjoin], by simp, fun l => ?_⟩
            dsimp only
            rw [List.mem_singleton, hasFile_file_iff, iff_self_and]
            rintro rfl n -
            exact Nat.zero_le n
          | dir =>
            dsimp only [meet]
            rw [hjoin, Bool.false_and, if_neg Bool.false_ne_true]
            refine ih (nodes _ he) ?_ ?_ (by omega)
            . rw [find?_append, hhere]
              simp [find?, entries, find?_eq_some_of_nodup distinct he]
            . exact List.forall_mem_append.2 ⟨hbase, List.forall_mem_singleton.2 hpiece⟩
        . rw [hplain.hasFile_dir_iff]
          constructor
          . rintro ⟨e, he, rest, rfl, hfile, hwithin⟩
            exact ⟨⟨e, he, rest, rfl, hfile⟩, (within_cons_iff hlevels _ _).2 hwithin⟩
          . rintro ⟨⟨e, he, rest, rfl, hfile⟩, hwithin⟩
            exact ⟨e, he, rest, rfl, hfile, (within_cons_iff hlevels _ _).1 hwithin⟩

end Walk

end FileTree

open FileTree in
theorem FileSystem.lists_walk {fs : FileSystem} {base here : Location}
    {es : List (String × FileTree)} {levels : Option Nat} (hplain : Plain (.dir es))
    (hlocate : fs.locate? (relativePath base) = some here)
    (hhere : fs.tree.find? here = some (.dir es)) (hbase : ∀ piece ∈ base, IsPiece piece) :
    Lists base (fun l => (FileTree.dir es).HasFile l ∧ Within levels l)
      (fs.walk (relativePath base) levels) := by
  have hsize := size_le_of_find? hhere
  have hbound := fs.tree.size_lt_depthBound
  rw [walk, hlocate]
  exact hplain.lists_walkFrom hhere hbase (by omega)

end FixtureLab

import FixtureLab.Tree.FileSystem

/-!
This module contains that a file which was written is found under the same path again, with the text
that was written, and that all other nodes are as they were. Where a path leads depends only on the
shapes of the nodes on its way.
-/

namespace FixtureLab
namespace FileTree

inductive Shape where
  | file
  | dir
  | link (target : Path)
deriving DecidableEq

def shape : FileTree → Shape
  | .file _ => .file
  | .dir _ => .dir
  | .link target => .link target

def shapeAt (t : FileTree) (l : Location) : Option Shape := (t.find? l).map shape

inductive Node where
  | file (content : ByteArray)
  | dir
  | link (target : Path)

def node : FileTree → Node
  | .file content => .file content
  | .dir _ => .dir
  | .link target => .link target

def nodeAt (t : FileTree) (l : Location) : Option Node := (t.find? l).map node

def Node.shape : Node → Shape
  | .file _ => .file
  | .dir => .dir
  | .link target => .link target

theorem shape_node (t : FileTree) : t.node.shape = t.shape := by cases t <;> rfl

theorem shapeAt_eq_map_nodeAt (t : FileTree) (l : Location) :
    t.shapeAt l = (t.nodeAt l).map Node.shape := by
  rw [shapeAt, nodeAt, Option.map_map]
  congr 1
  funext t'
  exact t'.shape_node.symm

theorem find?_append (t : FileTree) (l l' : Location) :
    t.find? (l ++ l') = (t.find? l).bind (find? · l') := by
  induction l generalizing t with
  | nil => rfl
  | cons name rest ih =>
    rw [List.cons_append, find?, find?, Option.bind_assoc]
    congr 1
    funext t'
    exact ih t'

theorem find?_set_self (t : FileTree) (l : Location) (node : FileTree) :
    (t.set l node).find? l = some node := by
  induction l generalizing t with
  | nil => rfl
  | cons name rest ih =>
    rw [set, find?, entries, Table.find?_insert_self, Option.bind_some]
    exact ih _

theorem lead_cons (t : FileTree) (here : Location) (piece : String) (rest : List String) :
    t.lead here (piece :: rest)
      = if t.shapeAt here = some .dir then
          if piece = "" || piece = "." then t.lead here rest
          else if piece = ".." then t.lead here.dropLast rest
          else
            match t.shapeAt (here ++ [piece]) with
            | none => if rest = [] then .vacant here piece else .missing
            | some (.link target) => .link here target rest
            | some _ => t.lead (here ++ [piece]) rest
        else .missing := by
  rw [lead]
  cases hhere : t.find? here with
  | none => simp [shapeAt, hhere]
  | some node =>
    cases node with
    | file content => simp [shapeAt, hhere, shape]
    | link target => simp [shapeAt, hhere, shape]
    | dir es =>
      have hnext : t.shapeAt (here ++ [piece]) = (Table.find? piece es).map shape := by
        simp [shapeAt, find?_append, hhere, find?, entries]
      have hdir : t.shapeAt here = some .dir := by simp [shapeAt, hhere, shape]
      rw [if_pos hdir, hnext]
      dsimp only
      cases Table.find? piece es with
      | none => rfl
      | some node => cases node <;> rfl

theorem lead_cons_of_proper {piece : String} (hempty : piece ≠ "") (hcurrent : piece ≠ ".")
    (hparent : piece ≠ "..") (t : FileTree) (here : Location) (rest : List String) :
    t.lead here (piece :: rest)
      = if t.shapeAt here = some .dir then
          match t.shapeAt (here ++ [piece]) with
          | none => if rest = [] then .vacant here piece else .missing
          | some (.link target) => .link here target rest
          | some _ => t.lead (here ++ [piece]) rest
        else .missing := by
  have hproper : (piece = "" || piece = ".") = false := by simp [hempty, hcurrent]
  simp only [lead_cons, hproper, Bool.false_eq_true, if_false, if_neg hparent]

structure Written (t t' : FileTree) (loc : Location) : Prop where
  old : t.shapeAt loc = none ∨ t.shapeAt loc = some .file
  new : t'.shapeAt loc = some .file
  other : ∀ l, l ≠ loc → t'.shapeAt l = t.shapeAt l

theorem shapeAt_cons (t : FileTree) (name : String) (rest : Location) :
    t.shapeAt (name :: rest) = (Table.find? name t.entries).bind (shapeAt · rest) := by
  rw [shapeAt, find?, Option.map_bind]
  rfl

def Writable (t : FileTree) (loc : Location) : Prop :=
  t.shapeAt loc = some .file
    ∨ ∃ directory name, loc = directory ++ [name] ∧ t.shapeAt directory = some .dir
      ∧ t.shapeAt loc = none

theorem shape_of_entries {t child : FileTree} {name : String}
    (h : Table.find? name t.entries = some child) : t.shape = .dir := by
  cases t with
  | dir es => rfl
  | file content => cases h
  | link target => cases h

theorem Writable.cases_cons {t : FileTree} {name : String} {rest : Location}
    (h : t.Writable (name :: rest)) :
    t.shape = .dir
      ∧ ((∃ child, Table.find? name t.entries = some child ∧ child.Writable rest)
        ∨ Table.find? name t.entries = none ∧ rest = []) := by
  rcases h with hfile | ⟨directory, last, heq, hdir, hnone⟩
  . rw [shapeAt_cons] at hfile
    obtain ⟨child, hchild, hfile⟩ := Option.bind_eq_some_iff.1 hfile
    exact ⟨shape_of_entries hchild, .inl ⟨child, hchild, .inl hfile⟩⟩
  . cases directory with
    | nil =>
      obtain ⟨rfl, rfl⟩ := List.cons.inj heq
      refine ⟨by simpa [shapeAt, find?] using hdir, .inr ⟨?_, rfl⟩⟩
      rw [shapeAt_cons] at hnone
      cases hchild : Table.find? name t.entries with
      | none => rfl
      | some child => simp [hchild, shapeAt, find?] at hnone
    | cons first directory =>
      obtain ⟨rfl, rfl⟩ := List.cons.inj heq
      rw [shapeAt_cons] at hdir
      obtain ⟨child, hchild, hdir⟩ := Option.bind_eq_some_iff.1 hdir
      rw [shapeAt_cons, hchild] at hnone
      exact ⟨shape_of_entries hchild,
        .inl ⟨child, hchild, .inr ⟨directory, last, rfl, hdir, hnone⟩⟩⟩

theorem nodeAt_cons (t : FileTree) (name : String) (rest : Location) :
    t.nodeAt (name :: rest) = (Table.find? name t.entries).bind (nodeAt · rest) := by
  rw [nodeAt, find?, Option.map_bind]
  rfl

theorem nodeAt_cons_of_leaf {t : FileTree} (h : t.entries = []) (name : String)
    (rest : Location) : t.nodeAt (name :: rest) = none := by
  rw [nodeAt_cons, h]
  rfl

theorem nodeAt_set {t : FileTree} {loc l : Location} (h : t.Writable loc) (hl : l ≠ loc)
    {leaf : FileTree} (hleaf : leaf.entries = []) : (t.set loc leaf).nodeAt l = t.nodeAt l := by
  induction loc generalizing t l with
  | nil =>
    obtain ⟨name, rest, rfl⟩ := List.exists_cons_of_ne_nil hl
    have hfile : t.shapeAt [] = some .file := by
      rcases h with hfile | ⟨directory, last, heq, -⟩
      . exact hfile
      . cases directory <;> cases heq
    cases t with
    | file old => rw [set, nodeAt_cons_of_leaf hleaf, nodeAt_cons_of_leaf rfl]
    | dir es => cases hfile
    | link target => cases hfile
  | cons name rest ih =>
    obtain ⟨hdir, hcases⟩ := h.cases_cons
    cases l with
    | nil =>
      cases t with
      | dir es => rfl
      | file content => cases hdir
      | link target => cases hdir
    | cons other l =>
      rw [nodeAt_cons, nodeAt_cons, set, entries]
      by_cases hother : name = other
      . subst hother
        have hne : l ≠ rest := fun heq => hl (heq ▸ rfl)
        rw [Table.find?_insert_self, Option.bind_some]
        rcases hcases with ⟨child, hchild, hwritable⟩ | ⟨hnone, rfl⟩
        . rw [hchild, Option.getD_some, Option.bind_some]
          exact ih hwritable hne
        . obtain ⟨next, l, rfl⟩ := List.exists_cons_of_ne_nil hne
          rw [hnone, set, nodeAt_cons_of_leaf hleaf]
          rfl
      . rw [Table.find?_insert_of_ne hother]

theorem nodeAt_set_self (t : FileTree) (loc : Location) (leaf : FileTree) :
    (t.set loc leaf).nodeAt loc = some leaf.node := by
  rw [nodeAt, find?_set_self]
  rfl

theorem shapeAt_set {t : FileTree} {loc l : Location} (h : t.Writable loc) (hl : l ≠ loc)
    (content : ByteArray) : (t.set loc (.file content)).shapeAt l = t.shapeAt l := by
  rw [shapeAt_eq_map_nodeAt, shapeAt_eq_map_nodeAt, nodeAt_set h hl rfl]

def Lead.location? : Lead → Option Location
  | .found location => some location
  | .vacant directory name => some (directory ++ [name])
  | _ => none

def Lead.written (loc : Location) (r : Lead) : Lead :=
  if r.location? = some loc then .found loc else r

theorem Lead.written_eq_link_iff {loc directory : Location} {target : Path} {rest : List String}
    {r : Lead} : r.written loc = .link directory target rest ↔ r = .link directory target rest := by
  unfold Lead.written
  split
  . next hloc =>
    cases r with
    | link directory target rest => cases hloc
    | found location | vacant directory name | missing => simp
  . rfl

theorem leadThrough_of_ne_link {t : FileTree} {here : Location} {rest : List String}
    (h : ∀ directory target rest', t.lead here rest ≠ .link directory target rest') (links : Nat) :
    t.leadThrough links here rest = t.lead here rest := by
  rw [leadThrough]
  split
  . next directory target rest' hlead => exact absurd hlead (h directory target rest')
  . rfl

theorem lead_vacant {t : FileTree} {here directory : Location} {rest : List String} {name : String}
    (h : t.lead here rest = .vacant directory name) :
    t.shapeAt directory = some .dir ∧ t.shapeAt (directory ++ [name]) = none := by
  induction rest generalizing here with
  | nil => cases h
  | cons piece rest ih =>
    rw [lead_cons] at h
    split at h
    . next hdir =>
      split at h
      . exact ih h
      split at h
      . exact ih h
      split at h
      . next hnone =>
        split at h
        . cases h
          exact ⟨hdir, hnone⟩
        . cases h
      . cases h
      . exact ih h
    . cases h

theorem leadThrough_vacant {t : FileTree} {links : Nat} {here directory : Location}
    {rest : List String} {name : String}
    (h : t.leadThrough links here rest = .vacant directory name) :
    t.shapeAt directory = some .dir ∧ t.shapeAt (directory ++ [name]) = none := by
  induction links generalizing here rest with
  | zero =>
    rw [leadThrough] at h
    split at h
    . cases h
    . exact lead_vacant h
  | succ links ih =>
    rw [leadThrough] at h
    split at h
    . exact ih h
    . exact lead_vacant h

namespace Written

variable {t t' : FileTree} {loc : Location}

theorem ne_of_dir (h : Written t t' loc) {l : Location} (hl : t.shapeAt l = some .dir) :
    l ≠ loc := by
  rintro rfl
  simpa [hl] using h.old

theorem lead_eq (h : Written t t' loc) (here : Location) (rest : List String) :
    t'.lead here rest = (t.lead here rest).written loc := by
  induction rest generalizing here with
  | nil =>
    rw [lead, lead, Lead.written]
    split
    . next heq => rw [Option.some.inj heq]
    . rfl
  | cons piece rest ih =>
    rw [lead_cons, lead_cons]
    by_cases hdir : t.shapeAt here = some .dir
    . have hdir' : t'.shapeAt here = some .dir := (h.other here (h.ne_of_dir hdir)).trans hdir
      rw [if_pos hdir, if_pos hdir']
      by_cases hsame : (piece = "" || piece = ".") = true
      . rw [if_pos hsame, if_pos hsame]
        exact ih here
      rw [if_neg hsame, if_neg hsame]
      by_cases hup : piece = ".."
      . rw [if_pos hup, if_pos hup]
        exact ih here.dropLast
      rw [if_neg hup, if_neg hup]
      by_cases hloc : here ++ [piece] = loc
      . rw [hloc, h.new]
        rcases h.old with hold | hold
        . rw [hold]
          cases rest with
          | nil => simp [lead, Lead.written, Lead.location?, hloc]
          | cons next rest =>
            dsimp only
            rw [lead_cons, if_neg (by simp [h.new])]
            rfl
        . rw [hold]
          exact ih loc
      . rw [h.other _ hloc]
        cases t.shapeAt (here ++ [piece]) with
        | none =>
          dsimp only
          split <;> simp [Lead.written, Lead.location?, hloc]
        | some shape =>
          cases shape with
          | file => exact ih _
          | dir => exact ih _
          | link target => rfl
    . have hdir' : t'.shapeAt here ≠ some .dir := by
        by_cases heq : here = loc
        . simp [heq, h.new]
        . rwa [h.other here heq]
      rw [if_neg hdir, if_neg hdir']
      rfl

theorem lead_eq_link (h : Written t t' loc) {here directory : Location} {target : Path}
    {rest rest' : List String} (hlead : t.lead here rest = .link directory target rest') :
    t'.lead here rest = .link directory target rest' :=
  (h.lead_eq here rest).trans (Lead.written_eq_link_iff.2 hlead)

theorem leadThrough_eq_of_ne_link (h : Written t t' loc) {here : Location} {rest : List String}
    (hne : ∀ directory target rest', t.lead here rest ≠ .link directory target rest')
    (links : Nat) :
    t'.leadThrough links here rest = (t.leadThrough links here rest).written loc := by
  have hne' : ∀ directory target rest', t'.lead here rest ≠ .link directory target rest' := by
    intro directory target rest' hlead
    rw [h.lead_eq, Lead.written_eq_link_iff] at hlead
    exact hne _ _ _ hlead
  rw [leadThrough_of_ne_link hne, leadThrough_of_ne_link hne', h.lead_eq]

theorem leadThrough_eq (h : Written t t' loc) (links : Nat) (here : Location) (rest : List String) :
    t'.leadThrough links here rest = (t.leadThrough links here rest).written loc := by
  induction links generalizing here rest with
  | zero =>
    cases hlead : t.lead here rest with
    | link directory target rest' =>
      rw [leadThrough, leadThrough, hlead, h.lead_eq_link hlead]
      rfl
    | found l | vacant directory name | missing =>
      exact h.leadThrough_eq_of_ne_link (by simp [hlead]) 0
  | succ links ih =>
    cases hlead : t.lead here rest with
    | link directory target rest' =>
      rw [leadThrough, leadThrough, hlead, h.lead_eq_link hlead]
      exact ih _ _
    | found l | vacant directory name | missing =>
      exact h.leadThrough_eq_of_ne_link (by simp [hlead]) (links + 1)

theorem of_writable (h : t.Writable loc) (content : ByteArray) :
    Written t (t.set loc (.file content)) loc where
  old := h.symm.imp_left fun ⟨_, _, _, _, hnone⟩ => hnone
  new := by
    rw [shapeAt, find?_set_self]
    rfl
  other := fun _ hl => shapeAt_set h hl content

end Written

end FileTree

namespace FileSystem

open FileTree (Location Lead Writable Written)

variable {fs fs' : FileSystem} {loc : Location} {p : Path} {text : String}

theorem follow_set (h : fs.tree.Writable loc) (content : ByteArray) (p : Path) :
    (fs.set loc (.file content)).follow p = (fs.follow p).written loc := by
  rw [follow, follow]
  split
  . rfl
  . exact (Written.of_writable h content).leadThrough_eq _ _ _

theorem locate?_set (h : fs.tree.Writable loc) (hloc : (fs.follow p).location? = some loc)
    (content : ByteArray) : (fs.set loc (.file content)).locate? p = some loc := by
  rw [locate?, follow_set h, Lead.written, if_pos hloc]

theorem readText?_set (h : fs.tree.Writable loc) (hloc : (fs.follow p).location? = some loc)
    (text : String) : (fs.set loc (.file text.toUTF8)).readText? p = some text := by
  have hfile : (fs.set loc (.file text.toUTF8)).at? p = some (.file text.toUTF8) := by
    rw [at?, locate?_set h hloc]
    exact FileTree.find?_set_self fs.tree loc _
  rw [readText?, hfile]
  exact dif_pos text.isValidUTF8

theorem follow_vacant {directory : Location} {name : String}
    (h : fs.follow p = .vacant directory name) :
    fs.tree.shapeAt directory = some .dir ∧ fs.tree.shapeAt (directory ++ [name]) = none := by
  rw [follow] at h
  split at h
  . cases h
  . exact FileTree.leadThrough_vacant h

theorem exists_of_write? (h : fs.write? p text = some fs') :
    ∃ loc, fs.tree.Writable loc ∧ (fs.follow p).location? = some loc
      ∧ fs' = fs.set loc (.file text.toUTF8) := by
  rw [write?] at h
  split at h
  . next directory name hfollow =>
    obtain ⟨hdir, hnone⟩ := follow_vacant hfollow
    cases h
    exact ⟨_, .inr ⟨directory, name, rfl, hdir, hnone⟩, by rw [hfollow]; rfl, rfl⟩
  . next loc hfollow =>
    split at h
    . next content hfile =>
      have hshape : fs.tree.shapeAt loc = some .file := by
        rw [FileTree.shapeAt, hfile]
        rfl
      cases h
      exact ⟨loc, .inl hshape, by rw [hfollow]; rfl, rfl⟩
    . cases h
  . cases h

theorem readText?_of_write? (h : fs.write? p text = some fs') : fs'.readText? p = some text := by
  obtain ⟨loc, hwritable, hloc, rfl⟩ := exists_of_write? h
  exact readText?_set hwritable hloc text

-- Absolute paths and links to them lead on from the root, which nothing is above.
example :
    let fs : FileSystem := {
      tree := .dir [("out", .dir []), ("work", .dir [("here", .link "/out")])]
      workDir := ["work"] }
    ["/out/a", "here/a", "../../out/a"].map fs.follow = List.replicate 3 (.vacant ["out"] "a") := by
  rfl

end FileSystem
end FixtureLab

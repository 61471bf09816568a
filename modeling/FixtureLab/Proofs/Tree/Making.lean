import FixtureLab.Proofs.Tree.Writing

/-!
This module contains what making directories and writing a file may change in a tree: nothing that
is there but the file, and what is new besides are directories.
-/

namespace FixtureLab
namespace FileTree

def OnlyDirsAdded (t t' : FileTree) : Prop :=
  ∀ l, t'.nodeAt l = t.nodeAt l ∨ t.nodeAt l = none ∧ t'.nodeAt l = some .dir

namespace OnlyDirsAdded

theorem refl (t : FileTree) : OnlyDirsAdded t t := fun _ => .inl rfl

theorem trans {t t' t'' : FileTree} (h : OnlyDirsAdded t t') (h' : OnlyDirsAdded t' t'') :
    OnlyDirsAdded t t'' := by
  intro l
  rcases h l with heq | ⟨hnone, hdir⟩ <;> rcases h' l with heq' | ⟨hnone', hdir'⟩
  . exact .inl (heq'.trans heq)
  . exact .inr ⟨heq.symm.trans hnone', hdir'⟩
  . exact .inr ⟨hnone, heq'.trans hdir⟩
  . rw [hdir] at hnone'
    cases hnone'

theorem set {t : FileTree} {directory : Location} {name : String}
    (hdir : t.shapeAt directory = some .dir) (hnone : t.shapeAt (directory ++ [name]) = none) :
    OnlyDirsAdded t (t.set (directory ++ [name]) (.dir [])) := by
  intro l
  by_cases hl : l = directory ++ [name]
  . subst hl
    refine .inr ⟨?_, nodeAt_set_self t _ _⟩
    rw [shapeAt_eq_map_nodeAt] at hnone
    exact Option.map_eq_none_iff.1 hnone
  . exact .inl (nodeAt_set (.inr ⟨directory, name, rfl, hdir, hnone⟩) hl rfl)

end OnlyDirsAdded

end FileTree

namespace FileSystem

structure OnlyDirsAdded (fs fs' : FileSystem) : Prop where
  workDir_eq : fs'.workDir = fs.workDir
  nodes : fs.tree.OnlyDirsAdded fs'.tree

namespace OnlyDirsAdded

variable {fs fs' fs'' : FileSystem} {p : Path}

theorem refl (fs : FileSystem) : OnlyDirsAdded fs fs := ⟨rfl, .refl fs.tree⟩

theorem trans (h : OnlyDirsAdded fs fs') (h' : OnlyDirsAdded fs' fs'') : OnlyDirsAdded fs fs'' :=
  ⟨h'.workDir_eq.trans h.workDir_eq, h.nodes.trans h'.nodes⟩

theorem of_makeDir? (h : fs.makeDir? p = some fs') : OnlyDirsAdded fs fs' := by
  rw [makeDir?] at h
  split at h
  . exact Option.some.inj h ▸ refl fs
  split at h
  . split at h
    . next hlead =>
      obtain ⟨hdir, hnone⟩ := FileTree.lead_vacant hlead
      exact Option.some.inj h ▸ ⟨rfl, .set hdir hnone⟩
    . cases h
  . cases h

theorem makeDirs (fs : FileSystem) (p : Path) : OnlyDirsAdded fs (fs.makeDirs p).2 := by
  have hgo : ∀ (n : Nat) (p : Path), OnlyDirsAdded fs (makeDirs.go fs n p).2 := by
    intro n
    induction n with
    | zero => exact fun _ => refl fs
    | succ n ih =>
      intro p
      rw [makeDirs.go]
      split
      . exact refl fs
      have habove : OnlyDirsAdded fs (p.parent?.elim (true, fs) (makeDirs.go fs n)).2 := by
        cases p.parent? with
        | none => exact refl fs
        | some above => exact ih above
      split
      . next above heq =>
        rw [heq] at habove
        split
        . next hmake => exact habove.trans (of_makeDir? hmake)
        . exact habove
      . next above heq =>
        rw [heq] at habove
        exact habove
  exact hgo _ p

end OnlyDirsAdded

structure OnlyWritten (fs fs' : FileSystem) (p : Path) (text : String) : Prop where
  workDir_eq : fs'.workDir = fs.workDir
  nodes : ∃ loc,
    fs'.locate? p = some loc
    ∧ fs'.tree.nodeAt loc = some (.file text.toUTF8)
    ∧ ∀ l, l ≠ loc → fs'.tree.nodeAt l = fs.tree.nodeAt l
      ∨ fs.tree.nodeAt l = none ∧ fs'.tree.nodeAt l = some .dir

theorem OnlyDirsAdded.onlyWritten {fs fs' fs'' : FileSystem} {p : Path} {text : String}
    (h : OnlyDirsAdded fs fs') (hwrite : fs'.write? p text = some fs'') :
    OnlyWritten fs fs'' p text := by
  obtain ⟨loc, hwritable, hloc, rfl⟩ := exists_of_write? hwrite
  refine ⟨h.workDir_eq, loc, locate?_set hwritable hloc _, FileTree.nodeAt_set_self _ loc _, ?_⟩
  intro l hl
  rw [set, FileTree.nodeAt_set hwritable hl rfl]
  exact h.nodes l

end FileSystem
end FixtureLab

import FixtureLab.Command.Run
import FixtureLab.Proofs.Tree.Making

/-!
This module contains what sessions do to the file system. The lines printed before a session do
not matter to it, and reading files leaves the file system as it is.
-/

namespace FixtureLab
namespace Command
namespace Session

variable {α β : Type}

def onFiles (s : Session α) (fs : FileSystem) : Except Failure α × FileSystem :=
  ((s.run.run { fs }).1, (s.run.run { fs }).2.fs)

def PrintBlind (s : Session α) : Prop :=
  ∀ desk : Desk, ((s.run.run desk).1, (s.run.run desk).2.fs) = onFiles s desk.fs

theorem run_bind (s : Session α) (f : α → Session β) (desk : Desk) :
    (s >>= f).run.run desk
      = match s.run.run desk with
        | (.ok a, desk) => (f a).run.run desk
        | (.error e, desk) => (.error e, desk) := by
  rw [ExceptT.run_bind, StateT.run_bind]
  cases hrun : s.run.run desk with
  | mk result desk' => cases result <;> rfl

theorem onFiles_bind {s : Session α} {f : α → Session β} (hf : ∀ a, PrintBlind (f a))
    (fs : FileSystem) :
    onFiles (s >>= f) fs
      = match onFiles s fs with
        | (.ok a, fs) => onFiles (f a) fs
        | (.error e, fs) => (.error e, fs) := by
  rw [onFiles, run_bind, onFiles]
  cases hrun : s.run.run { fs } with
  | mk result desk =>
    cases result with
    | ok a => exact hf a desk
    | error e => rfl

namespace PrintBlind

theorem pure (a : α) : PrintBlind (pure a) := fun _ => rfl

theorem throw (e : Failure) : PrintBlind (throw e : Session α) := fun _ => rfl

theorem fileSystem : PrintBlind fileSystem := fun _ => rfl

theorem say (line : String) : PrintBlind (say line) := fun _ => rfl

theorem setFiles (fs : FileSystem) : PrintBlind (modify ({ · with fs })) := fun _ => rfl

theorem bind {s : Session α} {f : α → Session β} (hs : PrintBlind s) (hf : ∀ a, PrintBlind (f a)) :
    PrintBlind (s >>= f) := by
  intro desk
  rw [onFiles_bind hf, ← hs desk, run_bind]
  cases hrun : s.run.run desk with
  | mk result desk' =>
    cases result with
    | ok a => exact hf a desk'
    | error e => rfl

theorem ofExcept {ε : Type} (failure : ε → Failure) (r : Except ε α) :
    PrintBlind (ofExcept failure r) := by
  cases r with
  | ok a => exact pure a
  | error e => exact throw (failure e)

theorem writeFile (path : Path) (text : String) : PrintBlind (writeFile path text) := by
  apply bind fileSystem
  intro fs
  cases fs.write? path text with
  | some fs => exact setFiles fs
  | none => exact throw _

theorem makeDirs (path : Path) : PrintBlind (makeDirs path) := by
  apply bind fileSystem
  intro fs
  cases fs.makeDirs path with
  | mk made fs =>
    apply bind (setFiles fs)
    intro _
    cases made with
    | true => exact pure ()
    | false => exact throw _

end PrintBlind

theorem onFiles_fileSystem_bind (f : FileSystem → Session α) (fs : FileSystem) :
    onFiles (fileSystem >>= f) fs = onFiles (f fs) fs := by
  rw [onFiles, run_bind]
  rfl

theorem onFiles_ofExcept_bind {ε : Type} (failure : ε → Failure) (r : Except ε α)
    (f : α → Session β) (fs : FileSystem) :
    onFiles (ofExcept failure r >>= f) fs
      = match r with
        | .ok a => onFiles (f a) fs
        | .error e => (.error (failure e), fs) := by
  cases r with
  | ok a => rfl
  | error e => rfl

theorem onFiles_say_bind {s : Session α} (hs : PrintBlind s) (line : String) (fs : FileSystem) :
    onFiles (do say line; s) fs = onFiles s fs :=
  hs { fs, printed := [line] }

theorem onFiles_writeFile (path : Path) (text : String) (fs : FileSystem) :
    onFiles (writeFile path text) fs
      = match fs.write? path text with
        | some fs' => (.ok (), fs')
        | none =>
          (.error { message := "failed to write " ++ path,
                    causes := ["no file can be written there"] }, fs) := by
  rw [writeFile, onFiles_fileSystem_bind]
  cases fs.write? path text <;> rfl

theorem onFiles_makeDirs (path : Path) (fs : FileSystem) :
    onFiles (makeDirs path) fs
      = (if (fs.makeDirs path).1 then .ok ()
          else .error { message := "failed to create " ++ path,
                        causes := ["no directory can be made there"] },
        (fs.makeDirs path).2) := by
  rw [makeDirs, onFiles_fileSystem_bind]
  cases fs.makeDirs path with
  | mk made fs' => cases made <;> rfl

theorem write?_of_writeFile {path : Path} {text : String} {fs fs' : FileSystem}
    (h : onFiles (writeFile path text) fs = (.ok (), fs')) : fs.write? path text = some fs' := by
  rw [onFiles_writeFile] at h
  split at h
  . next hwrite =>
    cases h
    exact hwrite
  . cases h

structure Prepares (path : Path) (s : Session Unit) : Prop where
  printBlind : PrintBlind s
  onlyDirsAdded : ∀ fs : FileSystem, fs.OnlyDirsAdded (onFiles s fs).2
  message_eq : ∀ {fs fs' : FileSystem} {f : Failure}, onFiles s fs = (.error f, fs') →
    ∃ directory, path.parent? = some directory ∧ f.message = "failed to create " ++ directory

theorem Prepares.nothing (path : Path) : Prepares path (pure ()) where
  printBlind := .pure ()
  onlyDirsAdded := .refl
  message_eq h := by cases h

theorem Prepares.makeDirs {path directory : Path} (hparent : path.parent? = some directory) :
    Prepares path (makeDirs directory) where
  printBlind := .makeDirs directory
  onlyDirsAdded fs := by
    rw [onFiles_makeDirs]
    exact .makeDirs fs directory
  message_eq h := by
    rw [onFiles_makeDirs] at h
    split at h
    . cases h
    . cases h
      exact ⟨directory, hparent, rfl⟩

theorem writeOutput_eq (path : Path) (text : String) :
    ∃ s : Session Unit, Prepares path s ∧ writeOutput path text = (do s; writeFile path text) := by
  unfold writeOutput
  cases hparent : path.parent? with
  | none => exact ⟨pure (), .nothing path, rfl⟩
  | some directory =>
    cases hempty : directory.isEmpty with
    | true => exact ⟨pure (), .nothing path, by simp [hempty]⟩
    | false => exact ⟨makeDirs directory, .makeDirs hparent, by simp [hempty]⟩

theorem PrintBlind.writeOutput (path : Path) (text : String) :
    PrintBlind (writeOutput path text) := by
  obtain ⟨s, hs, heq⟩ := writeOutput_eq path text
  rw [heq]
  exact hs.printBlind.bind fun _ => .writeFile path text

theorem onFiles_writeOutput (path : Path) (text : String) (fs : FileSystem) :
    ∃ fs', fs.OnlyDirsAdded fs'
      ∧ ((∃ f, onFiles (writeOutput path text) fs = (.error f, fs'))
        ∨ onFiles (writeOutput path text) fs = onFiles (writeFile path text) fs') := by
  obtain ⟨s, hs, heq⟩ := writeOutput_eq path text
  have hadded := hs.onlyDirsAdded fs
  rw [heq, onFiles_bind fun _ => .writeFile path text]
  cases hprepared : onFiles s fs with
  | mk result fs' =>
    rw [hprepared] at hadded
    cases result with
    | ok _ => exact ⟨fs', hadded, .inr rfl⟩
    | error f => exact ⟨fs', hadded, .inl ⟨f, rfl⟩⟩

theorem readText?_of_writeOutput {path : Path} {text : String} {fs fs' : FileSystem}
    (h : onFiles (writeOutput path text) fs = (.ok (), fs')) : fs'.readText? path = some text := by
  obtain ⟨above, -, ⟨f, hfail⟩ | hwrite⟩ := onFiles_writeOutput path text fs
  . rw [hfail] at h
    cases h
  . rw [hwrite] at h
    exact FileSystem.readText?_of_write? (write?_of_writeFile h)

theorem onlyWritten_of_writeOutput {path : Path} {text : String} {fs fs' : FileSystem}
    (h : onFiles (writeOutput path text) fs = (.ok (), fs')) : fs.OnlyWritten fs' path text := by
  obtain ⟨above, hadded, ⟨f, hfail⟩ | hwrite⟩ := onFiles_writeOutput path text fs
  . rw [hfail] at h
    cases h
  . rw [hwrite] at h
    exact hadded.onlyWritten (write?_of_writeFile h)

theorem onlyDirsAdded_of_writeOutput {path : Path} {text : String} {fs fs' : FileSystem}
    {f : Failure} (h : onFiles (writeOutput path text) fs = (.error f, fs')) :
    fs.OnlyDirsAdded fs' := by
  obtain ⟨above, hadded, ⟨_, hfail⟩ | hwrite⟩ := onFiles_writeOutput path text fs
  . rw [hfail] at h
    cases h
    exact hadded
  . rw [hwrite, onFiles_writeFile] at h
    split at h
    . cases h
    . cases h
      exact hadded

theorem message_of_writeOutput {path : Path} {text : String} {fs fs' : FileSystem} {f : Failure}
    (h : onFiles (writeOutput path text) fs = (.error f, fs')) :
    (∃ directory, path.parent? = some directory ∧ f.message = "failed to create " ++ directory)
      ∨ f.message = "failed to write " ++ path := by
  obtain ⟨s, hs, heq⟩ := writeOutput_eq path text
  rw [heq, onFiles_bind fun _ => .writeFile path text] at h
  split at h
  . rw [onFiles_writeFile] at h
    split at h
    . cases h
    . cases h
      exact .inr rfl
  . next hprepared =>
    cases h
    exact .inl (hs.message_eq hprepared)

theorem onFiles_bind_say (s : Session Unit) (line line' : String) (fs : FileSystem) :
    onFiles (do s; say line; say line') fs = onFiles s fs := by
  rw [onFiles_bind fun _ => .bind (.say line) fun _ => .say line']
  cases hrun : onFiles s fs with
  | mk result fs' => cases result <;> rfl

end Session
end Command
end FixtureLab

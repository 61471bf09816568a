import FixtureLab.Proofs.Command.TypesDocument

/-!
This module contains that the tasks on types do all of their work or nothing: unless the text to be
written can be made, no file is touched, and then none but the output is.
-/

namespace FixtureLab
namespace Command

open Session
open Schema (Definitions inferFiles)

def TypeOrigin.definitions (origin : TypeOrigin) (fs : FileSystem) :
    Except Schema.Error Definitions :=
  match origin with
  | .samples pattern model => inferFiles fs pattern model
  | .document path => Definitions.load fs path

structure WritesOnly (s : Session Unit) (fs : FileSystem) (output : Path)
    (made : Except Schema.Error String) : Prop where
  of_ok : ∀ text, made = .ok text → onFiles s fs = onFiles (writeOutput output text) fs
  of_error : ∀ e, made = .error e → ∃ f, onFiles s fs = (.error f, fs)

namespace WritesOnly

variable {s : Session Unit} {fs : FileSystem} {output : Path}

theorem ok {text : String} (h : onFiles s fs = onFiles (writeOutput output text) fs) :
    WritesOnly s fs output (.ok text) where
  of_ok _ hmade := Except.ok.inj hmade ▸ h
  of_error _ hmade := by cases hmade

theorem error {f : Failure} (h : onFiles s fs = (.error f, fs)) (e : Schema.Error) :
    WritesOnly s fs output (.error e) where
  of_ok _ hmade := by cases hmade
  of_error _ _ := ⟨f, h⟩

end WritesOnly

def Failure.OfWriting (f : Failure) (output : Path) : Prop :=
  (∃ directory, output.parent? = some directory ∧ f.message = "failed to create " ++ directory)
    ∨ f.message = "failed to write " ++ output

/--
What is left behind if all work or none was to be done. If there is no text to write, nothing is
changed. If there is one, it is read from the output and nothing else is changed, or else it could
not be written, and no more than directories is left of the attempt.
-/
structure Outcome.AllOrNothing (o : Outcome) (verbose : Bool) (fs : FileSystem) (output : Path)
    (made : Except Schema.Error String) : Prop where
  of_ok : ∀ text, made = .ok text →
    o.Writes fs output text
    ∧ (o.code = 0 ∧ fs.OnlyWritten o.fs output text
      ∨ o.code = 1 ∧ fs.OnlyDirsAdded o.fs
        ∧ ∃ f : Failure, f.OfWriting output ∧ o.errors = f.report verbose)
  of_error : ∀ e, made = .error e → o.code = 1 ∧ o.fs = fs

theorem Invocation.run_of_ok {i : Invocation} {fs fs' : FileSystem}
    (h : onFiles i.task.run fs = (.ok (), fs')) : (i.run fs).code = 0 ∧ (i.run fs).fs = fs' :=
  ⟨(i.code_run_eq_zero_iff fs).2 (by rw [h]), by rw [i.fs_run, h]⟩

theorem Invocation.run_of_error {i : Invocation} {fs fs' : FileSystem} {f : Failure}
    (h : onFiles i.task.run fs = (.error f, fs')) :
    (i.run fs).code = 1 ∧ (i.run fs).errors = f.report i.verbose ∧ (i.run fs).fs = fs' := by
  rw [onFiles] at h
  rw [Invocation.run]
  cases hrun : i.task.run.run.run { fs } with
  | mk result desk =>
    rw [hrun] at h
    cases h
    exact ⟨rfl, rfl, rfl⟩

theorem WritesOnly.allOrNothing {i : Invocation} {fs : FileSystem} {output : Path}
    {made : Except Schema.Error String} (h : WritesOnly i.task.run fs output made) :
    (i.run fs).AllOrNothing i.verbose fs output made := by
  constructor
  . intro text hmade
    refine ⟨Outcome.writes_of_onFiles (h.of_ok text hmade), ?_⟩
    cases hwrite : onFiles (writeOutput output text) fs with
    | mk result fs' =>
      have hrun : onFiles i.task.run fs = (result, fs') := (h.of_ok text hmade).trans hwrite
      cases result with
      | ok _ =>
        obtain ⟨hcode, hfs⟩ := Invocation.run_of_ok hrun
        subst hfs
        exact .inl ⟨hcode, onlyWritten_of_writeOutput hwrite⟩
      | error f =>
        obtain ⟨hcode, herrors, hfs⟩ := Invocation.run_of_error hrun
        subst hfs
        exact .inr ⟨hcode, onlyDirsAdded_of_writeOutput hwrite, f, message_of_writeOutput hwrite,
          herrors⟩
  . intro e hmade
    obtain ⟨f, hrun⟩ := h.of_error e hmade
    obtain ⟨hcode, -, hfs⟩ := Invocation.run_of_error hrun
    exact ⟨hcode, hfs⟩

theorem onFiles_definitionsOf (origin : TypeOrigin) (fs : FileSystem) :
    ∃ r, onFiles (definitionsOf origin) fs = (r, fs)
      ∧ ∀ d, r = .ok d ↔ origin.definitions fs = .ok d := by
  cases origin with
  | samples pattern model =>
    cases hinfer : onFiles (inferTypes pattern model) fs with
    | mk r fs' =>
      obtain ⟨rfl, hok⟩ := onFiles_inferTypes hinfer
      exact ⟨r, hinfer, hok⟩
  | document path =>
    rw [definitionsOf, onFiles_fileSystem_bind, TypeOrigin.definitions]
    cases Definitions.load fs path with
    | ok d =>
      refine ⟨.ok d, rfl, fun d' => ?_⟩
      constructor <;> (intro h; cases h; rfl)
    | error e =>
      refine ⟨_, rfl, fun d' => ?_⟩
      constructor <;> (intro h; cases h)

theorem writesOnly_writeTypes (pattern model : String) (output : Path) (fs : FileSystem) :
    WritesOnly (writeTypes pattern model output) fs output
      ((inferFiles fs pattern model).map (·.document)) := by
  have hwrite := onFiles_writeTypes_eq pattern model output fs
  cases hinfer : onFiles (inferTypes pattern model) fs with
  | mk r fs' =>
    obtain ⟨hfs, hok⟩ := onFiles_inferTypes hinfer
    rw [hinfer, hfs] at hwrite
    generalize inferFiles fs pattern model = files at hok
    cases files with
    | ok d =>
      cases (hok d).2 rfl
      exact .ok hwrite
    | error e =>
      cases r with
      | ok d => cases (hok d).1 rfl
      | error f => exact .error hwrite e

theorem writesOnly_writeSource (origin : TypeOrigin) (output : Path) (fs : FileSystem) :
    WritesOnly (writeSource origin output) fs output
      (origin.definitions fs >>= Schema.Source.render) := by
  have hwrite := onFiles_writeSource_eq origin output fs
  obtain ⟨r, horigin, hok⟩ := onFiles_definitionsOf origin fs
  rw [horigin] at hwrite
  generalize origin.definitions fs = definitions at hok
  cases definitions with
  | ok d =>
    cases (hok d).2 rfl
    dsimp only at hwrite
    change WritesOnly _ fs output (Schema.Source.render d)
    cases hsource : Schema.Source.render d with
    | ok source =>
      rw [hsource] at hwrite
      exact .ok hwrite
    | error e =>
      rw [hsource] at hwrite
      exact .error hwrite e
  | error e =>
    cases r with
    | ok d => cases (hok d).1 rfl
    | error f => exact .error hwrite e

/--
The tasks on types infer what the library infers from the files. The text of the document, or the
source, is written if the definitions are there and it can be made. Otherwise nothing is changed.
-/
theorem type_tasks_all_or_nothing :
    (∀ (fs : FileSystem) (pattern model : String) (d : Definitions),
      (onFiles (inferTypes pattern model) fs).1 = .ok d ↔ inferFiles fs pattern model = .ok d)
    ∧ (∀ (fs : FileSystem) (pattern model : String) (output : Path) (v : Bool),
      (Invocation.run ⟨.writeTypes pattern model output, v⟩ fs).AllOrNothing v fs output
        ((inferFiles fs pattern model).map (·.document)))
    ∧ ∀ (fs : FileSystem) (origin : TypeOrigin) (output : Path) (v : Bool),
      (Invocation.run ⟨.writeSource origin output, v⟩ fs).AllOrNothing v fs output
        (origin.definitions fs >>= Schema.Source.render) := by
  refine ⟨fun fs pattern model d => (onFiles_inferTypes rfl).2 d, ?_, ?_⟩
  . intro fs pattern model output v
    have h := writesOnly_writeTypes pattern model output fs
    exact WritesOnly.allOrNothing (i := ⟨.writeTypes pattern model output, v⟩) h
  . intro fs origin output v
    have h := writesOnly_writeSource origin output fs
    exact WritesOnly.allOrNothing (i := ⟨.writeSource origin output, v⟩) h

end Command
end FixtureLab

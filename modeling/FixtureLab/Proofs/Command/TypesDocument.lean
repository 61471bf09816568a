import FixtureLab.Proofs.Command.Session
import FixtureLab.Proofs.Schema.Document
import FixtureLab.Proofs.Schema.Files

/-!
This module contains that the document of inferred types loses nothing: source is the same whether
it is generated from the document or from the samples.
-/

namespace FixtureLab
namespace Command

open Session
open Schema (Definitions Inferrer inferFiles)

theorem addFiles_cons (inferrer : Inferrer) (path : Path) (rest : List Path) :
    addFiles inferrer (path :: rest) = (do
      say ("read " ++ path ++ " ...")
      let fs ← fileSystem
      ofExcept (fun e => (Failure.ofSchema e).within ("failed to infer types from " ++ path))
        (inferrer.addFile fs path).1
      addFiles (inferrer.addFile fs path).2 rest) := rfl

theorem printBlind_addFiles (inferrer : Inferrer) (paths : List Path) :
    PrintBlind (addFiles inferrer paths) := by
  induction paths generalizing inferrer with
  | nil => exact .pure inferrer
  | cons path rest ih =>
    rw [addFiles_cons]
    exact .bind (.say _) fun _ => .bind .fileSystem fun _ => .bind (.ofExcept _ _) fun _ => ih _

theorem onFiles_addFiles {inferrer : Inferrer} {paths : List Path} {fs fs' : FileSystem}
    {r : Except Failure Inferrer} (h : onFiles (addFiles inferrer paths) fs = (r, fs')) :
    fs' = fs ∧ ∀ i, r = .ok i ↔ inferrer.addFiles fs paths = .ok i := by
  induction paths generalizing inferrer with
  | nil =>
    cases h
    refine ⟨rfl, fun i => ?_⟩
    constructor <;> (intro hi; cases hi; rfl)
  | cons path rest ih =>
    have hblind : ∀ fs₀ : FileSystem, PrintBlind (do
        ofExcept (fun e => (Failure.ofSchema e).within ("failed to infer types from " ++ path))
          (inferrer.addFile fs₀ path).1
        addFiles (inferrer.addFile fs₀ path).2 rest) :=
      fun _ => .bind (.ofExcept _ _) fun _ => printBlind_addFiles _ rest
    rw [addFiles_cons, onFiles_say_bind (.bind .fileSystem hblind), onFiles_fileSystem_bind,
      onFiles_ofExcept_bind] at h
    rw [Inferrer.addFiles]
    cases hadd : inferrer.addFile fs path with
    | mk result inferrer' =>
      rw [hadd] at h
      cases result with
      | ok _ => exact ih h
      | error e =>
        cases h
        exact ⟨rfl, by simp⟩

theorem onFiles_inferTypes {pattern model : String} {fs fs' : FileSystem}
    {r : Except Failure Definitions} (h : onFiles (inferTypes pattern model) fs = (r, fs')) :
    fs' = fs ∧ ∀ d, r = .ok d ↔ inferFiles fs pattern model = .ok d := by
  rw [inferTypes, onFiles_fileSystem_bind, onFiles_ofExcept_bind] at h
  simp only [Schema.inferFiles_eq_ok_iff]
  cases hpaths : fs.expand pattern with
  | error e =>
    rw [hpaths] at h
    cases h
    exact ⟨rfl, by simp⟩
  | ok paths =>
    rw [hpaths] at h
    dsimp only at h
    rw [onFiles_ofExcept_bind] at h
    cases hnew : Inferrer.new model with
    | error e =>
      rw [hnew] at h
      cases h
      exact ⟨rfl, by simp⟩
    | ok inferrer =>
      rw [hnew] at h
      dsimp only at h
      rw [onFiles_bind fun _ => .pure _] at h
      cases hadd : onFiles (addFiles inferrer paths) fs with
      | mk result fs₁ =>
        obtain ⟨rfl, hok⟩ := onFiles_addFiles hadd
        rw [hadd] at h
        cases result with
        | ok inferrer' =>
          cases h
          refine ⟨rfl, fun d => ?_⟩
          constructor
          . intro hd
            exact ⟨_, _, _, rfl, rfl, (hok _).1 rfl, Except.ok.inj hd⟩
          . rintro ⟨_, _, t, hnew', hpaths', hadd', rfl⟩
            cases hnew'
            cases hpaths'
            cases (hok t).2 hadd'
            rfl
        | error e =>
          cases h
          simp [← hok]

theorem Invocation.fs_run (i : Invocation) (fs : FileSystem) :
    (i.run fs).fs = (onFiles i.task.run fs).2 := by
  rw [Invocation.run, onFiles]
  cases hrun : i.task.run.run.run { fs } with
  | mk result desk => cases result <;> rfl

theorem Invocation.code_run_eq_zero_iff (i : Invocation) (fs : FileSystem) :
    (i.run fs).code = 0 ↔ (onFiles i.task.run fs).1 = .ok () := by
  rw [Invocation.run, onFiles]
  cases hrun : i.task.run.run.run { fs } with
  | mk result desk => cases result <;> simp

theorem Invocation.onFiles_of_code {i : Invocation} {fs : FileSystem} (h : (i.run fs).code = 0) :
    onFiles i.task.run fs = (.ok (), (i.run fs).fs) :=
  Prod.ext ((i.code_run_eq_zero_iff fs).1 h) (i.fs_run fs).symm

structure Outcome.Writes (o : Outcome) (fs : FileSystem) (path : Path) (text : String) : Prop where
  code_eq_zero_iff : o.code = 0 ↔ (onFiles (writeOutput path text) fs).1 = .ok ()
  fs_eq : o.fs = (onFiles (writeOutput path text) fs).2
  readText?_eq : o.code = 0 → o.fs.readText? path = some text

theorem Outcome.writes_of_onFiles {i : Invocation} {fs : FileSystem} {path : Path} {text : String}
    (h : onFiles i.task.run fs = onFiles (writeOutput path text) fs) :
    (i.run fs).Writes fs path text := by
  have hcode : (i.run fs).code = 0 ↔ (onFiles (writeOutput path text) fs).1 = .ok () := by
    rw [i.code_run_eq_zero_iff, h]
  have hfs : (i.run fs).fs = (onFiles (writeOutput path text) fs).2 := by rw [i.fs_run, h]
  refine ⟨hcode, hfs, fun hzero => ?_⟩
  rw [hfs]
  exact readText?_of_writeOutput (Prod.ext (hcode.1 hzero) rfl)

theorem onFiles_writeTypes_eq (pattern model : String) (document : Path) (fs : FileSystem) :
    onFiles (writeTypes pattern model document) fs
      = match onFiles (inferTypes pattern model) fs with
        | (.ok d, fs) => onFiles (writeOutput document d.document) fs
        | (.error f, fs) => (.error f, fs) := by
  have hblind : ∀ d : Definitions, PrintBlind (do
      writeOutput document d.document
      say ("Wrote " ++ document ++ " (" ++ toString d.types.length ++ " types from " ++
        toString d.samples.length ++ " files)")
      say "Done") :=
    fun _ => .bind (.writeOutput _ _) fun _ => .bind (.say _) fun _ => .say _
  rw [writeTypes, onFiles_bind hblind]
  cases onFiles (inferTypes pattern model) fs with
  | mk result fs₁ =>
    cases result with
    | ok d => exact onFiles_bind_say _ _ _ fs₁
    | error f => rfl

theorem onFiles_writeTypes {pattern model : String} {document : Path} {fs fs' : FileSystem}
    (h : onFiles (writeTypes pattern model document) fs = (.ok (), fs')) :
    ∃ d, onFiles (inferTypes pattern model) fs = (.ok d, fs) ∧ inferFiles fs pattern model = .ok d
      ∧ onFiles (writeOutput document d.document) fs = (.ok (), fs') := by
  rw [onFiles_writeTypes_eq] at h
  cases hinfer : onFiles (inferTypes pattern model) fs with
  | mk result fs₁ =>
    obtain ⟨rfl, hok⟩ := onFiles_inferTypes hinfer
    rw [hinfer] at h
    cases result with
    | ok d => exact ⟨d, rfl, (hok d).1 rfl, h⟩
    | error e => cases h

theorem onFiles_writeSource_eq (origin : TypeOrigin) (output : Path) (fs : FileSystem) :
    onFiles (writeSource origin output) fs
      = match onFiles (definitionsOf origin) fs with
        | (.ok d, fs) =>
          match Schema.Source.render d with
          | .ok source => onFiles (writeOutput output source) fs
          | .error e => (.error ((Failure.ofSchema e).within "failed to generate Rust"), fs)
        | (.error f, fs) => (.error f, fs) := by
  have hblind : ∀ d : Definitions, PrintBlind (do
      let source ← ofExcept (fun e => (Failure.ofSchema e).within "failed to generate Rust")
        (Schema.Source.render d)
      writeOutput output source
      say ("Wrote " ++ output ++ " (" ++ toString d.types.length ++ " structs)")
      say "Done") :=
    fun _ => .bind (.ofExcept _ _) fun _ => .bind (.writeOutput _ _) fun _ =>
      .bind (.say _) fun _ => .say _
  rw [writeSource, onFiles_bind hblind]
  cases onFiles (definitionsOf origin) fs with
  | mk result fs₁ =>
    cases result with
    | ok d =>
      dsimp only
      rw [onFiles_ofExcept_bind]
      cases Schema.Source.render d with
      | ok source => exact onFiles_bind_say _ _ _ fs₁
      | error e => rfl
    | error f => rfl

theorem onFiles_writeSource {origin : TypeOrigin} {d : Definitions} {source : String}
    {fs : FileSystem} (horigin : onFiles (definitionsOf origin) fs = (.ok d, fs))
    (hsource : Schema.Source.render d = .ok source) (output : Path) :
    onFiles (writeSource origin output) fs = onFiles (writeOutput output source) fs := by
  rw [onFiles_writeSource_eq, horigin]
  dsimp only
  rw [hsource]

/--
Definitions are read from their document as they were written, with the leaves of samples in order.
Source that is generated from the document of inferred types is that which is generated from the
samples.
-/
theorem document_loses_nothing :
    (∀ d : Definitions, (∀ s ∈ d.samples, Table.Sorted s.leaves) →
      Definitions.ofDocument d.document = .ok d)
    ∧ ∀ (pattern model : String) (document output : Path) (v v' v'' : Bool) (fs : FileSystem),
      let inferred := Invocation.run ⟨.writeTypes pattern model document, v⟩ fs
      let direct := Invocation.run ⟨.writeSource (.samples pattern model) output, v'⟩ fs
      let through := Invocation.run ⟨.writeSource (.document document) output, v''⟩ inferred.fs
      inferred.code = 0 →
        ∃ d source, inferFiles fs pattern model = .ok d ∧ Schema.Source.render d = .ok source
          ∧ inferred.fs.readText? document = some d.document
          ∧ direct.Writes fs output source
          ∧ through.Writes inferred.fs output source := by
  refine ⟨fun d hd => Definitions.ofDocument_of_sorted hd, ?_⟩
  intro pattern model document output v v' v'' fs inferred direct through hinferred
  have hrun : onFiles (writeTypes pattern model document) fs = (.ok (), inferred.fs) :=
    Invocation.onFiles_of_code hinferred
  obtain ⟨d, hsamples, hfiles, hwritten⟩ := onFiles_writeTypes hrun
  obtain ⟨hsorted, source, hsource⟩ := Schema.inferFiles_of_ok hfiles
  have htext := readText?_of_writeOutput hwritten
  have hdirect : onFiles (definitionsOf (.samples pattern model)) fs = (.ok d, fs) := hsamples
  have hthrough : onFiles (definitionsOf (.document document)) inferred.fs
      = (.ok d, inferred.fs) := by
    have hload : Definitions.load inferred.fs document = .ok d := by
      rw [Definitions.load, htext]
      exact Definitions.ofDocument_of_sorted hsorted
    rw [definitionsOf, onFiles_fileSystem_bind, hload]
    rfl
  exact ⟨d, source, hfiles, hsource, htext,
    Outcome.writes_of_onFiles (onFiles_writeSource hdirect hsource output),
    Outcome.writes_of_onFiles (onFiles_writeSource hthrough hsource output)⟩

def peculiar : Definitions where
  types :=
    [{ name := "null",
       fields :=
        [{ name := "", kind := .object, objectName := some "~", isArray := true },
          { name := " a: #b\n", kind := .unknown, objectName := none, isArray := false }] },
      { name := "~", fields := [] }]
  samples := [{ file := "'é.json", rootModel := "12", leaves := [("", "yes"), ("\n x", "\"")] }]

def sampleDirectory : FileSystem where
  tree := .dir [("work", .dir [("a.json", .file "\x7b\"a\": [\x7b\"b\": null\x7d]\x7d".toUTF8)])]
  workDir := ["work"]

theorem peculiar_and_sample_kept :
    let inferred := Invocation.run ⟨.writeTypes "a.json" "null" "t.yaml", false⟩ sampleDirectory
    let direct := Invocation.run ⟨.writeSource (.samples "a.json" "null") "src/m.rs", true⟩
      sampleDirectory
    let through := Invocation.run ⟨.writeSource (.document "t.yaml") "src/m.rs", false⟩ inferred.fs
    Definitions.ofDocument peculiar.document = .ok peculiar
      ∧ ∃ d source, inferFiles sampleDirectory "a.json" "null" = .ok d
        ∧ Schema.Source.render d = .ok source
        ∧ inferred.fs.readText? "t.yaml" = some d.document
        ∧ direct.Writes sampleDirectory "src/m.rs" source
        ∧ through.Writes inferred.fs "src/m.rs" source := by
  intro inferred direct through
  constructor
  . refine document_loses_nothing.1 peculiar ?_
    unfold Table.Sorted
    decide
  . exact document_loses_nothing.2 "a.json" "null" "t.yaml" "src/m.rs" false true false
      sampleDirectory (by decide +kernel)

end Command
end FixtureLab

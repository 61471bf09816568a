import FixtureLab.Catalog.Scenarios
import FixtureLab.Command.Arguments
import FixtureLab.Command.Session
import FixtureLab.Schema.Files
import FixtureLab.Schema.Source

/-!
This module contains what the tasks do. The catalog is complete, and definitions are inferred and
rendered, before the first file is written.
-/

namespace FixtureLab
namespace Command

open Session

def fixtures : Session (Registry Unit Catalog.Fixture) := do
  let (result, registry) := Catalog.catalog .overwrite
  ofExcept (fun e => (Failure.ofRegistry e).within "failed to register fixtures") result
  return registry

def fixtureFiles (registry : Registry Unit Catalog.Fixture) (directory : Path) :
    Session (List (Path × String)) :=
  Catalog.testData.mapM fun (file, id) => do
    let fixture ← ofExcept (fun e => (Failure.ofRegistry e).within ("no fixture for " ++ file))
      (registry.get id)
    return (Path.join directory file, String.ofList (fixture.toJson.pretty ++ ['\n']))

def writeFixtures (directory : Path) : Session Unit := do
  let files ← fixtureFiles (← fixtures) directory
  makeDirs directory
  files.forM fun (path, text) => do
    say ("output " ++ path ++ " ...")
    writeFile path text
  say "Done"

def writeGraph (output : Path) (format : Graph.Format) : Session Unit := do
  let records := (← fixtures).records
  writeOutput output (String.ofList (Graph.render format records))
  let summary := Graph.Summary.of records
  say ("Wrote " ++ output ++ " (" ++ toString summary.nodes ++ " fixtures, " ++
    toString summary.edges ++ " edges)")
  say "Done"

def printUsages : Session Unit := do
  say (String.ofList (Graph.usages (← fixtures).records))
  say "Done"

def addFiles (inferrer : Schema.Inferrer) : List Path → Session Schema.Inferrer
  | [] => return inferrer
  | path :: rest => do
    say ("read " ++ path ++ " ...")
    let (result, inferrer) := inferrer.addFile (← fileSystem) path
    ofExcept (fun e => (Failure.ofSchema e).within ("failed to infer types from " ++ path)) result
    addFiles inferrer rest

def inferTypes (pattern model : String) : Session Schema.Definitions := do
  let paths ← ofExcept Failure.ofSchema ((← fileSystem).expand pattern)
  let inferrer ← ofExcept Failure.ofSchema (Schema.Inferrer.new model)
  return (← addFiles inferrer paths).finish

def writeTypes (pattern model : String) (output : Path) : Session Unit := do
  let definitions ← inferTypes pattern model
  writeOutput output definitions.document
  say ("Wrote " ++ output ++ " (" ++ toString definitions.types.length ++ " types from " ++
    toString definitions.samples.length ++ " files)")
  say "Done"

def definitionsOf : TypeOrigin → Session Schema.Definitions
  | .samples pattern model => inferTypes pattern model
  | .document path => do
    ofExcept (fun e => (Failure.ofSchema e).within ("failed to load " ++ path))
      (Schema.Definitions.load (← fileSystem) path)

def writeSource (origin : TypeOrigin) (output : Path) : Session Unit := do
  let definitions ← definitionsOf origin
  let source ← ofExcept (fun e => (Failure.ofSchema e).within "failed to generate Rust")
    (Schema.Source.render definitions)
  writeOutput output source
  say ("Wrote " ++ output ++ " (" ++ toString definitions.types.length ++ " structs)")
  say "Done"

def Task.run : Task → Session Unit
  | .writeFixtures directory => Command.writeFixtures directory
  | .writeGraph output format => Command.writeGraph output format
  | .printUsages => Command.printUsages
  | .writeTypes pattern model output => Command.writeTypes pattern model output
  | .writeSource origin output => Command.writeSource origin output

def Task.pattern? : Task → Option String
  | .writeTypes pattern _ _ => some pattern
  | .writeSource (.samples pattern _) _ => some pattern
  | _ => none

def Task.document? : Task → Option Path
  | .writeSource (.document path) _ => some path
  | _ => none

structure Outcome where
  code : Nat
  output : String := ""
  errors : String := ""
  fs : FileSystem

def versionLine : String := "forcedata 0.3.0\n"

def Desk.output (desk : Desk) : String := String.join (desk.printed.reverse.map (· ++ "\n"))

def Invocation.run (i : Invocation) (fs : FileSystem) : Outcome :=
  match (i.task.run.run).run { fs } with
  | (.ok _, desk) => { code := 0, output := desk.output, fs := desk.fs }
  | (.error f, desk) =>
    { code := 1, output := desk.output, errors := f.report i.verbose, fs := desk.fs }

def execute (args : List String) (fs : FileSystem) : Outcome :=
  match parse args with
  | .ok i => i.run fs
  | .error .misuse => { code := 2, fs }
  | .error .helpWanted => { code := 0, fs }
  | .error .versionWanted => { code := 0, output := versionLine, fs }

end Command
end FixtureLab

import FixtureLab.Json.Raw
import FixtureLab.Schema.Document
import FixtureLab.Schema.Infer
import FixtureLab.Tree.Expand

/-!
This module contains what is read from files: samples for the inference of record
types, and documents that hold type definitions.
-/

namespace FixtureLab
namespace Schema

def Inferrer.addFile (t : Inferrer) (fs : FileSystem) (path : Path) :
    Except Error Unit × Inferrer :=
  match fs.readText? path with
  | none => (.error (.unreadable path), t)
  | some text =>
    match Json.ofString? text with
    | none => (.error (.invalidJson path), t)
    | some v => t.addValue path v

def Inferrer.addFiles (t : Inferrer) (fs : FileSystem) : List Path → Except Error Inferrer
  | [] => .ok t
  | path :: rest =>
    match t.addFile fs path with
    | (.ok _, t) => addFiles t fs rest
    | (.error e, _) => .error e

def inferFiles (fs : FileSystem) (pattern model : String) : Except Error Definitions := do
  let t ← Inferrer.new model
  let paths ← fs.expand pattern
  return (← t.addFiles fs paths).finish

def Definitions.load (fs : FileSystem) (path : Path) : Except Error Definitions :=
  match fs.readText? path with
  | some text => Definitions.ofDocument text
  | none => .error (.unreadable path)

end Schema
end FixtureLab

import FixtureLab.Tree.Path

/-!
This module contains the errors of type inference and source generation, and their texts.
-/

namespace FixtureLab
namespace Schema

inductive Error where
  | invalidModel
  | unreadable (path : Path)
  | invalidJson (path : Path)
  | notAnObject (file : String) (place : String)
  | duplicateFile (name : String)
  | invalidDocument
  | missingObjectName (type field : String)
  | undefinedType (type field object : String)
  | invalidPattern (pattern : String)
  | unwalkable (root : Path)
  | noMatch (pattern : String)
deriving DecidableEq, Repr, Inhabited

namespace Error

def message : Error → String
  | .invalidModel => "model name must contain at least one letter or digit"
  | .unreadable path => "failed to read " ++ path
  | .invalidJson path => path ++ " is not valid JSON"
  | .notAnObject file place => file ++ ": expected a JSON object at `" ++ place ++ "`"
  | .duplicateFile name => "sample file name `" ++ name ++ "` is used more than once"
  | .invalidDocument => "invalid type definitions"
  | .missingObjectName type field =>
    "field `" ++ field ++ "` of `" ++ type ++ "` is an object but names no type"
  | .undefinedType type field object =>
    "field `" ++ field ++ "` of `" ++ type ++ "` refers to undefined type `" ++ object ++ "`"
  | .invalidPattern pattern => "invalid file pattern `" ++ pattern ++ "`"
  | .unwalkable root => "failed to walk " ++ root
  | .noMatch pattern => "no files match `" ++ pattern ++ "`"

def cause? : Error → Option String
  | .unreadable _ => some "the file cannot be read as text"
  | .invalidJson _ => some "the text is not JSON"
  | .invalidDocument => some "the text is not a type document"
  | .invalidPattern _ => some "the pattern is not a glob"
  | .unwalkable _ => some "the directory cannot be walked"
  | _ => none

end Error

end Schema
end FixtureLab

/-!
This module contains the errors of a fixture registry and their texts.
-/

namespace FixtureLab
namespace Registry

/--
Why an operation of the registry failed. A chain lists the identifiers that were under construction,
outermost first.
-/
inductive Error where
  | notRegistered (id : String) (chain : List String)
  | noActiveFrame (id : String)
  | alreadyRegistered (id : String)
  | cycle (id : String) (chain : List String)
  | typeMismatch (id : String) (expected : String) (chain : List String)
  | invalidId
deriving DecidableEq, Repr, Inhabited

namespace Error

def chainText (chain : List String) : String :=
  if chain.isEmpty then ""
  else " (while building " ++ " > ".intercalate chain ++ ")"

def message : Error → String
  | .notRegistered id chain => "`" ++ id ++ "` is not registered" ++ chainText chain
  | .noActiveFrame id => "`" ++ id ++ "` was fetched outside of a builder"
  | .alreadyRegistered id => "`" ++ id ++ "` is already registered"
  | .cycle id chain => "`" ++ id ++ "` references itself" ++ chainText chain
  | .typeMismatch id expected chain =>
    "`" ++ id ++ "` is not a " ++ expected ++ chainText chain
  | .invalidId => "data id must not be empty"

def id? : Error → Option String
  | .notRegistered id _ => some id
  | .noActiveFrame id => some id
  | .alreadyRegistered id => some id
  | .cycle id _ => some id
  | .typeMismatch id _ _ => some id
  | .invalidId => none

def chain? : Error → Option (List String)
  | .notRegistered _ chain => some chain
  | .cycle _ chain => some chain
  | .typeMismatch _ _ chain => some chain
  | _ => none

end Error

end Registry
end FixtureLab

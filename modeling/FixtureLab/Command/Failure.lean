import FixtureLab.Registry.Error
import FixtureLab.Schema.Error

/-!
This module contains the reports of failed tasks. A failure is a chain of texts that starts with
what was being done and goes on with the causes.
-/

namespace FixtureLab
namespace Command

structure Failure where
  message : String
  causes : List String := []
deriving DecidableEq, Repr

namespace Failure

def ofRegistry (e : Registry.Error) : Failure := { message := e.message }

def ofSchema (e : Schema.Error) : Failure := { message := e.message, causes := e.cause?.toList }

def within (context : String) (f : Failure) : Failure :=
  { message := context, causes := f.message :: f.causes }

def line (f : Failure) : String := ": ".intercalate ("error" :: f.message :: f.causes)

def indentLines (margin : String) (s : String) : String :=
  ("\n" ++ margin).intercalate (s.splitOn "\n")

def causeLines (causes : List String) : List String :=
  match causes with
  | [cause] => ["    " ++ indentLines "    " cause]
  | _ =>
    causes.mapIdx fun i cause =>
      let number := toString i
      "".pushn ' ' (5 - number.length) ++ number ++ ": " ++ indentLines "       " cause

def details (f : Failure) : String :=
  let head := "error: " ++ f.message
  if f.causes.isEmpty then head
  else "\n".intercalate (head :: "" :: "Caused by:" :: causeLines f.causes)

def report (verbose : Bool) (f : Failure) : String :=
  (if verbose then f.details else f.line) ++ "\n"

end Failure

end Command
end FixtureLab

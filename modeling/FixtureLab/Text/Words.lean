import FixtureLab.Text.Alphanumeric
import FixtureLab.Text.Case

/-!
This module contains the splitting of names into words, and the two ways in which words are joined
to a name again.
-/

namespace FixtureLab
namespace Text

inductive Mode where
  | boundary
  | lowercase
  | uppercase
deriving DecidableEq, Repr

def Mode.after (mode : Mode) (c : Char) : Mode :=
  if isLowercase c then .lowercase else if isUppercase c then .uppercase else mode

/--
Split a run of alphanumeric characters at its changes of case: before an upper-case character that
follows a lower-case one, and before the last upper-case character of several if a lower-case one
follows. `seen` is the current word in reverse order.
-/
def splitCase (mode : Mode) (seen : List Char) : List Char → List (List Char)
  | [] => if seen.isEmpty then [] else [seen.reverse]
  | [c] => [(c :: seen).reverse]
  | c :: next :: rest =>
    if mode.after c = .lowercase && isUppercase next then
      (c :: seen).reverse :: splitCase .boundary [] (next :: rest)
    else if mode = .uppercase && isUppercase c && isLowercase next then
      seen.reverse :: splitCase .boundary [c] (next :: rest)
    else splitCase (mode.after c) (c :: seen) (next :: rest)

def alphanumericRuns (seen : List Char) : List Char → List (List Char)
  | [] => if seen.isEmpty then [] else [seen.reverse]
  | c :: rest =>
    if isAlphanumeric c then alphanumericRuns (c :: seen) rest
    else if seen.isEmpty then alphanumericRuns [] rest
    else seen.reverse :: alphanumericRuns [] rest

def words (cs : List Char) : List (List Char) :=
  (alphanumericRuns [] cs).flatMap (splitCase .boundary [])

/-- A text in lower case. A capital sigma at its end becomes a final sigma. -/
def lowercase : List Char → List Char
  | [] => []
  | [c] => if c = 'Σ' then ['ς'] else toLower c
  | c :: rest => toLower c ++ lowercase rest

def capitalize : List Char → List Char
  | [] => []
  | c :: rest => toUpper c ++ lowercase rest

def snakeCase (s : String) : String :=
  String.ofList (['_'].intercalate ((words s.toList).map lowercase))

def upperCamelCase (s : String) : String :=
  String.ofList ((words s.toList).flatMap capitalize)

end Text
end FixtureLab

import FixtureLab.Yaml.Scalar

/-!
This module contains the text of a YAML document as it is read: its characters, each with its line
and column.
-/

namespace FixtureLab
namespace Yaml

structure Placed where
  char : Char
  line : Nat
  column : Nat
deriving DecidableEq, Repr

abbrev Source := List Placed

namespace Source

def normalize : List Char → List Char
  | [] => []
  | '\r' :: '\n' :: rest => '\n' :: normalize rest
  | c :: rest => (if c = '\r' || c.toNat = 0x85 then '\n' else c) :: normalize rest

def place (line column : Nat) : List Char → Source
  | [] => []
  | c :: rest =>
    ⟨c, line, column⟩ ::
      (if isBreak c then place (line + 1) 0 rest else place line (column + 1) rest)

def ofChars? (cs : List Char) : Option Source :=
  if cs.all isAllowed then some (place 0 0 (normalize cs)) else none

def startsWith (p : Char → Bool) : Source → Bool
  | [] => false
  | c :: _ => p c.char

def atLineEnd : Source → Bool
  | [] => true
  | c :: _ => isBreak c.char

def atSpace : Source → Bool
  | [] => true
  | c :: _ => isBlank c.char || isBreak c.char

def atMarker (mark : Char) : Source → Bool
  | a :: b :: c :: rest =>
    a.column = 0 && a.char = mark && b.char = mark && c.char = mark && atSpace rest
  | _ => false

def atDocumentEdge (s : Source) : Bool := atMarker '-' s || atMarker '.' s

def dropBlanks (s : Source) : Source := s.dropWhile (isBlank ·.char)

def dropLine (s : Source) : Source := s.dropWhile (!isBreak ·.char)

def endLine? (s : Source) : Option Source :=
  let s := dropBlanks s
  let s := if startsWith (· = '#') s then dropLine s else s
  if atLineEnd s then some (s.drop 1) else none

def isWordChar (c : Char) : Bool := c.isAlphanum || c = '_' || c = '-'

def word (s : Source) : List Char × Source :=
  ((s.takeWhile (isWordChar ·.char)).map (·.char), s.dropWhile (isWordChar ·.char))

end Source

end Yaml
end FixtureLab

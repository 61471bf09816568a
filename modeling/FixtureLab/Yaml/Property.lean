import FixtureLab.Yaml.Source

/-!
This module contains the reading of what can stand in front of a node or of a document: anchors,
tags and directives.
-/

namespace FixtureLab
namespace Yaml

structure Tag where
  handle : List Char
  suffix : List Char
deriving DecidableEq, Repr

inductive Directive where
  | version (major minor : Nat)
  | handle (name stem : List Char)
deriving DecidableEq, Repr

namespace Source

def endsAnchor (c : Char) : Bool := "?:,]\x7d%@\x60".toList.contains c

def anchorName? (s : Source) : Option (List Char × Source) :=
  let (name, rest) := word s
  if !name.isEmpty && (atSpace rest || startsWith endsAnchor rest) then some (name, rest) else none

def isTagChar (verbatim : Bool) (c : Char) : Bool :=
  isWordChar c || ";/?:@&=+$.%!~*\'()".toList.contains c || (verbatim && ",[]".toList.contains c)

def leadByte? (byte : Nat) : Option (Nat × Nat) :=
  if byte < 0x80 then some (0, byte)
  else if byte < 0xC0 then none
  else if byte < 0xE0 then some (1, byte % 0x20)
  else if byte < 0xF0 then some (2, byte % 0x10)
  else if byte < 0xF8 then some (3, byte % 8)
  else none

def hexByte? (a b : Char) : Option Nat :=
  match Scalar.digitValue? a, Scalar.digitValue? b with
  | some a, some b => some (a * 16 + b)
  | _, _ => none

/--
Read the text of a tag. A percent sign with two hexadecimal digits stands for a byte of UTF-8. There
are `more` bytes to come of a character with the code `code` so far.
-/
def tagText (verbatim : Bool) (more code : Nat) : Source → Option (List Char × Source)
  | [] => if more = 0 then some ([], []) else none
  | p :: q :: r :: rest =>
    if p.char = '%' then
      match hexByte? q.char r.char with
      | none => none
      | some byte =>
        if more = 0 then
          match leadByte? byte with
          | none => none
          | some (0, code) =>
            (tagText verbatim 0 0 rest).map fun (text, rest) => (Char.ofNat code :: text, rest)
          | some (more, code) => tagText verbatim more code rest
        else if 0x80 ≤ byte && byte < 0xC0 then
          let code := code * 0x40 + byte % 0x40
          if more = 1 then
            (tagText verbatim 0 0 rest).map fun (text, rest) => (Char.ofNat code :: text, rest)
          else tagText verbatim (more - 1) code rest
        else none
    else if more = 0 then
      if isTagChar verbatim p.char then
        (tagText verbatim 0 0 (q :: r :: rest)).map fun (text, rest) => (p.char :: text, rest)
      else some ([], p :: q :: r :: rest)
    else none
  | p :: rest =>
    if p.char = '%' || more != 0 then none
    else if isTagChar verbatim p.char then
      (tagText verbatim 0 0 rest).map fun (text, rest) => (p.char :: text, rest)
    else some ([], p :: rest)

def tagText? (verbatim : Bool) (s : Source) : Option (List Char × Source) :=
  match tagText verbatim 0 0 s with
  | some ([], _) => none
  | result => result

def tagBody? (s : Source) : Option (Tag × Source) :=
  if startsWith (· = '<') s then do
    let (suffix, s) ← tagText? true (s.drop 1)
    if startsWith (· = '>') s then some (⟨[], suffix⟩, s.drop 1) else none
  else
    let (name, rest) := word s
    if startsWith (· = '!') rest then
      (tagText? false (rest.drop 1)).map fun (suffix, s) => (⟨'!' :: name ++ ['!'], suffix⟩, s)
    else
      (tagText false 0 0 rest).map fun (suffix, s) =>
        if (name ++ suffix).isEmpty then (⟨[], ['!']⟩, s) else (⟨['!'], name ++ suffix⟩, s)

def tag? (flow : Bool) (s : Source) : Option (Tag × Source) :=
  match tagBody? s with
  | some (tag, s) =>
    if atSpace s || (flow && startsWith (· = ',') s) then some (tag, s) else none
  | none => none

def versionNumber? (s : Source) : Option (Nat × Source) :=
  let digits := (s.takeWhile (·.char.isDigit)).map (·.char)
  if digits.isEmpty || 9 < digits.length then none
  else some (Literal.digitsValue 0 digits, s.drop digits.length)

def version? (s : Source) : Option (Directive × Source) := do
  let (major, s) ← versionNumber? (dropBlanks s)
  if !startsWith (· = '.') s then none
  let (minor, s) ← versionNumber? (s.drop 1)
  return (.version major minor, s)

def handle? (s : Source) : Option (Directive × Source) := do
  let s := dropBlanks s
  if !startsWith (· = '!') s then none
  let (name, s) := word (s.drop 1)
  let closed := startsWith (· = '!') s
  if !closed && !name.isEmpty then none
  let handle := '!' :: name ++ (if closed then ['!'] else [])
  let s := if closed then s.drop 1 else s
  if !startsWith isBlank s then none
  let (stem, s) ← tagText? true (dropBlanks s)
  if atSpace s then some (.handle handle stem, s) else none

def directive? (s : Source) : Option (Directive × Source) := do
  let (name, s) := word s
  if !atSpace s then none
  let (directive, s) ←
    if name = "YAML".toList then version? s
    else if name = "TAG".toList then handle? s
    else none
  return (directive, ← endLine? s)

end Source

end Yaml
end FixtureLab

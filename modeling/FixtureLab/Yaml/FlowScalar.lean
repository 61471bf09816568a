import FixtureLab.Yaml.Source

/-!
This module contains the reading of plain and quoted scalars. Where such a scalar goes on over
several lines, the blanks around a line break do not count, a single line break stands for a space,
and of several line breaks the first one does not count.
-/

namespace FixtureLab
namespace Yaml

inductive Gap where
  | blanks (text : List Char)
  -- The first break is missing if it was escaped.
  | breaks (first : Option Char) (others : List Char)
deriving DecidableEq, Repr

namespace Gap

def empty : Gap := .blanks []

def isEmpty : Gap → Bool
  | .blanks [] => true
  | _ => false

def isBroken : Gap → Bool
  | .blanks _ => false
  | .breaks .. => true

def add (c : Char) : Gap → Gap
  | .blanks text => if isBreak c then .breaks (some c) [] else .blanks (text ++ [c])
  | .breaks first others => .breaks first (if isBreak c then others ++ [c] else others)

def text : Gap → List Char
  | .blanks text => text
  | .breaks (some '\n') [] => [' ']
  | .breaks (some '\n') others => others
  | .breaks (some c) others => c :: others
  | .breaks none others => others

end Gap

namespace Source

def isFlowIndicator (c : Char) : Bool :=
  c = ',' || c = '[' || c = ']' || c = '\x7b' || c = '\x7d'

/--
Read a plain scalar. Outside of flow collections its later lines have to be indented at least by
`indent`. The result is its text, whether it ended behind a line break, and what follows.
-/
def plain (flow : Bool) (indent : Nat) (gap : Gap) : Source → Option (List Char × Bool × Source)
  | [] => some ([], gap.isBroken, [])
  | p :: rest =>
    if isBlank p.char || isBreak p.char then
      if p.char = '\t' && gap.isBroken && p.column < indent then none
      else plain flow indent (gap.add p.char) rest
    else if (!flow && gap.isBroken && p.column < indent) || (p.char = '#' && !gap.isEmpty) ||
        atDocumentEdge (p :: rest) then
      some ([], gap.isBroken, p :: rest)
    else if flow && p.char = ':' && startsWith (fun c => isFlowIndicator c || c = '?') rest then
      none
    else if (p.char = ':' && atSpace rest) || (flow && isFlowIndicator p.char) then
      some ([], gap.isBroken, p :: rest)
    else
      (plain flow indent .empty rest).map fun (text, broken, rest) =>
        (gap.text ++ p.char :: text, broken, rest)

def singleQuoted (gap : Gap) : Source → Option (List Char × Source)
  | [] => none
  | p :: rest =>
    if isBlank p.char || isBreak p.char then singleQuoted (gap.add p.char) rest
    else if atDocumentEdge (p :: rest) then none
    else if p.char = '\'' then
      match rest with
      | q :: rest =>
        if q.char = '\'' then
          (singleQuoted .empty rest).map fun (text, rest) => (gap.text ++ '\'' :: text, rest)
        else some (gap.text, q :: rest)
      | [] => some (gap.text, [])
    else
      (singleQuoted .empty rest).map fun (text, rest) => (gap.text ++ p.char :: text, rest)

def escape? (c : Char) : Option Char :=
  match c with
  | '0' => some '\x00'
  | 'a' => some '\x07'
  | 'b' => some '\x08'
  | 't' => some '\t'
  | '\t' => some '\t'
  | 'n' => some '\n'
  | 'v' => some '\x0b'
  | 'f' => some '\x0c'
  | 'r' => some '\r'
  | 'e' => some '\x1b'
  | ' ' => some ' '
  | '"' => some '"'
  | '/' => some '/'
  | '\\' => some '\\'
  | 'N' => some (Char.ofNat 0x85)
  | '_' => some (Char.ofNat 0xA0)
  | 'L' => some (Char.ofNat 0x2028)
  | 'P' => some (Char.ofNat 0x2029)
  | _ => none

def codeLength? (c : Char) : Option Nat :=
  match c with
  | 'x' => some 2
  | 'u' => some 4
  | 'U' => some 8
  | _ => none

def charOfCode? (n : Nat) : Option Char := if n.isValidChar then some (Char.ofNat n) else none

inductive Inside where
  | text (gap : Gap)
  | escape
  | code (digits value : Nat)
deriving DecidableEq, Repr

def doubleQuoted (inside : Inside) : Source → Option (List Char × Source)
  | [] => none
  | p :: rest =>
    match inside with
    | .text gap =>
      if isBlank p.char || isBreak p.char then doubleQuoted (.text (gap.add p.char)) rest
      else if atDocumentEdge (p :: rest) then none
      else if p.char = '"' then some (gap.text, rest)
      else if p.char = '\\' then
        (doubleQuoted .escape rest).map fun (text, rest) => (gap.text ++ text, rest)
      else
        (doubleQuoted (.text .empty) rest).map fun (text, rest) =>
          (gap.text ++ p.char :: text, rest)
    | .escape =>
      if isBreak p.char then doubleQuoted (.text (.breaks none [])) rest
      else
        match escape? p.char, codeLength? p.char with
        | some c, _ =>
          (doubleQuoted (.text .empty) rest).map fun (text, rest) => (c :: text, rest)
        | none, some digits => doubleQuoted (.code digits 0) rest
        | none, none => none
    | .code digits value =>
      match Scalar.digitValue? p.char with
      | none => none
      | some d =>
        let value := value * 16 + d
        if digits ≤ 1 then
          match charOfCode? value with
          | some c => (doubleQuoted (.text .empty) rest).map fun (text, rest) => (c :: text, rest)
          | none => none
        else doubleQuoted (.code (digits - 1) value) rest

end Source

end Yaml
end FixtureLab

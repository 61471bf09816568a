import FixtureLab.Yaml.Source

/-!
This module contains the reading of block scalars: literal ones, which keep their line breaks, and
folded ones, in which a single line break between two lines stands for a space.
-/

namespace FixtureLab
namespace Yaml

inductive Chomping where
  | strip
  | clip
  | keep
deriving DecidableEq, Repr

structure BlockHeader where
  chomping : Chomping := .clip
  increment : Option Nat := none
deriving DecidableEq, Repr

inductive BlockPlace where
  | line (startsBlank : Bool)
  -- Behind a line that started with a blank or not: its break, and those of empty lines.
  | gap (startsBlank : Bool) (first : List Char) (others : List Char)
deriving DecidableEq, Repr

namespace Source

def chomping? (c : Char) : Option Chomping :=
  match c with
  | '+' => some .keep
  | '-' => some .strip
  | _ => none

def increment? (c : Char) : Option Nat :=
  if c.isDigit && c != '0' then some (c.toNat - '0'.toNat) else none

def blockHeader? (s : Source) : Option (BlockHeader × Source) :=
  let c := (s.head?.map (·.char)).getD '\n'
  let d := ((s.drop 1).head?.map (·.char)).getD '\n'
  let (header, used) : BlockHeader × Nat :=
    match chomping? c, increment? c with
    | some chomping, _ =>
      match increment? d with
      | some n => (⟨chomping, some n⟩, 2)
      | none => (⟨chomping, none⟩, 1)
    | none, some n =>
      match chomping? d with
      | some chomping => (⟨chomping, some n⟩, 2)
      | none => (⟨.clip, some n⟩, 1)
    | none, none => (⟨.clip, none⟩, 0)
  (endLine? (s.drop used)).map fun s => (header, s)

/--
The column of the first line that is not empty, or the length of a longer empty line before it. No
tab may stand before that line's text.
-/
def detectIndent (longest : Nat) : Source → Option Nat
  | [] => some longest
  | p :: rest =>
    if p.char = ' ' then detectIndent longest rest
    else if p.char = '\t' then none
    else if isBreak p.char then detectIndent (max longest p.column) rest
    else some (max longest p.column)

def joinLines (folded afterBlank beforeBlank : Bool) (first others : List Char) : List Char :=
  if folded && first = ['\n'] && !afterBlank && !beforeBlank then
    if others.isEmpty then [' '] else others
  else first ++ others

def lastBreaks (chomping : Chomping) (first others : List Char) : List Char :=
  match chomping with
  | .strip => []
  | .clip => first
  | .keep => first ++ others

def blockLines (folded : Bool) (chomping : Chomping) (indent : Nat) (here : BlockPlace) :
    Source → Option (List Char × Source)
  | [] =>
    match here with
    | .line _ => some ([], [])
    | .gap _ first others => some (lastBreaks chomping first others, [])
  | p :: rest =>
    match here with
    | .line startsBlank =>
      if isBreak p.char then blockLines folded chomping indent (.gap startsBlank [p.char] []) rest
      else
        (blockLines folded chomping indent (.line startsBlank) rest).map fun (text, rest) =>
          (p.char :: text, rest)
    | .gap afterBlank first others =>
      if p.char = ' ' && p.column < indent then
        blockLines folded chomping indent (.gap afterBlank first others) rest
      else if p.char = '\t' && p.column < indent then none
      else if isBreak p.char then
        blockLines folded chomping indent (.gap afterBlank first (others ++ [p.char])) rest
      else if p.column = indent then
        let blank := isBlank p.char
        (blockLines folded chomping indent (.line blank) rest).map fun (text, rest) =>
          (joinLines folded afterBlank blank first others ++ p.char :: text, rest)
      else some (lastBreaks chomping first others, p :: rest)

def blockScalar (folded : Bool) (outer : Option Nat) (s : Source) :
    Option (List Char × Source) := do
  let (header, s) ← blockHeader? s
  let indent ←
    match header.increment with
    | some n => some (outer.getD 0 + n)
    | none =>
      (detectIndent 0 s).map fun found => max found (max 1 ((outer.map (· + 1)).getD 0))
  blockLines folded header.chomping indent (.gap false [] []) s

end Source

end Yaml
end FixtureLab

/-!
This module contains glob patterns: question marks, stars, classes in brackets, alternatives in
braces and escapes. Two stars that stand alone between slashes stand for any number of directories.
-/

namespace FixtureLab
namespace Glob

inductive Token where
  | char (c : Char)
  | any
  | star
  | leadingDirs
  | trailingDirs
  | innerDirs
  | set (negated : Bool) (ranges : List (Char × Char))
  | oneOf (alternatives : List (List Token))
deriving Repr

inductive Error where
  | unclosedSet
  | invalidRange (first last : Char)
  | unopenedAlternatives
  | unclosedAlternatives
  | danglingEscape
deriving DecidableEq, Repr

/--
What is read of a pattern. The sequences are in reverse order, and so are the tokens of each;
`opened` tells, for each open brace from the innermost on, how many sequences were begun before it.
-/
structure Reader where
  sequences : List (List Token)
  opened : List Nat
deriving Repr

namespace Reader

def push (r : Reader) (t : Token) : Reader :=
  match r.sequences with
  | seq :: rest => { r with sequences := (t :: seq) :: rest }
  | [] => r

def replaceLast (r : Reader) (f : Token → Token) : Reader :=
  match r.sequences with
  | (t :: seq) :: rest => { r with sequences := (f t :: seq) :: rest }
  | _ => r

def atStart (r : Reader) : Bool := (r.sequences.head?.map List.isEmpty).getD true

def openBrace (r : Reader) : Reader :=
  { sequences := [] :: r.sequences, opened := r.sequences.length :: r.opened }

def closeBrace (r : Reader) : Except Error Reader :=
  match r.opened with
  | [] => .error .unopenedAlternatives
  | n :: opened =>
    let inner := r.sequences.take (r.sequences.length - n)
    let outer := r.sequences.drop (r.sequences.length - n)
    .ok (push { sequences := outer, opened } (.oneOf (inner.reverse.map List.reverse)))

def comma (r : Reader) : Reader :=
  if r.opened.isEmpty then r.push (.char ',') else { r with sequences := [] :: r.sequences }

end Reader

structure SetReader where
  ranges : List (Char × Char)
  dash : Bool

def SetReader.extend (s : SetReader) (c : Char) : Except Error SetReader :=
  match s.ranges with
  | (first, _) :: rest =>
    if c < first then .error (.invalidRange first c)
    else .ok { ranges := (first, c) :: rest, dash := false }
  | [] => .ok { ranges := [(c, c)], dash := false }

/--
Read the ranges of a set up to its closing bracket. A bracket or a dash that comes first stands for
itself, and so does a dash that comes last. Returns the ranges and the rest of the text.
-/
def readSet (first : Bool) (s : SetReader) :
    List Char → Except Error (List (Char × Char) × List Char)
  | [] => .error .unclosedSet
  | c :: rest =>
    if c = ']' && !first then
      .ok ((if s.dash then ('-', '-') :: s.ranges else s.ranges).reverse, rest)
    else if c = '-' && !first && !s.dash then readSet false { s with dash := true } rest
    else if s.dash then
      match s.extend c with
      | .ok s => readSet false s rest
      | .error e => .error e
    else readSet false { s with ranges := (c, c) :: s.ranges } rest

inductive Stars where
  | plain
  | leading (slash : Bool)
  | inner
  | trailing

def classify (r : Reader) (before : Option Char) (rest : List Char) : Stars :=
  if r.atStart then
    match rest with
    | [] => .leading false
    | '/' :: _ => .leading true
    | _ => .plain
  else if before != some '/' && (r.opened.isEmpty || (before != some ',' && before != some '\x7b'))
  then .plain
  else
    match rest with
    | [] => .trailing
    | '/' :: _ => .inner
    | c :: _ => if (c = ',' || c = '\x7d') && !r.opened.isEmpty then .trailing else .plain

def directories (t : Token) : Token → Token
  | .leadingDirs => .leadingDirs
  | .trailingDirs => .trailingDirs
  | _ => t

def read (r : Reader) (before : Option Char) : Nat → List Char → Except Error Reader
  | _, [] => .ok r
  | 0, _ => .ok r
  | fuel + 1, c :: rest =>
    match c, rest with
    | '?', _ => read (r.push .any) (some c) fuel rest
    | '*', '*' :: rest =>
      match classify r before rest with
      | .plain => read ((r.push .star).push .star) (some '*') fuel rest
      | .leading slash =>
        read (r.push .leadingDirs) (some (if slash then '/' else '*')) fuel
          (if slash then rest.drop 1 else rest)
      | .inner => read (r.replaceLast (directories .innerDirs)) (some '/') fuel (rest.drop 1)
      | .trailing => read (r.replaceLast (directories .trailingDirs)) (some '*') fuel rest
    | '*', _ => read (r.push .star) (some c) fuel rest
    | '[', _ =>
      let negated := rest.head? = some '!' || rest.head? = some '^'
      let items := if negated then rest.drop 1 else rest
      match readSet true { ranges := [], dash := false } items with
      | .ok (ranges, rest) => read (r.push (.set negated ranges)) (some ']') fuel rest
      | .error e => .error e
    | '\x7b', _ => read r.openBrace (some c) fuel rest
    | '\x7d', _ =>
      match r.closeBrace with
      | .ok r => read r (some c) fuel rest
      | .error e => .error e
    | ',', _ => read r.comma (some c) fuel rest
    | '\\', d :: rest => read (r.push (.char d)) (some d) fuel rest
    | '\\', [] => .error .danglingEscape
    | _, _ => read (r.push (.char c)) (some c) fuel rest

def tokens (pattern : List Char) : Except Error (List Token) :=
  match read { sequences := [[]], opened := [] } none pattern.length pattern with
  | .error e => .error e
  | .ok r =>
    match r.sequences with
    | [seq] => .ok seq.reverse
    | _ => .error .unclosedAlternatives

end Glob
end FixtureLab

import FixtureLab.Glob.Pattern

/-!
This module contains the matching of paths against glob patterns. Paths are matched byte by byte,
and a pattern has to match a whole path.
-/

namespace FixtureLab
namespace Glob

def charBytes (c : Char) : List UInt8 := (String.singleton c).toUTF8.toList

def slash : UInt8 := 0x2F

def byteRanges (range : Char × Char) : List (UInt8 × UInt8) :=
  let first := charBytes range.1
  if range.1 = range.2 then first.map fun b => (b, b)
  else
    let last := charBytes range.2
    first.dropLast.map (fun b => (b, b)) ++
      [(first.getLast?.getD 0, last.head?.getD 0)] ++
      (last.drop 1).map fun b => (b, b)

def inSet (ranges : List (Char × Char)) (b : UInt8) : Bool :=
  (ranges.flatMap byteRanges).any fun (first, last) => first ≤ b && b ≤ last

def afterRun (p : UInt8 → Bool) : List UInt8 → List (List UInt8)
  | [] => [[]]
  | b :: rest => (b :: rest) :: (if p b then afterRun p rest else [])

def afterSlash : List UInt8 → List (List UInt8)
  | [] => []
  | b :: rest => if b = slash then rest :: afterSlash rest else afterSlash rest

def distinct (rests : List (List UInt8)) : List (List UInt8) := rests.eraseDups

mutual

def Token.isVoid : Token → Bool
  | .oneOf alternatives => allVoid alternatives
  | _ => false

def seqVoid : List Token → Bool
  | [] => true
  | t :: rest => t.isVoid && seqVoid rest

def allVoid : List (List Token) → Bool
  | [] => true
  | seq :: rest => seqVoid seq && allVoid rest

end

mutual

def Token.after : Token → List UInt8 → List (List UInt8)
  | .char c, text => if (charBytes c).isPrefixOf text then [text.drop (charBytes c).length] else []
  | .any, text =>
    match text with
    | b :: rest => if b != slash then [rest] else []
    | [] => []
  | .star, text => afterRun (· != slash) text
  | .leadingDirs, text => text :: afterSlash text
  | .trailingDirs, text =>
    match text with
    | b :: rest => if b = slash then afterRun (fun _ => true) rest else []
    | [] => []
  | .innerDirs, text =>
    match text with
    | b :: rest => if b = slash then rest :: afterSlash rest else []
    | [] => []
  | .set negated ranges, text =>
    match text with
    | b :: rest => if inSet ranges b != negated then [rest] else []
    | [] => []
  | .oneOf alternatives, text => if allVoid alternatives then [text] else afterAny alternatives text

def afterSeq : List Token → List (List UInt8) → List (List UInt8)
  | [], texts => texts
  | t :: rest, texts => afterSeq rest (distinct (texts.flatMap t.after))

def afterAny : List (List Token) → List UInt8 → List (List UInt8)
  | [], _ => []
  | seq :: rest, text =>
    (if seqVoid seq then [] else afterSeq seq [text]) ++ afterAny rest text

end

def isEverything : List Token → Bool
  | [.leadingDirs] => true
  | _ => false

def isMatch (pattern : List Token) (text : List UInt8) : Bool :=
  isEverything pattern || (afterSeq pattern [text]).any List.isEmpty

end Glob
end FixtureLab

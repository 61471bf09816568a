import FixtureLab.Decimal.Binary64

/-!
This module contains decimal number literals: their grammar, and what number a literal denotes. A
literal without fraction and exponent that fits 64 bits is an integer; all others are doubles,
scaled by one rounded power of ten from at most 64 bits of significant digits.
-/

namespace FixtureLab

structure Literal where
  negative : Bool
  whole : List Char
  fraction : Option (List Char)
  exponent : Option (Bool × List Char)
deriving DecidableEq, Repr

inductive Number where
  | int (value : Int)
  | float (value : Binary64)
deriving DecidableEq, Repr

namespace Literal

def digitValue (c : Char) : Nat := c.toNat - '0'.toNat

def digitsValue (acc : Nat) (digits : List Char) : Nat :=
  digits.foldl (fun n c => 10 * n + digitValue c) acc

def ofChars? (cs : List Char) : Option Literal :=
  let (negative, cs) := match cs with
    | '-' :: rest => (true, rest)
    | _ => (false, cs)
  let whole := cs.takeWhile Char.isDigit
  let cs := cs.dropWhile Char.isDigit
  if whole.isEmpty || (whole.head? == some '0' && whole.length != 1) then none
  else
    match fractionPart cs with
    | none => none
    | some (fraction, cs) =>
      match exponentPart cs with
      | none => none
      | some exponent => some { negative, whole, fraction, exponent }
where
  fractionPart : List Char → Option (Option (List Char) × List Char)
    | '.' :: rest =>
      let digits := rest.takeWhile Char.isDigit
      if digits.isEmpty then none else some (some digits, rest.dropWhile Char.isDigit)
    | cs => some (none, cs)
  exponentPart : List Char → Option (Option (Bool × List Char))
    | [] => some none
    | c :: rest =>
      if c = 'e' || c = 'E' then
        let (negative, digits) := match rest with
          | '+' :: digits => (false, digits)
          | '-' :: digits => (true, digits)
          | _ => (false, rest)
        if digits.isEmpty || !digits.all Char.isDigit then none else some (some (negative, digits))
      else none

def significandBound : Nat := 1 <<< 64

def absorb : Nat → List Char → Nat × List Char
  | significand, [] => (significand, [])
  | significand, c :: rest =>
    let next := 10 * significand + digitValue c
    if next < significandBound then absorb next rest else (significand, c :: rest)

def maxPower : Nat := 308

def powerOfTen (e : Nat) : Nat := Binary64.nearest (Nat.pow 10 e) 1

/--
Scale a magnitude by a power of ten, rounding after each step; `none` if the result is too large.
Negative exponents beyond `maxPower` are worked off in steps of `maxPower`.
-/
def scale (rank : Nat) (exponent : Int) : Option Nat :=
  match exponent with
  | .ofNat e =>
    if e ≤ maxPower then
      let scaled := Binary64.mulRank rank (powerOfTen e)
      if scaled < Binary64.infiniteRank then some scaled else none
    else if rank = 0 then some 0
    else none
  | .negSucc e => some (shrink rank (e + 1) 4)
where
  -- Four steps of `maxPower` bring every 64-bit significand to zero.
  shrink (rank e : Nat) : Nat → Nat
    | 0 => 0
    | steps + 1 =>
      if e ≤ maxPower then Binary64.divRank rank (powerOfTen e)
      else if rank = 0 then 0
      else shrink (Binary64.divRank rank (powerOfTen maxPower)) (e - maxPower) steps

def exponentBound : Nat := 1 <<< 31

def magnitude? (l : Literal) : Option Nat :=
  let (significand, dropped) := absorb 0 l.whole
  let (significand, unread) := absorb significand (l.fraction.getD [])
  let absorbed := (l.fraction.getD []).length - unread.length
  let start : Int := (dropped.length : Int) - (absorbed : Int)
  let rank := Binary64.nearest significand 1
  match l.exponent with
  | none => scale rank start
  | some (negative, digits) =>
    let e := digitsValue 0 digits
    if exponentBound ≤ e then
      if significand = 0 || negative then some 0 else none
    else scale rank (if negative then start - e else start + e)

/--
The number that a literal denotes, `none` if it is out of range. Negative zero and integers outside
the unsigned (or, when negative, the signed) 64-bit range are doubles.
-/
def number? (l : Literal) : Option Number :=
  let n := digitsValue 0 l.whole
  let isInt : Bool :=
    l.fraction.isNone && l.exponent.isNone &&
      (if l.negative then 0 < n && n ≤ 1 <<< 63 else n < 1 <<< 64)
  if isInt then some (.int (if l.negative then -(n : Int) else n))
  else l.magnitude?.map fun rank => .float { negative := l.negative, rank }

end Literal

end FixtureLab

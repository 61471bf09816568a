import FixtureLab.Decimal.Literal

/-!
This module contains what YAML scalars look like: the classes of characters that matter, and which
plain scalars stand for something else than a text.
-/

namespace FixtureLab
namespace Yaml

inductive Style where
  | plain
  | singleQuoted
  | doubleQuoted
  | literal
  | folded
deriving DecidableEq, Repr, Inhabited

def isBreak (c : Char) : Bool :=
  c = '\n' || c = '\r' || c.toNat = 0x85 || c.toNat = 0x2028 || c.toNat = 0x2029

def isBlank (c : Char) : Bool := c = ' ' || c = '\t'

def blankNext : List Char → Bool
  | [] => true
  | c :: _ => isBlank c || isBreak c || c.toNat = 0

def isPrintable (c : Char) : Bool :=
  let n := c.toNat
  n = 0x0A || (0x20 ≤ n && n ≤ 0x7E) || (0xA0 ≤ n && n ≤ 0xD7FF) ||
    (0xE000 ≤ n && n ≤ 0xFFFD && n != 0xFEFF) || 0x10000 ≤ n

def isAllowed (c : Char) : Bool :=
  let n := c.toNat
  n = 0x09 || n = 0x0D || n = 0x85 || isPrintable c

namespace Scalar

def isNull (cs : List Char) : Bool :=
  ["null", "Null", "NULL", "~"].any (·.toList = cs)

def bool? (cs : List Char) : Option Bool :=
  if ["true", "True", "TRUE"].any (·.toList = cs) then some true
  else if ["false", "False", "FALSE"].any (·.toList = cs) then some false
  else none

def dropPlus : List Char → List Char
  | '+' :: rest => rest
  | cs => cs

def startsWithSign (cs : List Char) : Bool := cs.head? = some '+' || cs.head? = some '-'

def digitValue? (c : Char) : Option Nat :=
  if c.isDigit then some (c.toNat - '0'.toNat)
  else if 'a' ≤ c && c ≤ 'f' then some (c.toNat - 'a'.toNat + 10)
  else if 'A' ≤ c && c ≤ 'F' then some (c.toNat - 'A'.toNat + 10)
  else none

def natInBase? (base : Nat) (cs : List Char) : Option Nat :=
  if cs.isEmpty then none
  else
    cs.foldlM (fun n c =>
      match digitValue? c with
      | some d => if d < base then some (n * base + d) else none
      | none => none) 0

def radix? : List Char → Option (Nat × List Char)
  | '0' :: 'x' :: rest => some (16, rest)
  | '0' :: 'o' :: rest => some (8, rest)
  | '0' :: 'b' :: rest => some (2, rest)
  | _ => none

def isZeroPadded (cs : List Char) : Bool :=
  match (if startsWithSign cs then cs.drop 1 else cs) with
  | '0' :: c :: rest => (c :: rest).all Char.isDigit
  | _ => false

def isUnsigned (cs : List Char) : Bool :=
  let digits := dropPlus cs
  let fits (n : Option Nat) : Bool := (n.map fun n => decide (n < 1 <<< 128)).getD false
  let inRadix :=
    match radix? digits with
    | some (base, rest) => fits (natInBase? base rest)
    | none => false
  inRadix || (!isZeroPadded cs && fits (natInBase? 10 digits))

def isNegative : List Char → Bool
  | '-' :: digits =>
    let fits (n : Option Nat) : Bool := (n.map fun n => decide (n ≤ 1 <<< 127)).getD false
    let inRadix :=
      match radix? digits with
      | some (base, rest) => fits (natInBase? base rest)
      | none => false
    inRadix || (!isZeroPadded ('-' :: digits) && fits (natInBase? 10 digits))
  | _ => false

def exponent? : List Char → Option Int
  | [] => some 0
  | c :: rest =>
    if c = 'e' || c = 'E' then
      let digits := if startsWithSign rest then rest.drop 1 else rest
      (natInBase? 10 digits).map fun n => if rest.head? = some '-' then -(n : Int) else n
    else none

def isFinite (digits : Nat) (exponent : Int) : Bool :=
  if digits = 0 then true
  else
    let place : Int := (Nat.toDigits 10 digits).length + exponent
    if 400 < place then false
    else if place < -400 then true
    else
      match exponent with
      | .ofNat e => Binary64.nearest (digits * Nat.pow 10 e) 1 < Binary64.infiniteRank
      | .negSucc e => Binary64.nearest digits (Nat.pow 10 (e + 1)) < Binary64.infiniteRank

def isDecimal (cs : List Char) : Bool :=
  let whole := cs.takeWhile Char.isDigit
  let rest := cs.dropWhile Char.isDigit
  let (fraction, rest) := match rest with
    | '.' :: rest => (rest.takeWhile Char.isDigit, rest.dropWhile Char.isDigit)
    | _ => ([], rest)
  let digits := whole ++ fraction
  match exponent? rest with
  | none => false
  | some e =>
    !digits.isEmpty && isFinite (Literal.digitsValue 0 digits) (e - (fraction.length : Int))

def isFloat (cs : List Char) : Bool :=
  let unsigned := dropPlus cs
  if cs.head? = some '+' && startsWithSign unsigned then false
  else if [".inf", ".Inf", ".INF"].any (·.toList = unsigned) then true
  else if ["-.inf", "-.Inf", "-.INF", ".nan", ".NaN", ".NAN"].any (·.toList = cs) then true
  else isDecimal (if startsWithSign unsigned then unsigned.drop 1 else unsigned)

def isPlainText (cs : List Char) : Bool :=
  !cs.isEmpty && !isNull cs && (bool? cs).isNone && !isUnsigned cs && !isNegative cs &&
    !isZeroPadded cs && !isFloat cs

end Scalar

end Yaml
end FixtureLab

import FixtureLab.Decimal.Binary64

/-!
This module contains the shortest decimal text of a double: the fewest digits that read back as the
same double, and of the decimals with that many digits the nearest one.
-/

namespace FixtureLab

structure Scientific where
  digits : Nat
  exponent : Int
deriving DecidableEq, Repr

namespace Binary64

def timesPowerOfTen (num den : Nat) : Int → Nat × Nat
  | .ofNat k => (num * Nat.pow 10 k, den)
  | .negSucc k => (num, den * Nat.pow 10 (k + 1))

/--
The reals that round to a double, in quarters of the distance to the next double: the double itself
is `mid`, and the ends belong to the interval iff `closed`.
-/
structure Interval where
  low : Nat
  mid : Nat
  high : Nat
  closed : Bool
deriving Repr

def interval (rank : Nat) : Interval :=
  let m := significand rank
  let narrow : Bool := m = leadingBit && 2 * leadingBit ≤ rank
  { low := 4 * m - (if narrow then 1 else 2)
    mid := 4 * m
    high := 4 * m + 2
    closed := m % 2 = 0 }

def quarter (rank : Nat) : Nat × Nat :=
  match exponent rank - 2 with
  | .ofNat e => (1 <<< e, 1)
  | .negSucc e => (1, 1 <<< (e + 1))

def decimalLength (n : Nat) : Nat := if n = 0 then 0 else (Nat.toDigits 10 n).length

def stripZeros : Nat → Nat → Int → Scientific
  | 0, n, e => ⟨n, e⟩
  | fuel + 1, n, e => if n % 10 = 0 && n != 0 then stripZeros fuel (n / 10) (e + 1) else ⟨n, e⟩

/--
The multiple of `10 ^ k` nearest to a double among those that read back as it, given as its factor.
Of two equally near ones it is the even one.
-/
def onGrid? (rank : Nat) (k : Int) : Option Nat :=
  let i := interval rank
  let (un, ud) := quarter rank
  -- A factor `d` stands for `d * step` quarters, where `step = sn / sd`.
  let (sn, sd) := timesPowerOfTen ud un k
  let lower := i.mid * sd / sn
  let inside (d : Nat) : Bool :=
    if i.closed then i.low * sd ≤ d * sn && d * sn ≤ i.high * sd
    else i.low * sd < d * sn && d * sn < i.high * sd
  let toLower := i.mid * sd - lower * sn
  let toUpper := (lower + 1) * sn - i.mid * sd
  match inside lower, inside (lower + 1) with
  | false, false => none
  | true, false => some lower
  | false, true => some (lower + 1)
  | true, true =>
    if toLower < toUpper then some lower
    else if toUpper < toLower then some (lower + 1)
    else if lower % 2 = 0 then some lower else some (lower + 1)

def decimalPoint (rank : Nat) : Int :=
  let (num, den) := ratio rank
  if den ≤ num then decimalLength (num / den)
  else
    1 - (decimalLength (den / num) : Int) +
      (if den % num = 0 && isPower (den / num) then 1 else 0)
where
  isPower (n : Nat) : Bool := n = Nat.pow 10 (decimalLength n - 1)

def shortest (rank : Nat) : Scientific :=
  let point := decimalPoint rank
  go rank point 1 17
where
  go (rank : Nat) (point : Int) (length : Nat) : Nat → Scientific
    | 0 => ⟨0, 0⟩
    | fuel + 1 =>
      let k := point - length
      match onGrid? rank k with
      | some d => if d = 0 then go rank point (length + 1) fuel else stripZeros 20 d k
      | none => go rank point (length + 1) fuel

structure FloatFormat where
  maxLeadingZeros : Int
  maxPlace : Int

def jsonFormat : FloatFormat := ⟨4, 16⟩

def text (format : FloatFormat) (x : Binary64) : List Char :=
  let sign := if x.negative then ['-'] else []
  if x.rank = 0 then sign ++ ['0', '.', '0']
  else
    let s := shortest x.rank
    let digits := Nat.toDigits 10 s.digits
    let place : Int := digits.length + s.exponent
    sign ++
      if 0 ≤ s.exponent && place ≤ format.maxPlace then
        digits ++ List.replicate s.exponent.toNat '0' ++ ['.', '0']
      else if 0 < place && place ≤ format.maxPlace then
        digits.take place.toNat ++ '.' :: digits.drop place.toNat
      else if -format.maxLeadingZeros ≤ place && place ≤ 0 then
        '0' :: '.' :: List.replicate (-place).toNat '0' ++ digits
      else
        digits.take 1 ++ (if digits.length = 1 then [] else '.' :: digits.drop 1) ++
          'e' :: (if 0 < place then '+' else '-') :: Nat.toDigits 10 (place - 1).natAbs

end Binary64

end FixtureLab

/-!
This module contains double-precision numbers as data, with rounding done in exact natural number
arithmetic. Infinities and NaN are not represented: a magnitude that is too large is refused.
-/

namespace FixtureLab

/--
A finite double: its sign, and the rank of its magnitude among the non-negative doubles. Rank 0 is
zero, rank 1 the smallest positive double, and each rank is followed by the next larger double.
-/
structure Binary64 where
  negative : Bool
  rank : Nat
deriving DecidableEq, Repr

namespace Binary64

def leadingBit : Nat := 1 <<< 52

def infiniteRank : Nat := 2047 * leadingBit

def significand (rank : Nat) : Nat :=
  if rank < leadingBit then rank else rank % leadingBit + leadingBit

def exponent (rank : Nat) : Int :=
  if rank < leadingBit then -1074 else (rank / leadingBit : Nat) - 1075

def ratio (rank : Nat) : Nat × Nat :=
  match exponent rank with
  | .ofNat e => (significand rank <<< e, 1)
  | .negSucc e => (significand rank, 1 <<< (e + 1))

def divNearest (num den : Nat) : Nat :=
  let q := num / den
  let r := num % den
  if 2 * r < den then q
  else if den < 2 * r then q + 1
  else if q % 2 = 0 then q else q + 1

/--
The rank of the double nearest to `num / den`; of two nearest ones that with the even significand.
Ranks from `infiniteRank` on mean that the quotient rounds to no finite double.
-/
def nearest (num den : Nat) : Nat :=
  if num = 0 then 0
  else
    let e : Int := (num.log2 : Int) - (den.log2 : Int)
    let below : Bool :=
      match e with
      | .ofNat e => num < den <<< e
      | .negSucc e => num <<< (e + 1) < den
    let q : Int := max (if below then e - 53 else e - 52) (-1074)
    let n :=
      match q with
      | .ofNat q => divNearest num (den <<< q)
      | .negSucc q => divNearest (num <<< (q + 1)) den
    (q + 1074).toNat * leadingBit + n

def mulRank (a b : Nat) : Nat :=
  let (an, ad) := ratio a
  let (bn, bd) := ratio b
  nearest (an * bn) (ad * bd)

def divRank (a b : Nat) : Nat :=
  let (an, ad) := ratio a
  let (bn, bd) := ratio b
  nearest (an * bd) (ad * bn)

end Binary64

end FixtureLab

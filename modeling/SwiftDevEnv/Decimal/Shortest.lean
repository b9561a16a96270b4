import SwiftDevEnv.Decimal.Binary64

/-!
# Shortest decimal digits of a binary64 number

A finite positive number `m · 2^e` stands for every real that rounds to it: the interval from
half-way to its lower neighbour to half-way to its upper neighbour, ends included when `m` is
even. The lower neighbour is half as far when the fraction is zero and the exponent is above
the least normal one. The shortest decimal for the number is the one with fewest significant
digits inside that interval; of several such, the one nearest the number, an exact tie going
to the even digit string.

The search runs over decimal grids `c · 10^k`, from a coarse grid down: the first grid that has
a point inside the interval gives the digit count, and on it the point nearest the number wins.
Everything is exact integer arithmetic on the interval ends scaled by four.
-/

namespace SwiftDevEnv.Decimal

/-- A decimal number `digits · 10^exponent`. -/
structure Scientific where
  digits : Nat
  exponent : Int
  deriving DecidableEq, Repr

namespace Binary64

/-- The rational `n · 2^q / 10^k` as a numerator and a denominator. -/
def gridRatio (n : Nat) (q k : Int) : Nat × Nat :=
  (n * Nat.pow 2 (max q 0).toNat * Nat.pow 10 (max (-k) 0).toNat,
    Nat.pow 2 (max (-q) 0).toNat * Nat.pow 10 (max k 0).toNat)

/-- The grid points `c` with `c · 10^k` inside the interval `[lo, hi] · 2^q` (ends included
when `closed`), as the least and the greatest such `c`. -/
def gridRange (lo hi : Nat) (q k : Int) (closed : Bool) : Nat × Nat :=
  let (al, bl) := gridRatio lo q k
  let (ah, bh) := gridRatio hi q k
  let cmin := if closed then (al + bl - 1) / bl else al / bl + 1
  let cmax := if closed then ah / bh else (ah - 1) / bh
  (cmin, cmax)

/-- The grid point nearest to `mid · 2^q`, a tie going to the even point, kept within the
given range. -/
def nearestOnGrid (mid : Nat) (q k : Int) (range : Nat × Nat) : Nat :=
  let (a, b) := gridRatio mid q k
  let c := a / b
  let r := a % b
  let c := if 2 * r > b || (2 * r == b && c % 2 == 1) then c + 1 else c
  if c < range.1 then range.1 else if c > range.2 then range.2 else c

/-- Searches grids `10^k` for `k` from `k` down, at most `fuel` of them, for the first one with
a point inside the interval. -/
def searchGrid (lo mid hi : Nat) (q : Int) (closed : Bool) : Nat → Int → Scientific
  | 0, k => ⟨nearestOnGrid mid q k (gridRange lo hi q k closed), k⟩
  | fuel + 1, k =>
    let range := gridRange lo hi q k closed
    if range.1 ≤ range.2 then ⟨nearestOnGrid mid q k range, k⟩
    else searchGrid lo mid hi q closed fuel (k - 1)

/-- The shortest decimal of a finite positive number; the sign is ignored and zero gives zero.
The search starts from the decimal exponent `(bits of hi + q) · 30103 / 100000 + 1`, an upper
bound: `10^k ≤ hi · 2^q` forces `k ≤ (bits of hi + q) · log₁₀ 2`, and `30103/100000 > log₁₀ 2`. -/
def shortest (x : Binary64) : Scientific :=
  if x.isZero then ⟨0, 0⟩
  else
    let m := x.significand
    let q := x.exponent - 2
    let lowerGap := if x.fraction == 0 && x.biasedExponent > 1 then 1 else 2
    let lo := 4 * m - lowerGap
    let mid := 4 * m
    let hi := 4 * m + 2
    let top : Int := ((bitLength hi : Int) + q) * 30103 / 100000 + 1
    searchGrid lo mid hi q (m % 2 == 0) 40 top

end Binary64

end SwiftDevEnv.Decimal

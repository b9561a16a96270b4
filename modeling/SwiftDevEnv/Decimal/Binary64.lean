/-!
# Binary64 numbers

Payloads carry floating-point numbers in the IEEE 754 binary64 format. A number is kept as its
bit pattern, so that two numbers are equal exactly when their bits are. This module splits a
pattern into sign, exponent and fraction, and builds the pattern nearest to a decimal number
`digits · 10^exponent`, ties going to the pattern with an even fraction, which is how decimal
text is read. Products and quotients of two numbers are rounded the same way.

Reading works in exact integer arithmetic: the quotient that fixes the 53 significant bits and
its remainder decide the rounding, so no step depends on a machine float operation.
-/

namespace SwiftDevEnv.Decimal

/-- An IEEE 754 binary64 number, held as its bit pattern. -/
structure Binary64 where
  bits : UInt64
  deriving DecidableEq, Repr, Inhabited

namespace Binary64

/-- The sign bit. -/
def negative (x : Binary64) : Bool :=
  (x.bits >>> 63) == 1

/-- The eleven exponent bits, with the bias still added. -/
def biasedExponent (x : Binary64) : Nat :=
  ((x.bits >>> 52) &&& 0x7FF).toNat

/-- The 52 fraction bits. -/
def fraction (x : Binary64) : Nat :=
  (x.bits &&& 0xFFFFFFFFFFFFF).toNat

/-- Infinities and NaNs have all exponent bits set; every other number is finite. -/
def isFinite (x : Binary64) : Bool :=
  x.biasedExponent != 0x7FF

/-- Positive or negative zero. -/
def isZero (x : Binary64) : Bool :=
  x.biasedExponent == 0 && x.fraction == 0

/-- The pattern with the given sign, biased exponent and fraction. -/
def ofParts (negative : Bool) (biased fraction : Nat) : Binary64 :=
  ⟨((if negative then 1 else 0 : UInt64) <<< 63) ||| ((biased % 2048).toUInt64 <<< 52) |||
    (fraction % Nat.pow 2 52).toUInt64⟩

/-- The integer significand of a finite number, hidden bit included. -/
def significand (x : Binary64) : Nat :=
  if x.biasedExponent == 0 then x.fraction else x.fraction + Nat.pow 2 52

/-- The power of two that scales the significand of a finite number. -/
def exponent (x : Binary64) : Int :=
  if x.biasedExponent == 0 then -1074 else (x.biasedExponent : Int) - 1075

/-- Positive infinity. -/
def infinity : Binary64 := ofParts false 0x7FF 0

/-- The machine float with these bits. -/
def toFloat (x : Binary64) : Float := Float.ofBits x.bits

/-- The bits of a machine float. -/
def ofFloat (f : Float) : Binary64 := ⟨f.toBits⟩

/-- The number of binary digits of `n` (zero for zero). -/
def bitLength (n : Nat) : Nat :=
  if n = 0 then 0 else Nat.log2 n + 1

/-- The number of decimal digits of `n` (one for zero). -/
def decimalLength (n : Nat) : Nat :=
  (toString n).length

/-- The quotient `a / (b · 2^e)` as a pair of naturals, for any integer `e`. -/
def scaled (a b : Nat) (e : Int) : Nat × Nat :=
  if 0 ≤ e then (a, b * Nat.pow 2 e.toNat) else (a * Nat.pow 2 (-e).toNat, b)

/-- Rounds the positive quotient `a / b` to 53 significant bits, ties to even, and builds the
pattern; values beyond the largest finite number become infinity. -/
def ofRatio (negative : Bool) (a b : Nat) : Binary64 :=
  let t : Int := (bitLength a : Int) - bitLength b
  let e0 : Int := t - 53
  let (n0, d0) := scaled a b e0
  let e1 : Int := if n0 / d0 ≥ Nat.pow 2 53 then e0 + 1 else e0
  let e2 : Int := if e1 < -1074 then -1074 else e1
  let (n, d) := scaled a b e2
  let q := n / d
  let r := n % d
  let up := 2 * r > d || (2 * r == d && q % 2 == 1)
  let q1 := if up then q + 1 else q
  let (q2, e3) := if q1 == Nat.pow 2 53 then (Nat.pow 2 52, e2 + 1) else (q1, e2)
  if q2 < Nat.pow 2 52 then ofParts negative 0 q2
  else if e3 + 1075 ≥ 2047 then ofParts negative 0x7FF 0
  else ofParts negative (e3 + 1075).toNat (q2 - Nat.pow 2 52)

/-- The pattern nearest to `± digits · 10^exp10`, ties to even. -/
def ofDecimal (negative : Bool) (digits : Nat) (exp10 : Int) : Binary64 :=
  if digits = 0 then ofParts negative 0 0
  else
    let magnitude : Int := (decimalLength digits : Int) + exp10
    if magnitude > 310 then ofParts negative 0x7FF 0
    else if magnitude < -326 then ofParts negative 0 0
    else
      let a := digits * Nat.pow 10 (max exp10 0).toNat
      let b := Nat.pow 10 (max (-exp10) 0).toNat
      ofRatio negative a b

/-- The magnitude of a finite number as a quotient of naturals. -/
def ratio (x : Binary64) : Nat × Nat :=
  if 0 ≤ x.exponent then (x.significand * Nat.pow 2 x.exponent.toNat, 1)
  else (x.significand, Nat.pow 2 (-x.exponent).toNat)

/-- The nearest pattern to a natural number, ties to even. -/
def ofNat (n : Nat) : Binary64 :=
  if n = 0 then ofParts false 0 0 else ofRatio false n 1

/-- The product of two finite numbers, rounded to nearest, ties to even; a product beyond the
largest finite number is infinity. -/
def mul (x y : Binary64) : Binary64 :=
  let (a, b) := x.ratio
  let (c, d) := y.ratio
  let negative := x.negative != y.negative
  if a * c = 0 then ofParts negative 0 0 else ofRatio negative (a * c) (b * d)

/-- The quotient of two finite numbers, the divisor not zero, rounded to nearest, ties to
even. -/
def div (x y : Binary64) : Binary64 :=
  let (a, b) := x.ratio
  let (c, d) := y.ratio
  let negative := x.negative != y.negative
  if a = 0 || c = 0 then ofParts negative 0 0 else ofRatio negative (a * d) (b * c)

/-- The number with the sign flipped. -/
def neg (x : Binary64) : Binary64 := ⟨x.bits ^^^ ((1 : UInt64) <<< 63)⟩

end Binary64

end SwiftDevEnv.Decimal

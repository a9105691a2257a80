/-!
# Finite binary64 numbers

A number is kept as sign, mantissa and binary exponent, and every operation rounds an exact ratio of
natural numbers to the nearest representable number, a half to the even neighbour. So each result is
a definite value of the logic, whatever the hardware does.
-/

namespace WebScaffold

/-- The number `mantissa · 2 ^ exponent` with a sign, which zero has as well. -/
structure Binary64 where
  negative : Bool
  mantissa : Nat
  exponent : Int
deriving DecidableEq, Repr

namespace Binary64

/-- The exponent of the subnormal numbers, the finest grid there is. -/
def leastExponent : Int := -1074

def greatestExponent : Int := 971

/-- The quotient rounded to the nearest integer, a half to the even one. -/
def roundDiv (num den : Nat) : Nat :=
  let floor := num / den
  let twice := 2 * (num % den)
  if twice < den ∨ (twice = den ∧ floor % 2 = 0) then floor else floor + 1

/-- `num / den` as a ratio to `2 ^ exponent`. -/
def scaled (num den : Nat) (exponent : Int) : Nat × Nat :=
  if 0 ≤ exponent then (num, den * Nat.pow 2 exponent.toNat) else (num * Nat.pow 2 (-exponent).toNat, den)

/-- The exponent that gives `num / den` a mantissa of 53 bits, or the least one. -/
def fittingExponent (num den : Nat) : Int :=
  let guess : Int := (Nat.log2 num : Int) - Nat.log2 den - 52
  let (n, d) := scaled num den guess
  max leastExponent (if Nat.pow 2 52 * d ≤ n then guess else guess - 1)

/-- The number nearest to `num / den`, or `none` if that lies beyond the greatest finite one. -/
def ofRatio (negative : Bool) (num den : Nat) : Option Binary64 :=
  if num = 0 then some ⟨negative, 0, leastExponent⟩
  else
    let exponent := fittingExponent num den
    let (n, d) := scaled num den exponent
    let rounded := roundDiv n d
    let (mantissa, exponent) :=
      if rounded = Nat.pow 2 53 then (Nat.pow 2 52, exponent + 1) else (rounded, exponent)
    if exponent ≤ greatestExponent then some ⟨negative, mantissa, exponent⟩ else none

/-- The absolute value as a ratio of natural numbers. -/
def ratio (x : Binary64) : Nat × Nat :=
  if 0 ≤ x.exponent then (x.mantissa * Nat.pow 2 x.exponent.toNat, 1)
  else (x.mantissa, Nat.pow 2 (-x.exponent).toNat)

def isZero (x : Binary64) : Bool :=
  x.mantissa == 0

def neg (x : Binary64) : Binary64 :=
  { x with negative := !x.negative }

def mul? (x y : Binary64) : Option Binary64 :=
  ofRatio (x.negative != y.negative) (x.ratio.1 * y.ratio.1) (x.ratio.2 * y.ratio.2)

def div? (x y : Binary64) : Option Binary64 :=
  ofRatio (x.negative != y.negative) (x.ratio.1 * y.ratio.2) (x.ratio.2 * y.ratio.1)

def ofNat? (n : Nat) : Option Binary64 :=
  ofRatio false n 1

/-- The number nearest to `10 ^ k`, for `k` up to 308. -/
def powerOfTen? (k : Nat) : Option Binary64 :=
  ofNat? (Nat.pow 10 k)

end Binary64

end WebScaffold

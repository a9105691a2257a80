import WebScaffold.Decimal.Binary64

/-!
# Decimal literals

The parts of a decimal literal and the number it stands for. The digits are gathered in a 64-bit
significand; digits that no longer fit only move the decimal point. The significand is rounded
to binary64 and then scaled by one power of ten, so a long literal may be rounded twice.
-/

namespace WebScaffold.Decimal

/-- An optional sign, digits, and possibly digits after a point and an exponent. -/
structure Literal where
  negative : Bool
  whole : List Nat
  fraction : Option (List Nat)
  exponent : Option (Bool × List Nat)
deriving DecidableEq, Repr

def greatestSignificand : Nat := Nat.pow 2 64 - 1

/-- The greatest exponent that is told apart from infinity. -/
def greatestExponent : Nat := Nat.pow 2 31 - 1

/-- Appends digits to a significand as long as they fit; the second part counts the rest. -/
def gather (significand : Nat) : List Nat → Nat × Nat
  | [] => (significand, 0)
  | d :: ds =>
    if greatestSignificand < significand * 10 + d then (significand, ds.length + 1)
    else gather (significand * 10 + d) ds

/-- The natural number that the digits spell. -/
def ofDigits (ds : List Nat) : Nat :=
  ds.foldl (fun n d ↦ n * 10 + d) 0

/-- The significand of a literal and the power of ten that its digits leave. -/
def Literal.significand (l : Literal) : Nat × Int :=
  let (whole, dropped) := gather 0 l.whole
  let fraction := l.fraction.getD []
  let (all, ignored) := gather whole fraction
  (all, (dropped : Int) - (fraction.length - ignored : Nat))

/-- `significand · 10 ^ exponent`, by one division for a negative exponent and by one
multiplication for any other. Only exponents below -308 take a second division. -/
def scaleByTen (significand : Nat) (exponent : Int) : Option Binary64 := do
  let base ← Binary64.ofNat? significand
  if base.isZero then return base
  if 0 ≤ exponent then
    if 308 < exponent then none
    else base.mul? (← Binary64.powerOfTen? exponent.toNat)
  else
    let places := (-exponent).toNat
    if places ≤ 308 then base.div? (← Binary64.powerOfTen? places)
    else
      let first ← base.div? (← Binary64.powerOfTen? 308)
      if places ≤ 616 then first.div? (← Binary64.powerOfTen? (places - 308))
      else Binary64.ofNat? 0

/-- The binary64 number of a literal, or `none` if it is too great. -/
def Literal.real? (l : Literal) : Option Binary64 := do
  let (significand, exponent) := l.significand
  let magnitude ←
    match l.exponent with
    | none => scaleByTen significand exponent
    | some (down, digits) =>
      let power := ofDigits digits
      if greatestExponent < power then
        if significand ≠ 0 ∧ !down then none else Binary64.ofNat? 0
      else scaleByTen significand (if down then exponent - power else exponent + power)
  return if l.negative then magnitude.neg else magnitude

/-- The integer of a literal without fraction and exponent, if it fits 64 bits: unsigned without a
sign, signed with one. Negative zero is no integer. -/
def Literal.integer? (l : Literal) : Option Int :=
  if l.fraction.isSome || l.exponent.isSome then none
  else
    let value := ofDigits l.whole
    if l.negative then
      if 0 < value ∧ value ≤ Nat.pow 2 63 then some (-(value : Int)) else none
    else if value ≤ greatestSignificand then some value
    else none

end WebScaffold.Decimal

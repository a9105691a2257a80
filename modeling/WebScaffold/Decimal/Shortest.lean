import WebScaffold.Decimal.Binary64

/-!
# Shortest decimal text

A binary64 number is written with the fewest digits that read back as the same number, and among
those with the digits nearest to it. The text is positional for decimal exponents from -5 to 15 and
scientific beyond; it always shows a fraction or an exponent, so it never looks like an integer.
-/

namespace WebScaffold.Binary64

/-- Decimal digits and the power of ten of the last one. -/
structure Digits where
  digits : Nat
  exponent : Int
deriving DecidableEq, Repr

def digitCount (n : Nat) : Nat :=
  (Nat.toDigits 10 n).length

/-- The exponent of the first digit of the positive number `num / den`. -/
def decimalOrder (num den : Nat) : Int :=
  if den ≤ num then (digitCount (num / den) : Int) - 1
  else
    let places := digitCount (den / num)
    if den ≤ num * Nat.pow 10 (places - 1) then 1 - (places : Int) else -(places : Int)

/-- `num / den` as a ratio to `10 ^ exponent`. -/
def scaledByTen (num den : Nat) (exponent : Int) : Nat × Nat :=
  if 0 ≤ exponent then (num, den * Nat.pow 10 exponent.toNat) else (num * Nat.pow 10 (-exponent).toNat, den)

/-- The ends of the interval of reals that round to `x`, as ratios. A power of two is nearer to its
lower neighbour than to its upper one. -/
def bounds (x : Binary64) : (Nat × Nat) × (Nat × Nat) :=
  let edge (mantissa : Nat) (exponent : Int) := (Binary64.mk false mantissa exponent).ratio
  let below :=
    if x.mantissa = Nat.pow 2 52 ∧ leastExponent < x.exponent then
      edge (4 * x.mantissa - 1) (x.exponent - 2)
    else edge (2 * x.mantissa - 1) (x.exponent - 1)
  (below, edge (2 * x.mantissa + 1) (x.exponent - 1))

/-- Whether `digits · 10 ^ exponent` rounds to `x`; the ends of the interval do so for an even
mantissa. -/
def readsBack (x : Binary64) (candidate : Digits) : Bool :=
  let ((lowNum, lowDen), (highNum, highDen)) := x.bounds
  let (n, d) :=
    if 0 ≤ candidate.exponent then (candidate.digits * Nat.pow 10 candidate.exponent.toNat, 1)
    else (candidate.digits, Nat.pow 10 (-candidate.exponent).toNat)
  if x.mantissa % 2 = 0 then lowNum * d ≤ n * lowDen && n * highDen ≤ highNum * d
  else lowNum * d < n * lowDen && n * highDen < highNum * d

/-- The neighbours of `x` on the grid of `10 ^ exponent` that read back, the nearer first. -/
def candidates (x : Binary64) (exponent : Int) : List Digits :=
  let (n, d) := scaledByTen x.ratio.1 x.ratio.2 exponent
  let floor := n / d
  let twice := 2 * (n % d)
  let lower : Digits := ⟨floor, exponent⟩
  let upper : Digits := ⟨floor + 1, exponent⟩
  let ordered :=
    if twice < d ∨ (twice = d ∧ floor % 2 = 0) then [lower, upper] else [upper, lower]
  ordered.filter (x.readsBack ·)

/-- The first number of digits from `used` on, of which `more` are tried, that reads back. -/
def shortestFrom (x : Binary64) (order : Int) : Nat → Nat → Digits
  | 0, used => ⟨x.mantissa, used⟩
  | more + 1, used =>
    match x.candidates (order - used + 1) with
    | best :: _ => best
    | [] => shortestFrom x order more (used + 1)

/-- The fewest digits of a positive number; seventeen always suffice. -/
def shortest (x : Binary64) : Digits :=
  shortestFrom x (decimalOrder x.ratio.1 x.ratio.2) 17 1

/-- Digits without the zeros at their end. -/
def trimmedDigits (n : Nat) : List Char :=
  ((Nat.toDigits 10 n).reverse.dropWhile (· == '0')).reverse

/-- The text of a positive number from its digits and the place of the decimal point, counted from
the first digit. -/
def layout (digits : List Char) (point : Int) : List Char :=
  let zeros (n : Int) := List.replicate n.toNat '0'
  if (digits.length : Int) ≤ point ∧ point ≤ 16 then
    digits ++ zeros (point - digits.length) ++ ['.', '0']
  else if 0 < point ∧ point ≤ 16 then
    digits.take point.toNat ++ ['.'] ++ digits.drop point.toNat
  else if -5 < point ∧ point ≤ 0 then
    ['0', '.'] ++ zeros (-point) ++ digits
  else
    let fraction := if digits.length ≤ 1 then [] else '.' :: digits.drop 1
    let sign := if 0 ≤ point - 1 then '+' else '-'
    digits.take 1 ++ fraction ++ ['e', sign] ++ Nat.toDigits 10 (point - 1).natAbs

/-- The decimal text of a number. -/
def text (x : Binary64) : List Char :=
  let magnitude :=
    if x.isZero then ['0', '.', '0']
    else
      let found := x.shortest
      layout (trimmedDigits found.digits) (digitCount found.digits + found.exponent)
  if x.negative then '-' :: magnitude else magnitude

end WebScaffold.Binary64

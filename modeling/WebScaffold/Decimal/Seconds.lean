import WebScaffold.Decimal.Shortest

/-!
# Durations

A duration is kept in milliseconds and shown in seconds, as a binary64 number that is written
without an exponent and without a fraction that is zero.
-/

namespace WebScaffold

namespace Binary64

/-- The sum of two numbers that are not negative. -/
def addPositive? (x y : Binary64) : Option Binary64 :=
  ofRatio false (x.ratio.1 * y.ratio.2 + y.ratio.1 * x.ratio.2) (x.ratio.2 * y.ratio.2)

/-- The positional text of digits, with the decimal point counted from the first one. -/
def plainLayout (digits : List Char) (point : Int) : List Char :=
  let zeros (n : Int) := List.replicate n.toNat '0'
  if (digits.length : Int) ≤ point then digits ++ zeros (point - digits.length)
  else if 0 < point then digits.take point.toNat ++ ['.'] ++ digits.drop point.toNat
  else ['0', '.'] ++ zeros (-point) ++ digits

/-- The positional text of a number that is not negative. -/
def plainText (x : Binary64) : List Char :=
  if x.isZero then ['0']
  else
    let found := x.shortest
    plainLayout (trimmedDigits found.digits) (digitCount found.digits + found.exponent)

end Binary64

/-- The seconds of a duration: the whole ones and the rest, added up. -/
def secondsOf? (milliseconds : Nat) : Option Binary64 := do
  let whole ← Binary64.ofNat? (milliseconds / 1000)
  let rest ← Binary64.ofRatio false (milliseconds % 1000) 1000
  whole.addPositive? rest

def secondsText (milliseconds : Nat) : String :=
  match secondsOf? milliseconds with
  | some x => String.ofList x.plainText
  | none => ""

end WebScaffold

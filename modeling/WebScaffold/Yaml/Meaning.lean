import WebScaffold.Decimal.Binary64
import WebScaffold.Yaml.Scalar

/-!
# The meaning of plain scalars

A scalar without quotes and without a tag may be null, a truth value or a number; anything else is a
text. Numbers that look like digits padded with zeros are texts. A number too great for sixteen
bytes is a real number; a smaller one that does not fit eight bytes has no meaning at all.
-/

namespace WebScaffold.Yaml

inductive Meaning where
  | null
  | bool (value : Bool)
  | integer (value : Int)
  /-- An integer that fits sixteen bytes but not eight. -/
  | hugeInteger
  | real (value : Binary64)
  /-- An infinity, or what is not a number. -/
  | notFinite
  | text
deriving DecidableEq, Repr

def isNullText (text : String) : Bool :=
  text ∈ ["null", "Null", "NULL", "~"]

def boolOf? (text : String) : Option Bool :=
  if text ∈ ["true", "True", "TRUE"] then some true
  else if text ∈ ["false", "False", "FALSE"] then some false
  else none

/-! ## Integers -/

def digitValue? (radix : Nat) (c : Char) : Option Nat :=
  (hexDigit? c).filter (· < radix)

/-- The number that digits spell; there must be one at least. -/
def digitsValue? (radix : Nat) (cs : List Char) : Option Nat := do
  if cs.isEmpty then none
  let digits ← cs.mapM (digitValue? radix)
  return digits.foldl (fun n d ↦ n * radix + d) 0

/-- What is left of a number without its sign. -/
def unsigned : List Char → List Char
  | c :: cs => if c = '-' ∨ c = '+' then cs else c :: cs
  | [] => []

/-- Whether a text is a number with needless zeros in front. -/
def isPadded (cs : List Char) : Bool :=
  match unsigned cs with
  | '0' :: rest => !rest.isEmpty && rest.all Char.isDigit
  | _ => false

/-- A number without a sign: in base 16, 8 or 2 behind the mark of the base, or in base 10. -/
def magnitude? : List Char → Option Nat
  | '0' :: 'x' :: cs => digitsValue? 16 cs
  | '0' :: 'o' :: cs => digitsValue? 8 cs
  | '0' :: 'b' :: cs => digitsValue? 2 cs
  | cs => digitsValue? 10 cs

/-- A number that is not negative. -/
def natural? (cs : List Char) : Option Nat :=
  if isPadded cs then none
  else
    match cs with
    | '+' :: cs => magnitude? cs
    | cs => magnitude? cs

def integer? (cs : List Char) : Option Int :=
  match cs with
  | '-' :: digits => if isPadded cs then none else (magnitude? digits).map fun n ↦ -(n : Int)
  | cs => (natural? cs).map Int.ofNat

def fitsEightBytes (i : Int) : Bool :=
  -Int.pow 2 63 ≤ i && i < Int.pow 2 64

def fitsSixteenBytes (i : Int) : Bool :=
  -Int.pow 2 127 ≤ i && i < Int.pow 2 128

/-! ## Real numbers -/

/-- A decimal number: its digits, and the power of ten of the last one. -/
structure DecimalText where
  digits : Nat
  count : Nat
  exponent : Int

def naturalOf (cs : List Char) : Nat :=
  cs.foldl (fun n c ↦ n * 10 + (c.toNat - '0'.toNat)) 0

/-- The exponent behind the digits of a number; there is none at the end of the text. -/
def exponentOf? : List Char → Option Int
  | [] => some 0
  | c :: cs =>
    if c = 'e' ∨ c = 'E' then
      let digits := unsigned cs
      if digits.isEmpty || !digits.all Char.isDigit then none
      else if cs.head? = some '-' then some (-(naturalOf digits : Int))
      else some (naturalOf digits)
    else none

/-- A decimal number without a sign; digits may be missing on one side of the point. -/
def decimalText? (cs : List Char) : Option DecimalText := do
  let whole := cs.takeWhile Char.isDigit
  let rest := cs.dropWhile Char.isDigit
  let (fraction, rest) :=
    match rest with
    | '.' :: more => (more.takeWhile Char.isDigit, more.dropWhile Char.isDigit)
    | rest => ([], rest)
  let digits := whole ++ fraction
  if digits.isEmpty then none
  let exponent ← exponentOf? rest
  return ⟨naturalOf digits, digits.length, exponent - fraction.length⟩

/-- The nearest number, unless that is infinite. Exponents far out of range need no computing. -/
def DecimalText.value? (decimal : DecimalText) (negative : Bool) : Option Binary64 :=
  if decimal.digits = 0 ∨ decimal.exponent + decimal.count < -400 then Binary64.ofRatio negative 0 1
  else if 400 < decimal.exponent then none
  else if 0 ≤ decimal.exponent then
    Binary64.ofRatio negative (decimal.digits * Nat.pow 10 decimal.exponent.toNat) 1
  else Binary64.ofRatio negative decimal.digits (Nat.pow 10 (-decimal.exponent).toNat)

def isInfinityText (text : String) : Bool :=
  text ∈ [".inf", ".Inf", ".INF", "+.inf", "+.Inf", "+.INF", "-.inf", "-.Inf", "-.INF"]

def isNanText (text : String) : Bool :=
  text ∈ [".nan", ".NaN", ".NAN"]

/-- The meaning of a text as a real number, if it is one. -/
def realMeaning? (text : String) : Option Meaning :=
  if isInfinityText text || isNanText text then some .notFinite
  else
    let cs := text.toList
    (decimalText? (unsigned cs)).bind fun decimal ↦
      (decimal.value? (cs.head? == some '-')).map .real

/-! ## Scalars -/

/-- The meaning of an integer, unless it is too great to be one. -/
def integerMeaning? (text : String) : Option Meaning :=
  match integer? text.toList with
  | some i =>
    if fitsEightBytes i then some (.integer i)
    else if fitsSixteenBytes i then some .hugeInteger
    else none
  | none => none

def plainMeaning (text : String) : Meaning :=
  if text = "" ∨ isNullText text then .null
  else
    match boolOf? text, integerMeaning? text with
    | some b, _ => .bool b
    | none, some meaning => meaning
    | none, none =>
      if isPadded text.toList then .text else (realMeaning? text).getD .text

end WebScaffold.Yaml

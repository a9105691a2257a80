import WebScaffold.Decimal.Literal
import WebScaffold.Json.Mismatch

/-!
# Reading Json

A strict reader of Json text. It works on the characters that are left and never looks at a
position; a failure keeps what was left when it arose, and the line and the column are counted
afterwards from the text that had been consumed. Columns count bytes of the text.
-/

namespace WebScaffold.Json

/-- Why a text is not Json. -/
inductive Fault where
  | endInValue
  | endInList
  | endInObject
  | endInString
  | expectedValue
  | expectedIdent
  | expectedColon
  | expectedListEnd
  | expectedObjectEnd
  | keyNotString
  | invalidNumber
  | numberOutOfRange
  | invalidEscape
  | endOfHexEscape
  | loneSurrogate
  | controlCharacter
  | trailingComma
  | trailingCharacters
  | tooDeep
  /-- Well-formed so far, but not a value of the type that is read. -/
  | mismatch (reason : Mismatch)
deriving DecidableEq, Repr

def Fault.message : Fault → String
  | .endInValue => "EOF while parsing a value"
  | .endInList => "EOF while parsing a list"
  | .endInObject => "EOF while parsing an object"
  | .endInString => "EOF while parsing a string"
  | .expectedValue => "expected value"
  | .expectedIdent => "expected ident"
  | .expectedColon => "expected `:`"
  | .expectedListEnd => "expected `,` or `]`"
  | .expectedObjectEnd => r"expected `,` or `}`"
  | .keyNotString => "key must be a string"
  | .invalidNumber => "invalid number"
  | .numberOutOfRange => "number out of range"
  | .invalidEscape => "invalid escape"
  | .endOfHexEscape => "unexpected end of hex escape"
  | .loneSurrogate => "lone leading surrogate in hex escape"
  | .controlCharacter => "control character (\\u0000-\\u001F) found while parsing a string"
  | .trailingComma => "trailing comma"
  | .trailingCharacters => "trailing characters"
  | .tooDeep => "recursion limit exceeded"
  | .mismatch reason => reason.message

/-- A fault found `bytes` bytes into the characters that are left. -/
structure Failure where
  fault : Fault
  rest : List Char
  bytes : Nat
deriving DecidableEq, Repr

/-- A result or a failure. What reads a value also gives the characters left after it. -/
abbrev Attempt := Except Failure

/-- Fails where the text has been consumed so far. -/
def failAt {α : Type} (fault : Fault) (rest : List Char) : Attempt α :=
  .error ⟨fault, rest, 0⟩

/-- Fails behind the next byte, if there is one. -/
def failBehind {α : Type} (fault : Fault) (rest : List Char) : Attempt α :=
  .error ⟨fault, rest, if rest.isEmpty then 0 else 1⟩

def isJsonBlank (c : Char) : Bool :=
  c == ' ' || c == '\n' || c == '\t' || c == '\r'

def skipBlanks (cs : List Char) : List Char :=
  cs.dropWhile isJsonBlank

/-! ## Words and numbers -/

/-- Takes the letters of a keyword off the text. -/
def readIdent : List Char → List Char → Attempt (List Char)
  | [], cs => .ok cs
  | _ :: _, [] => failAt .endInValue []
  | p :: word, c :: cs => if p = c then readIdent word cs else failBehind .expectedIdent (c :: cs)

def digitsOf (cs : List Char) : List Nat :=
  cs.map fun c ↦ c.toNat - '0'.toNat

/-- The digits at the front of the text and what follows them. -/
def spanDigits (cs : List Char) : List Char × List Char :=
  (cs.takeWhile Char.isDigit, cs.dropWhile Char.isDigit)

/-- The digits before the point: a zero alone or digits that begin with another one. -/
def readWhole : List Char → Attempt (List Char × List Char)
  | [] => failAt .endInValue []
  | '0' :: cs =>
    match cs with
    | c :: _ => if c.isDigit then failBehind .invalidNumber cs else .ok (['0'], cs)
    | [] => .ok (['0'], cs)
  | c :: cs => if c.isDigit then .ok (spanDigits (c :: cs)) else failBehind .invalidNumber (c :: cs)

def readFraction : List Char → Attempt (Option (List Char) × List Char)
  | '.' :: cs =>
    match spanDigits cs with
    | ([], []) => failAt .endInValue []
    | ([], rest) => failBehind .invalidNumber rest
    | (digits, rest) => .ok (some digits, rest)
  | cs => .ok (none, cs)

/-- The digits of an exponent, at least one. -/
def readPower (cs : List Char) : Attempt (List Char × List Char) :=
  match spanDigits cs with
  | ([], []) => failAt .endInValue []
  | ([], rest) => failBehind .invalidNumber rest
  | found => .ok found

/-- The exponent with its sign; the flag says that it is negative. -/
def readExponent : List Char → Attempt (Option (Bool × List Char) × List Char)
  | c :: cs =>
    if c = 'e' ∨ c = 'E' then do
      let (down, cs) :=
        match cs with
        | '+' :: cs => (false, cs)
        | '-' :: cs => (true, cs)
        | cs => (false, cs)
      let (digits, rest) ← readPower cs
      return (some (down, digits), rest)
    else .ok (none, c :: cs)
  | [] => .ok (none, [])

/-- What is left of the digits of an exponent once they exceed the greatest one. -/
def beyondGreatest (power : Nat) : List Char → List Char
  | [] => []
  | c :: cs =>
    let power := power * 10 + (c.toNat - '0'.toNat)
    if Decimal.greatestExponent < power then cs else beyondGreatest power cs

/-- A number, given the text behind its sign. -/
def readNumber (negative : Bool) (cs : List Char) : Attempt (JsonNumber × List Char) := do
  let (whole, cs) ← readWhole cs
  let (fraction, cs) ← readFraction cs
  let (exponent, rest) ← readExponent cs
  let literal : Decimal.Literal :=
    ⟨negative, digitsOf whole, fraction.map digitsOf,
      exponent.map fun (down, digits) ↦ (down, digitsOf digits)⟩
  match literal.integer? with
  | some i => return (.integer i, rest)
  | none =>
    match literal.real? with
    | some x => return (.real x, rest)
    | none =>
      match exponent with
      | some (_, digits) => failAt .numberOutOfRange (beyondGreatest 0 digits ++ rest)
      | none => failAt .numberOutOfRange rest

/-! ## Strings -/

def hexValue? (c : Char) : Option Nat :=
  if c.isDigit then some (c.toNat - '0'.toNat)
  else if 'a' ≤ c ∧ c ≤ 'f' then some (c.toNat - 'a'.toNat + 10)
  else if 'A' ≤ c ∧ c ≤ 'F' then some (c.toNat - 'A'.toNat + 10)
  else none

def byteLength (cs : List Char) : Nat :=
  cs.foldl (fun n c ↦ n + c.utf8Size) 0

/-- Four hexadecimal digits. Four bytes are consumed whatever they are. -/
def readHex (cs : List Char) : Attempt (Nat × List Char) :=
  let digits := cs.take 4
  match digits.mapM hexValue? with
  | some [a, b, c, d] => .ok (((a * 16 + b) * 16 + c) * 16 + d, cs.drop 4)
  | _ =>
    if byteLength digits < 4 then failAt .endInString []
    else .error ⟨.invalidEscape, cs, 4⟩

/-- The second half of a surrogate pair, whose first half is `high`. -/
def readLowSurrogate (high : Nat) : List Char → Attempt (Char × List Char)
  | [] => failAt .endInString []
  | '\\' :: [] => failAt .endInString []
  | '\\' :: 'u' :: cs => do
    let (low, rest) ← readHex cs
    if 0xDC00 ≤ low ∧ low ≤ 0xDFFF then
      return (Char.ofNat ((high - 0xD800) * 0x400 + (low - 0xDC00) + 0x10000), rest)
    else failAt .loneSurrogate rest
  | '\\' :: cs => failBehind .endOfHexEscape cs
  | cs => failBehind .endOfHexEscape cs

/-- The character behind a backslash and `u`. -/
def readUnicodeEscape (cs : List Char) : Attempt (Char × List Char) := do
  let (n, rest) ← readHex cs
  if 0xDC00 ≤ n ∧ n ≤ 0xDFFF then failAt .loneSurrogate rest
  else if 0xD800 ≤ n ∧ n ≤ 0xDBFF then readLowSurrogate n rest
  else return (Char.ofNat n, rest)

/-- The character behind a backslash. -/
def readEscape : List Char → Attempt (Char × List Char)
  | [] => failAt .endInString []
  | '"' :: cs => .ok ('"', cs)
  | '\\' :: cs => .ok ('\\', cs)
  | '/' :: cs => .ok ('/', cs)
  | 'b' :: cs => .ok ('\x08', cs)
  | 'f' :: cs => .ok ('\x0c', cs)
  | 'n' :: cs => .ok ('\n', cs)
  | 'r' :: cs => .ok ('\r', cs)
  | 't' :: cs => .ok ('\t', cs)
  | 'u' :: cs => readUnicodeEscape cs
  | cs => failBehind .invalidEscape cs

/-- The characters up to the closing quote; each takes at least one unit of `fuel`. -/
def readChars : Nat → List Char → Attempt (List Char × List Char)
  | 0, cs => failAt .endInString cs
  | _, [] => failAt .endInString []
  | _, '"' :: cs => .ok ([], cs)
  | fuel + 1, '\\' :: cs => do
    let (c, rest) ← readEscape cs
    let (tail, rest) ← readChars fuel rest
    return (c :: tail, rest)
  | fuel + 1, c :: cs =>
    if c.toNat < 0x20 then failBehind .controlCharacter (c :: cs)
    else do
      let (tail, rest) ← readChars fuel cs
      return (c :: tail, rest)

/-- A string, given the text behind its opening quote. -/
def readString (cs : List Char) : Attempt (String × List Char) := do
  let (chars, rest) ← readChars (cs.length + 1) cs
  return (String.ofList chars, rest)

/-! ## Lists and objects -/

/-- The items behind an item, up to the closing bracket. -/
def readMoreItems {α : Type} (item : List Char → Attempt (α × List Char)) :
    Nat → List Char → Attempt (List α × List Char)
  | 0, cs => failAt .endInList cs
  | fuel + 1, cs =>
    match skipBlanks cs with
    | [] => failAt .endInList []
    | ']' :: rest => .ok ([], rest)
    | ',' :: rest =>
      match skipBlanks rest with
      | [] => failAt .endInValue []
      | ']' :: rest => failBehind .trailingComma (']' :: rest)
      | rest => do
        let (x, rest) ← item rest
        let (xs, rest) ← readMoreItems item fuel rest
        return (x :: xs, rest)
    | rest => failBehind .expectedListEnd rest

/-- The items of a list, given the text behind the opening bracket. -/
def readItems {α : Type} (item : List Char → Attempt (α × List Char)) (cs : List Char) :
    Attempt (List α × List Char) :=
  match skipBlanks cs with
  | [] => failAt .endInList []
  | ']' :: rest => .ok ([], rest)
  | rest => do
    let (x, rest) ← item rest
    let (xs, rest) ← readMoreItems item (rest.length + 1) rest
    return (x :: xs, rest)

/-- A colon after blanks. -/
def readColon (cs : List Char) : Attempt (List Char) :=
  match skipBlanks cs with
  | [] => failAt .endInObject []
  | ':' :: rest => .ok rest
  | rest => failBehind .expectedColon rest

/-- A key, a colon and a value, given the text behind the key's opening quote. -/
def readMember {α : Type} (value : List Char → Attempt (α × List Char)) (cs : List Char) :
    Attempt ((String × α) × List Char) := do
  let (key, rest) ← readString cs
  let rest ← readColon rest
  let (v, rest) ← value rest
  return ((key, v), rest)

/-- The members behind a member, up to the closing brace. -/
def readMoreMembers {α : Type} (value : List Char → Attempt (α × List Char)) :
    Nat → List Char → Attempt (List (String × α) × List Char)
  | 0, cs => failAt .endInObject cs
  | fuel + 1, cs =>
    match skipBlanks cs with
    | [] => failAt .endInObject []
    | '}' :: rest => .ok ([], rest)
    | ',' :: rest =>
      match skipBlanks rest with
      | [] => failAt .endInValue []
      | '"' :: rest => do
        let (m, rest) ← readMember value rest
        let (ms, rest) ← readMoreMembers value fuel rest
        return (m :: ms, rest)
      | '}' :: rest => failBehind .trailingComma ('}' :: rest)
      | rest => failBehind .keyNotString rest
    | rest => failBehind .expectedObjectEnd rest

/-- The members of an object, given the text behind the opening brace. -/
def readMembers {α : Type} (value : List Char → Attempt (α × List Char)) (cs : List Char) :
    Attempt (List (String × α) × List Char) :=
  match skipBlanks cs with
  | [] => failAt .endInObject []
  | '}' :: rest => .ok ([], rest)
  | '"' :: rest => do
    let (m, rest) ← readMember value rest
    let (ms, rest) ← readMoreMembers value (rest.length + 1) rest
    return (m :: ms, rest)
  | rest => failBehind .keyNotString rest

/-! ## Values -/

/-- A value whose parts are read by `part?`; without it the value must be a scalar. -/
def readValueWith (part? : Option (List Char → Attempt (Json × List Char))) (cs : List Char) :
    Attempt (Json × List Char) :=
  match skipBlanks cs with
  | [] => failAt .endInValue []
  | 'n' :: rest => do
    let rest ← readIdent ['u', 'l', 'l'] rest
    return (null, rest)
  | 't' :: rest => do
    let rest ← readIdent ['r', 'u', 'e'] rest
    return (bool true, rest)
  | 'f' :: rest => do
    let rest ← readIdent ['a', 'l', 's', 'e'] rest
    return (bool false, rest)
  | '-' :: rest => do
    let (n, rest) ← readNumber true rest
    return (number n, rest)
  | '"' :: rest => do
    let (s, rest) ← readString rest
    return (string s, rest)
  | '[' :: rest =>
    match part? with
    | none => failBehind .tooDeep ('[' :: rest)
    | some part => do
      let (items, rest) ← readItems part rest
      return (array items, rest)
  | '{' :: rest =>
    match part? with
    | none => failBehind .tooDeep ('{' :: rest)
    | some part => do
      let (members, rest) ← readMembers part rest
      return (ofMembers members, rest)
  | c :: rest =>
    if c.isDigit then do
      let (n, rest) ← readNumber false (c :: rest)
      return (number n, rest)
    else failBehind .expectedValue (c :: rest)

/-- A value that nests at most `depth` levels of lists and objects. -/
def readValue : (depth : Nat) → List Char → Attempt (Json × List Char)
  | 0 => readValueWith none
  | depth + 1 => readValueWith (some (readValue depth))

/-- The levels of nesting that a text may have. -/
def nestingLimit : Nat := 127

/-- Only blanks may be left. -/
def expectEnd {α : Type} (found : Attempt (α × List Char)) : Attempt α := do
  let (x, rest) ← found
  match skipBlanks rest with
  | [] => return x
  | rest => failBehind .trailingCharacters rest

def readAll (cs : List Char) : Attempt Json :=
  expectEnd (readValue nestingLimit cs)

/-! ## Positions -/

/-- A line, counted from one, and a number of bytes on it. -/
structure Position where
  line : Nat
  column : Nat
deriving DecidableEq, Repr

def Position.advance (p : Position) (c : Char) : Position :=
  if c = '\n' then ⟨p.line + 1, 0⟩ else ⟨p.line, p.column + c.utf8Size⟩

/-- Moves on by bytes; the last character may be covered in part. -/
def Position.advanceBytes (p : Position) : Nat → List Char → Position
  | 0, _ => p
  | _, [] => p
  | bytes + 1, c :: cs =>
    if c.utf8Size ≤ bytes + 1 then (p.advance c).advanceBytes (bytes + 1 - c.utf8Size) cs
    else ⟨p.line, p.column + (bytes + 1)⟩
termination_by _ cs => cs.length

/-- Where a failure arose in the text that was read. -/
def Failure.position (failure : Failure) (text : List Char) : Position :=
  let consumed := text.take (text.length - failure.rest.length)
  (consumed.foldl Position.advance ⟨1, 0⟩).advanceBytes failure.bytes failure.rest

/-- A fault and its place in a text. -/
structure ReadError where
  fault : Fault
  position : Position
deriving DecidableEq, Repr

def ReadError.message (e : ReadError) : String :=
  e.fault.message ++ s!" at line {e.position.line} column {e.position.column}"

def Failure.locate (failure : Failure) (text : List Char) : ReadError :=
  ⟨failure.fault, failure.position text⟩

/-- The value that a text spells. -/
def parse (text : String) : Except ReadError Json :=
  (readAll text.toList).mapError (·.locate text.toList)

end WebScaffold.Json

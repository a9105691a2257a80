import WebScaffold.Json.Reader

/-!
# Skimming values

Passing over a value that nobody asked for. The brackets, the keys and the words have to be right,
but the value is not made: numbers may be out of range, escapes may stand for half a character, and
there is no limit to nesting, which is why the open brackets are kept in a list.
-/

namespace WebScaffold.Json

/-- Passes over the character behind a backslash. -/
def skimEscape : List Char → Attempt (List Char)
  | [] => failAt .endInString []
  | 'u' :: cs => do
    let (_, rest) ← readHex cs
    return rest
  | c :: cs =>
    if c ∈ ['"', '\\', '/', 'b', 'f', 'n', 'r', 't'] then .ok cs
    else failBehind .invalidEscape (c :: cs)

/-- Passes over a string behind its opening quote; each character takes a unit of `fuel`. -/
def skimString : Nat → List Char → Attempt (List Char)
  | 0, cs => failAt .endInString cs
  | _, [] => failAt .endInString []
  | _, '"' :: cs => .ok cs
  | fuel + 1, '\\' :: cs => do
    let rest ← skimEscape cs
    skimString fuel rest
  | fuel + 1, c :: cs =>
    if c.toNat < 0x20 then failAt .controlCharacter (c :: cs) else skimString fuel cs

def skimPower (cs : List Char) : Attempt (List Char) :=
  match spanDigits cs with
  | ([], rest) => failBehind .invalidNumber rest
  | (_, rest) => .ok rest

def skimExponent : List Char → Attempt (List Char)
  | c :: cs =>
    if c = 'e' ∨ c = 'E' then
      match cs with
      | '+' :: cs => skimPower cs
      | '-' :: cs => skimPower cs
      | cs => skimPower cs
    else .ok (c :: cs)
  | [] => .ok []

def skimFraction : List Char → Attempt (List Char)
  | '.' :: cs =>
    match spanDigits cs with
    | ([], rest) => failBehind .invalidNumber rest
    | (_, rest) => skimExponent rest
  | cs => skimExponent cs

/-- Passes over a number behind its sign. -/
def skimNumber : List Char → Attempt (List Char)
  | [] => failBehind .invalidNumber []
  | '0' :: cs =>
    match cs with
    | c :: _ => if c.isDigit then failBehind .invalidNumber cs else skimFraction cs
    | [] => skimFraction cs
  | c :: cs =>
    if c.isDigit then skimFraction (cs.dropWhile Char.isDigit)
    else failBehind .invalidNumber (c :: cs)

/-- A bracket that is open. -/
inductive Bracket where
  | list
  | object
deriving DecidableEq, Repr

namespace Bracket

def closer : Bracket → Char
  | list => ']'
  | object => '}'

def endFault : Bracket → Fault
  | list => .endInList
  | object => .endInObject

def separatorFault : Bracket → Fault
  | list => .expectedListEnd
  | object => .expectedObjectEnd

end Bracket

/-- Passes over a key and its colon in an object; lists have no keys. -/
def skimKey (bracket : Bracket) (cs : List Char) : Attempt (List Char) :=
  match bracket with
  | .list => .ok cs
  | .object =>
    match skipBlanks cs with
    | [] => failAt .endInObject []
    | '"' :: rest => do
      let rest ← skimString (rest.length + 1) rest
      readColon rest
    | rest => failBehind .keyNotString rest

/-- What comes after a value or after an opening bracket: the end, or another value in the bracket
that is open then. -/
def skimSeparator (afterValue : Bool) :
    List Bracket → List Char → Attempt (List Bracket × List Char)
  | [], cs => .ok ([], cs)
  | bracket :: outer, cs =>
    match skipBlanks cs with
    | [] => failAt bracket.endFault []
    | c :: rest =>
      if c = ',' ∧ afterValue then do
        let rest ← skimKey bracket rest
        return (bracket :: outer, rest)
      else if c = bracket.closer then skimSeparator true outer rest
      else if afterValue then failBehind bracket.separatorFault (c :: rest)
      else do
        let rest ← skimKey bracket (c :: rest)
        return (bracket :: outer, rest)

/-- Passes over a scalar or an opening bracket, which is given back. -/
def skimHead (cs : List Char) : Attempt (Option Bracket × List Char) :=
  match skipBlanks cs with
  | [] => failAt .endInValue []
  | 'n' :: rest => return (none, ← readIdent ['u', 'l', 'l'] rest)
  | 't' :: rest => return (none, ← readIdent ['r', 'u', 'e'] rest)
  | 'f' :: rest => return (none, ← readIdent ['a', 'l', 's', 'e'] rest)
  | '-' :: rest => return (none, ← skimNumber rest)
  | '"' :: rest => return (none, ← skimString (rest.length + 1) rest)
  | '[' :: rest => .ok (some .list, rest)
  | '{' :: rest => .ok (some .object, rest)
  | c :: rest =>
    if c.isDigit then return (none, ← skimNumber (c :: rest))
    else failBehind .expectedValue (c :: rest)

/-- Passes over values until no bracket is open; each value takes a unit of `fuel`. -/
def skimFrom : Nat → List Bracket → List Char → Attempt (List Char)
  | 0, _, cs => failAt .endInValue cs
  | fuel + 1, brackets, cs => do
    let (bracket?, rest) ← skimHead cs
    let (brackets, rest) ←
      match bracket? with
      | some bracket => skimSeparator false (bracket :: brackets) rest
      | none => skimSeparator true brackets rest
    if brackets.isEmpty then return rest else skimFrom fuel brackets rest

/-- What follows a value. -/
def skim (cs : List Char) : Attempt (List Char) :=
  skimFrom (cs.length + 1) [] cs

end WebScaffold.Json

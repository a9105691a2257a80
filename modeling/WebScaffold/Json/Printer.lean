import WebScaffold.Decimal.Shortest
import WebScaffold.Json.Basic

/-!
# Printing Json

The two layouts of a Json text: compact, without any blank, and pretty, with one item or member on
a line and two spaces of indentation for each level. Empty lists and objects stay on one line.
-/

namespace WebScaffold.Json

/-- The two digits of a control character's escape. -/
def hexPair (n : Nat) : List Char :=
  [Nat.digitChar (n / 16), Nat.digitChar (n % 16)]

/-- A character inside a string: quotes, backslashes and control characters are escaped. -/
def escapeChar (c : Char) : List Char :=
  match c with
  | '"' => ['\\', '"']
  | '\\' => ['\\', '\\']
  | '\x08' => ['\\', 'b']
  | '\x0c' => ['\\', 'f']
  | '\n' => ['\\', 'n']
  | '\r' => ['\\', 'r']
  | '\t' => ['\\', 't']
  | c => if c.toNat < 0x20 then ['\\', 'u', '0', '0'] ++ hexPair c.toNat else [c]

def escape (cs : List Char) : List Char :=
  cs.flatMap escapeChar

def printString (s : String) : List Char :=
  '"' :: escape s.toList ++ ['"']

def printNumber : JsonNumber → List Char
  | .integer i => (toString i).toList
  | .real x => x.text

def printScalar : Json → List Char
  | null => ['n', 'u', 'l', 'l']
  | bool true => ['t', 'r', 'u', 'e']
  | bool false => ['f', 'a', 'l', 's', 'e']
  | number n => printNumber n
  | string s => printString s
  | array _ => ['[', ']']
  | object _ => ['{', '}']

mutual

def printChars : Json → List Char
  | array (item :: items) => '[' :: printChars item ++ printItems items ++ [']']
  | object ((key, value) :: members) =>
    '{' :: printString key ++ ':' :: printChars value ++ printMembers members ++ ['}']
  | scalar => printScalar scalar

/-- The items after the first, each behind its comma. -/
def printItems : List Json → List Char
  | [] => []
  | item :: items => ',' :: printChars item ++ printItems items

def printMembers : List (String × Json) → List Char
  | [] => []
  | (key, value) :: members =>
    ',' :: printString key ++ ':' :: printChars value ++ printMembers members

end

/-- A line break and the indentation of a level. -/
def lineBreak (level : Nat) : List Char :=
  '\n' :: List.replicate (2 * level) ' '

mutual

def prettyChars (level : Nat) : Json → List Char
  | array (item :: items) =>
    '[' :: lineBreak (level + 1) ++ prettyChars (level + 1) item ++ prettyItems (level + 1) items ++
      lineBreak level ++ [']']
  | object ((key, value) :: members) =>
    '{' :: lineBreak (level + 1) ++ printString key ++ ':' :: ' ' ::
      prettyChars (level + 1) value ++ prettyMembers (level + 1) members ++ lineBreak level ++ ['}']
  | scalar => printScalar scalar

def prettyItems (level : Nat) : List Json → List Char
  | [] => []
  | item :: items => ',' :: lineBreak level ++ prettyChars level item ++ prettyItems level items

def prettyMembers (level : Nat) : List (String × Json) → List Char
  | [] => []
  | (key, value) :: members =>
    ',' :: lineBreak level ++ printString key ++ ':' :: ' ' :: prettyChars level value ++
      prettyMembers level members

end

def print (v : Json) : String :=
  String.ofList (printChars v)

def pretty (v : Json) : String :=
  String.ofList (prettyChars 0 v)

end WebScaffold.Json

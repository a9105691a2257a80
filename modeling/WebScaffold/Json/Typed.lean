import WebScaffold.Json.Decode
import WebScaffold.Json.Skim

/-!
# Reading records

Reading a record of a known type straight from a text. Only the members with known names are made
into values; the others are skimmed. A record may also be written as a list of its fields. What is
wrong about a record as a whole is told behind its end.
-/

namespace WebScaffold.Json

/-- Reads a value off the front of a text. -/
abbrev Reader (α : Type) := List Char → Attempt (α × List Char)

/-- Fails because of the value in front, which is not of the expected kind. -/
def failMismatch {α : Type} (expected : String) (cs : List Char) : Attempt α :=
  match cs with
  | '[' :: _ => failAt (.mismatch (.wrongType .sequence expected)) cs
  | '{' :: _ => failAt (.mismatch (.wrongType .map expected)) cs
  | _ => do
    let (v, rest) ← readValueWith none cs
    failAt (.mismatch (.wrongType v.found expected)) rest

def boolReader : Reader Bool := fun cs ↦
  match skipBlanks cs with
  | [] => failAt .endInValue []
  | 't' :: rest => return (true, ← readIdent ['r', 'u', 'e'] rest)
  | 'f' :: rest => return (false, ← readIdent ['a', 'l', 's', 'e'] rest)
  | rest => failMismatch "a boolean" rest

def textReader : Reader String := fun cs ↦
  match skipBlanks cs with
  | [] => failAt .endInValue []
  | '"' :: rest => readString rest
  | rest => failMismatch "a string" rest

/-- Null stands for an absent value. -/
def optionReader {α : Type} (value : Reader α) : Reader (Option α) := fun cs ↦
  match skipBlanks cs with
  | 'n' :: rest => return (none, ← readIdent ['u', 'l', 'l'] rest)
  | rest => do
    let (v, rest) ← value rest
    return (some v, rest)

def listReader {α : Type} (item : Reader α) : Reader (List α) := fun cs ↦
  match skipBlanks cs with
  | [] => failAt .endInValue []
  | '[' :: rest => readItems item rest
  | rest => failMismatch "a sequence" rest

/-- What is left behind the closing bracket, if that comes next. -/
def behindCloser (closer : Char) (cs : List Char) : List Char :=
  match skipBlanks cs with
  | c :: rest => if c = closer then rest else c :: rest
  | [] => []

/-- A record that is read field by field: the value of each field changes the record. -/
structure RecordReader (α : Type) where
  name : String
  fields : List (String × Reader (α → α))
  /-- The record before any field is read. -/
  start : α
  required : List String

namespace RecordReader

variable {α : Type} (type : RecordReader α)

def expectedLength : String :=
  let count := type.fields.length
  s!"struct {type.name} with {count} element" ++ if count = 1 then "" else "s"

/-- The record once its closing brace was read, if no required field is missing. -/
def finish (seen : List String) (record : α) (rest : List Char) : Attempt (α × List Char) :=
  match type.required.find? (· ∉ seen) with
  | some name => failAt (.mismatch (.missingField name)) rest
  | none => .ok (record, rest)

/-- The member behind the opening quote of its key. -/
def readEntry (seen : List String) (record : α) (cs : List Char) :
    Attempt ((List String × α) × List Char) := do
  let (key, rest) ← readString cs
  match type.fields.lookup key with
  | some field =>
    if key ∈ seen then failAt (.mismatch (.duplicateField key)) (behindCloser '}' rest)
    else
      let rest ← readColon rest
      let (change, rest) ← field rest
      return ((key :: seen, change record), rest)
  | none =>
    let rest ← readColon rest
    let rest ← skim rest
    return ((seen, record), rest)

/-- The members behind a member; each takes a unit of `fuel`. -/
def readMoreEntries : Nat → List String → α → Reader α
  | 0, _, _, cs => failAt .endInObject cs
  | fuel + 1, seen, record, cs =>
    match skipBlanks cs with
    | [] => failAt .endInObject []
    | '}' :: rest => type.finish seen record rest
    | ',' :: rest =>
      match skipBlanks rest with
      | [] => failAt .endInValue []
      | '"' :: rest => do
        let ((seen, record), rest) ← type.readEntry seen record rest
        readMoreEntries fuel seen record rest
      | '}' :: rest => failBehind .trailingComma ('}' :: rest)
      | rest => failBehind .keyNotString rest
    | rest => failBehind .expectedObjectEnd rest

/-- The record behind an opening brace. -/
def readEntries (cs : List Char) : Attempt (α × List Char) :=
  match skipBlanks cs with
  | [] => failAt .endInObject []
  | '}' :: rest => type.finish [] type.start rest
  | '"' :: rest => do
    let ((seen, record), rest) ← type.readEntry [] type.start rest
    type.readMoreEntries (rest.length + 1) seen record rest
  | rest => failBehind .keyNotString rest

/-- The closing bracket of a record that is written as a list. -/
def closeList (record : α) (cs : List Char) : Attempt (α × List Char) :=
  match skipBlanks cs with
  | [] => failAt .endInList []
  | ']' :: rest => .ok (record, rest)
  | ',' :: rest =>
    match skipBlanks rest with
    | ']' :: rest => failBehind .trailingComma (']' :: rest)
    | rest => failBehind .trailingCharacters rest
  | rest => failBehind .trailingCharacters rest

/-- The record of a list that ends before the given fields. -/
def finishShort (place : Nat) (fields : List (String × Reader (α → α))) (record : α)
    (rest : List Char) : Attempt (α × List Char) :=
  match fields.findIdx? (·.1 ∈ type.required) with
  | some missing =>
    failAt (.mismatch (.wrongLength (place + missing) type.expectedLength)) (behindCloser ']' rest)
  | none => closeList record rest

/-- The fields of a list from a place on. -/
def readPlaces (place : Nat) (record : α) :
    List (String × Reader (α → α)) → List Char → Attempt (α × List Char)
  | [], cs => closeList record cs
  | (name, field) :: fields, cs =>
    match skipBlanks cs with
    | [] => failAt .endInList []
    | ']' :: rest => type.finishShort place ((name, field) :: fields) record (']' :: rest)
    | c :: rest => do
      let rest ←
        if place = 0 then pure (c :: rest)
        else if c = ',' then
          match skipBlanks rest with
          | [] => failAt .endInValue []
          | ']' :: rest => failBehind .trailingComma (']' :: rest)
          | rest => pure rest
        else failBehind .expectedListEnd (c :: rest)
      let (change, rest) ← field rest
      readPlaces (place + 1) (change record) fields rest

def reader : Reader α := fun cs ↦
  match skipBlanks cs with
  | [] => failAt .endInValue []
  | '{' :: rest => type.readEntries rest
  | '[' :: rest => type.readPlaces 0 type.start type.fields rest
  | rest => failMismatch ("struct " ++ type.name) rest

end RecordReader

/-- The value that makes up a whole text. -/
def parseWith {α : Type} (reader : Reader α) (text : String) : Except ReadError α :=
  (expectEnd (reader text.toList)).mapError (·.locate text.toList)

end WebScaffold.Json

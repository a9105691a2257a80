import WebScaffold.Json.Mismatch
import WebScaffold.Variant

/-!
# Decoding values

From a Json value to a value of a given type, or the reason why there is none. A record is read from
an object by the names of its fields, or from a list by their order. All its fields are looked at
before the reason is chosen: the first wrong value in the order of the document wins over a missing
field, and of the missing fields the first one declared is named.
-/

namespace WebScaffold.Json

def decodeString : Json → Except Mismatch String
  | string s => .ok s
  | v => .error (.wrongType v.found "a string")

@[simp] theorem decodeString_string (text : String) : decodeString (string text) = .ok text := rfl

def decodeBool : Json → Except Mismatch Bool
  | bool b => .ok b
  | v => .error (.wrongType v.found "a boolean")

/-- A natural number below `2 ^ 32`. -/
def decodeWord : Json → Except Mismatch Nat
  | number (.integer i) =>
    if 0 ≤ i ∧ i < Int.pow 2 32 then .ok i.toNat
    else .error (.wrongValue (.number (.integer i)) "u32")
  | v => .error (.wrongType v.found "u32")

def decodeList {α : Type} (item : Json → Except Mismatch α) : Json → Except Mismatch (List α)
  | array items => items.mapM item
  | v => .error (.wrongType v.found "a sequence")

def decodeMembers : Json → Except Mismatch (List (String × Json))
  | object members => .ok members
  | v => .error (.wrongType v.found "a map")

/-- Null stands for an absent value. -/
def decodeOption {α : Type} (value : Json → Except Mismatch α) : Json → Except Mismatch (Option α)
  | null => .ok none
  | v => (value v).map some

def variantOfName {α : Type} [Variant α] (name : String) : Except Mismatch α :=
  match Variant.ofName? name with
  | some a => .ok a
  | none => .error (.unknownVariant name (Variant.names α))

/-- An alternative is given by its name, or by an object whose only key is its name and whose value
is null. -/
def decodeVariant {α : Type} [Variant α] : Json → Except Mismatch α
  | string s => variantOfName s
  | object [(name, v)] =>
    match (variantOfName name : Except Mismatch α) with
    | .ok a => if v = null then .ok a else .error (.wrongType v.found "unit")
    | .error reason => .error reason
  | object _ => .error (.wrongValue .map "map with a single key")
  | v => .error (.wrongType v.found "string or map")

/-! ## Records -/

/-- What is wrong with the fields read so far: wrong values with their places in the document, and
the names of missing fields. -/
structure Faults where
  wrong : List (Nat × Mismatch)
  missing : List String
deriving DecidableEq, Repr

/-- Fields that are read one after the other; every fault is kept. -/
inductive Fields (α : Type) where
  | value (value : α)
  | faulty (faults : Faults)
deriving Repr

namespace Fields

variable {α β : Type}

def map (f : α → β) : Fields α → Fields β
  | value a => value (f a)
  | faulty faults => faulty faults

/-- Gives a record one more field. -/
def and : Fields (α → β) → Fields α → Fields β
  | value f, value a => value (f a)
  | value _, faulty faults => faulty faults
  | faulty faults, value _ => faulty faults
  | faulty faults, faulty more =>
    faulty ⟨faults.wrong ++ more.wrong, faults.missing ++ more.missing⟩

/-- The wrong value that comes first in the document. -/
def firstWrong : List (Nat × Mismatch) → Option (Nat × Mismatch)
  | [] => none
  | (place, reason) :: rest =>
    match firstWrong rest with
    | none => some (place, reason)
    | some (other, better) => if other < place then some (other, better) else some (place, reason)

/-- The record, or the reason why there is none; `missing` says what a missing field means. -/
def resolve (missing : String → Mismatch) : Fields α → Except Mismatch α
  | value a => .ok a
  | faulty faults =>
    match firstWrong faults.wrong, faults.missing with
    | some (_, reason), _ => .error reason
    | none, name :: _ => .error (missing name)
    | none, [] => .error (missing "")

end Fields

/-- The value under a name and its place among the entries. -/
def entry? (name : String) (entries : List (String × Json)) : Option (Nat × Json) :=
  match entries.findIdx? (·.1 == name), entries.lookup name with
  | some place, some v => some (place, v)
  | _, _ => none

def fieldAt {α : Type} (place : Nat) (found : Except Mismatch α) : Fields α :=
  match found with
  | .ok a => .value a
  | .error reason => .faulty ⟨[(place, reason)], []⟩

def requiredField {α : Type} (name : String) (decode : Json → Except Mismatch α)
    (entries : List (String × Json)) : Fields α :=
  match entry? name entries with
  | some (place, v) => fieldAt place (decode v)
  | none => .faulty ⟨[], [name]⟩

/-- A field that stands for `absent` when it is missing. -/
def defaultedField {α : Type} (name : String) (absent : α) (decode : Json → Except Mismatch α)
    (entries : List (String × Json)) : Fields α :=
  match entry? name entries with
  | some (place, v) => fieldAt place (decode v)
  | none => .value absent

/-- A field that may be missing or null. -/
def optionalField {α : Type} (name : String) (decode : Json → Except Mismatch α)
    (entries : List (String × Json)) : Fields (Option α) :=
  defaultedField name none (decodeOption decode) entries

/-- A record type's name and its fields in the order of their declaration. -/
structure RecordType where
  name : String
  fields : List String
deriving DecidableEq, Repr

def RecordType.expected (type : RecordType) : String :=
  "struct " ++ type.name

/-- What is expected of a list that stands for a record. -/
def RecordType.expectedLength (type : RecordType) : String :=
  let count := type.fields.length
  s!"struct {type.name} with {count} element" ++ if count = 1 then "" else "s"

def decodeRecord {α : Type} (type : RecordType) (read : List (String × Json) → Fields α) :
    Json → Except Mismatch α
  | object members => (read members).resolve .missingField
  | array items =>
    let found := (read (type.fields.zip items)).resolve fun name ↦
      .wrongLength (type.fields.idxOf name) type.expectedLength
    if type.fields.length < items.length then
      found.bind fun _ ↦ .error (.wrongLength items.length "fewer elements in array")
    else found
  | v => .error (.wrongType v.found type.expected)

end WebScaffold.Json

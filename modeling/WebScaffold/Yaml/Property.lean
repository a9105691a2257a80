import WebScaffold.Yaml.Cursor
import WebScaffold.Yaml.Scalar
import WebScaffold.Yaml.Token

/-!
# Scanning properties and directives

Anchors, aliases, tags, and the directives in front of a document. Tags and the beginnings of tags
that a directive declares are written as addresses, in which any byte may be given in hexadecimal.
-/

namespace WebScaffold.Yaml

/-! ## Anchors -/

/-- The name behind the indicator of an anchor or an alias. -/
def scanName (cursor : Cursor) : Option (String × Cursor) :=
  let name := (cursor.rest.drop 1).takeWhile isWordChar
  let cursor := cursor.skip (name.length + 1)
  let ends (c : Char) : Bool := isGap c || c ∈ ['?', ':', ',', ']', '}', '%', '@', '`']
  if name.isEmpty || !cursor.next?.all ends then none else some (String.ofList name, cursor)

/-! ## Addresses -/

def isAddressChar (c : Char) : Bool :=
  isWordChar c ||
    c ∈ [';', '/', '?', ':', '@', '&', '=', '+', '$', '.', '!', '~', '*', '\'', '(', ')']

/-- The byte of the escape in front. -/
def escapedByte? : List Char → Option UInt8
  | '%' :: cs => (hexNumber? 2 cs).map UInt8.ofNat
  | _ => none

/-- How many bytes a character has that begins with the given byte. -/
def characterWidth? (first : UInt8) : Option Nat :=
  let n := first.toNat
  if n < 0x80 then some 1
  else if 0xC0 ≤ n ∧ n < 0xE0 then some 2
  else if 0xE0 ≤ n ∧ n < 0xF0 then some 3
  else if 0xF0 ≤ n ∧ n < 0xF8 then some 4
  else none

/-- The bytes of so many escapes in a row. -/
def escapedBytes? : Nat → List Char → Option (List UInt8)
  | 0, _ => some []
  | count + 1, cs => do
    let byte ← escapedByte? cs
    let more ← escapedBytes? count (cs.drop 3)
    return byte :: more

/-- A character that is written as escapes, and the width of the escapes. -/
def scanAddressEscape (cs : List Char) : Option (List Char × Nat) := do
  let first ← escapedByte? cs
  let width ← characterWidth? first
  let bytes ← escapedBytes? width cs
  let text ← String.fromUTF8? ⟨bytes.toArray⟩
  return (text.toList, 3 * width)

/-- The characters of an address; brackets and commas belong to it only if `wide`. -/
def scanAddress (wide : Bool) : Nat → Cursor → Option (List Char × Cursor)
  | 0, _ => none
  | fuel + 1, cursor =>
    match cursor.next? with
    | none => some ([], cursor)
    | some c =>
      if c = '%' then do
        let (chars, width) ← scanAddressEscape cursor.rest
        let (more, cursor) ← scanAddress wide fuel (cursor.skip width)
        return (chars ++ more, cursor)
      else if isAddressChar c || (wide && c ∈ [',', '[', ']']) then do
        let (more, cursor) ← scanAddress wide fuel (cursor.skip 1)
        return (c :: more, cursor)
      else some ([], cursor)

/-- An address that may not be empty. -/
def scanSomeAddress (wide : Bool) (cursor : Cursor) : Option (String × Cursor) := do
  let (address, rest) ← scanAddress wide (cursor.rest.length + 1) cursor
  if address.isEmpty then none else some (String.ofList address, rest)

/-! ## Tags -/

/-- An exclamation mark, a word, and another exclamation mark if there is one. -/
def scanHandle (cursor : Cursor) : Option (List Char × Cursor) :=
  match cursor.rest with
  | '!' :: cs =>
    let word := cs.takeWhile isWordChar
    let handle := '!' :: word
    let cursor := cursor.skip handle.length
    if cursor.sees '!' then some (handle ++ ['!'], cursor.skip 1) else some (handle, cursor)
  | _ => none

/-- Whether a handle is closed by an exclamation mark of its own. -/
def isClosedHandle (handle : List Char) : Bool :=
  1 < handle.length && handle.getLast? == some '!'

/-- A tag: a full address in angle brackets, a handle with the rest of the name, or a name of one's
own; the exclamation mark alone is a name without a handle. -/
def scanTagName (cursor : Cursor) : Option (Token × Cursor) :=
  if cursor.ahead? 1 = some '<' then do
    let (address, cursor) ← scanSomeAddress true (cursor.skip 2)
    if cursor.sees '>' then some (.tag "" address, cursor.skip 1) else none
  else do
    let (handle, cursor) ← scanHandle cursor
    if isClosedHandle handle then
      let (suffix, cursor) ← scanSomeAddress false cursor
      return (.tag (String.ofList handle) suffix, cursor)
    else
      let (more, cursor) ← scanAddress false (cursor.rest.length + 1) cursor
      match handle.drop 1 ++ more with
      | [] => return (.tag "" "!", cursor)
      | suffix => return (.tag "!" (String.ofList suffix), cursor)

/-- A tag and what must follow it. -/
def scanTag (inFlow : Bool) (cursor : Cursor) : Option (Token × Cursor) := do
  let (token, cursor) ← scanTagName cursor
  if cursor.gapAhead 0 || (inFlow && cursor.sees ',') then some (token, cursor) else none

/-! ## Directives -/

/-- A number of at most nine digits. -/
def scanNumber (cursor : Cursor) : Option (Nat × Cursor) :=
  let digits := cursor.rest.takeWhile Char.isDigit
  if digits.isEmpty || 9 < digits.length then none
  else
    some (digits.foldl (fun n c ↦ n * 10 + (c.toNat - '0'.toNat)) 0, cursor.skip digits.length)

def scanVersion (cursor : Cursor) : Option (Token × Cursor) := do
  let (major, cursor) ← scanNumber (cursor.skipWhile isSpaceOrTab)
  if !cursor.sees '.' then none
  let (minor, cursor) ← scanNumber (cursor.skip 1)
  return (.version major minor, cursor)

def scanHandleDirective (cursor : Cursor) : Option (Token × Cursor) := do
  let (handle, cursor) ← scanHandle (cursor.skipWhile isSpaceOrTab)
  if !(handle = ['!'] || isClosedHandle handle) || !cursor.seesAny isSpaceOrTab then none
  let (uri, cursor) ← scanSomeAddress true (cursor.skipWhile isSpaceOrTab)
  if cursor.gapAhead 0 then some (.handle (String.ofList handle) uri, cursor) else none

/-- A directive from its indicator to the end of its line. -/
def scanDirective (cursor : Cursor) : Option (Token × Cursor) := do
  let name := (cursor.rest.drop 1).takeWhile isWordChar
  let cursor := cursor.skip (name.length + 1)
  if !cursor.gapAhead 0 then none
  let (token, cursor) ←
    if name = "YAML".toList then scanVersion cursor
    else if name = "TAG".toList then scanHandleDirective cursor
    else none
  return (token, ← cursor.finishLine?)

end WebScaffold.Yaml

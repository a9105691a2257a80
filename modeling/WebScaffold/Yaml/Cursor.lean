/-!
# Cursors

A place in a text: what is left of it, with the line and the column. Columns decide about structure
in Yaml, so whatever is taken off a text moves its cursor along. The end of the text counts as a
line break where one is looked for.
-/

namespace WebScaffold.Yaml

structure Cursor where
  rest : List Char
  /-- The characters before this place. -/
  index : Nat
  line : Nat
  column : Nat
deriving Repr

/-! ## Characters -/

def isSpaceOrTab (c : Char) : Bool :=
  c == ' ' || c == '\t'

def isBreak (c : Char) : Bool :=
  c == '\n' || c == '\r' || c == '\u0085' || c == '\u2028' || c == '\u2029'

def isGap (c : Char) : Bool :=
  isSpaceOrTab c || isBreak c

/-- What may stand in a name. -/
def isWordChar (c : Char) : Bool :=
  c.isAlphanum || c == '_' || c == '-'

/-- The characters that a text may have anywhere. -/
def isAllowed (c : Char) : Bool :=
  let n := c.toNat
  n == 0x09 || n == 0x0A || n == 0x0D || (0x20 ≤ n && n ≤ 0x7E) || n == 0x85 ||
    (0xA0 ≤ n && n ≤ 0xD7FF) || (0xE000 ≤ n && n ≤ 0xFFFD) || 0x10000 ≤ n

def byteOrderMark : Char := '\uFEFF'

namespace Cursor

def start (text : List Char) : Cursor :=
  ⟨text, 0, 0, 0⟩

def atEnd (cursor : Cursor) : Bool :=
  cursor.rest.isEmpty

def next? (cursor : Cursor) : Option Char :=
  cursor.rest.head?

/-- The character so many places further on. -/
def ahead? (cursor : Cursor) (places : Nat) : Option Char :=
  cursor.rest[places]?

/-- Whether a blank, a line break or the end is so many places further on. -/
def gapAhead (cursor : Cursor) (places : Nat) : Bool :=
  (cursor.ahead? places).all isGap

def sees (cursor : Cursor) (c : Char) : Bool :=
  cursor.next? == some c

def seesAny (cursor : Cursor) (p : Char → Bool) : Bool :=
  cursor.next?.any p

/-- Moves on within a line. -/
def skip (cursor : Cursor) (count : Nat) : Cursor :=
  { cursor with
    rest := cursor.rest.drop count
    index := cursor.index + count
    column := cursor.column + count }

/-- Moves on as long as a property holds; no line break may have it. -/
def skipWhile (cursor : Cursor) (p : Char → Bool) : Cursor :=
  cursor.skip (cursor.rest.takeWhile p).length

/-- Moves behind a line break. -/
def skipBreak (cursor : Cursor) : Cursor :=
  let width :=
    match cursor.rest with
    | '\r' :: '\n' :: _ => 2
    | [] => 0
    | _ => 1
  { rest := cursor.rest.drop width, index := cursor.index + width
    line := cursor.line + 1, column := 0 }

/-- A line break as it counts in a scalar: all of them are the same but the two separators. -/
def breakText (cursor : Cursor) : List Char :=
  match cursor.next? with
  | none => []
  | some c => if c = '\u2028' ∨ c = '\u2029' then [c] else ['\n']

/-- Whether a line begins here with three times the given character and nothing directly behind. -/
def seesMarker (cursor : Cursor) (c : Char) : Bool :=
  cursor.column == 0 && cursor.rest.take 3 == [c, c, c] && cursor.gapAhead 3

/-- Whether a marker between documents stands here. -/
def atDocumentMarker (cursor : Cursor) : Bool :=
  cursor.seesMarker '-' || cursor.seesMarker '.'

/-- Moves to the end of the line behind blanks and a comment, if nothing else is left on it. -/
def finishLine? (cursor : Cursor) : Option Cursor :=
  let cursor := cursor.skipWhile isSpaceOrTab
  let cursor := if cursor.sees '#' then cursor.skipWhile (!isBreak ·) else cursor
  if cursor.atEnd then some cursor
  else if cursor.seesAny isBreak then some cursor.skipBreak
  else none

end Cursor

end WebScaffold.Yaml

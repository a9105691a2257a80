import WebScaffold.Json.Reader
import WebScaffold.Text.Blank
import WebScaffold.Text.Search

/-!
# Reading Json out of prose

What a text generator answers is meant to be Json, but it may stand between code fences, have a
comma before a closing bracket, or carry typographic quotes. Fences are always taken off. The other
two are mended only when the text is not Json as it stands, so that a text which is Json keeps all
its strings as they are.
-/

namespace WebScaffold.Json

def fence : List Char := ['`', '`', '`']

/-- The text between code fences, or the whole text, without blanks at its ends. What stands on the
line of the opening fence is dropped; the closing fence may be missing. -/
def insideFences (cs : List Char) : List Char :=
  let trimmed := Text.trimChars cs
  match Text.afterPrefix? fence trimmed with
  | none => trimmed
  | some rest =>
    let body :=
      match Text.cutAt? ['\n'] rest with
      | some (_, body) => body
      | none => rest
    Text.trimChars ((Text.beforeSuffix? fence body).getD body)

def isCloser (c : Char) : Bool :=
  c == '}' || c == ']'

/-- Whether a closing bracket comes first once blanks are skipped. -/
def closesNext (cs : List Char) : Bool :=
  match cs.dropWhile Text.isBlank with
  | c :: _ => isCloser c
  | [] => false

/-- Drops each comma before a closing bracket, with the blanks between; `dropping` says that such a
comma was just dropped. -/
def dropTrailingCommas (dropping : Bool) : List Char → List Char
  | [] => []
  | c :: cs =>
    if dropping && Text.isBlank c then dropTrailingCommas true cs
    else if c == ',' && closesNext cs then dropTrailingCommas true cs
    else c :: dropTrailingCommas false cs

/-- A straight double quote for a typographic quote of any kind. -/
def straightQuote (c : Char) : Char :=
  if c = '\u201c' ∨ c = '\u201d' ∨ c = '\u2018' ∨ c = '\u2019' then '"' else c

/-- Drops trailing commas and straightens quotes, inside strings as well as outside. -/
def softened (cs : List Char) : List Char :=
  (dropTrailingCommas false cs).map straightQuote

/-- How many characters of an unreadable text an error shows. -/
def headLength : Nat := 200

/-- Why an answer could not be read, with the beginning of its softened text. -/
structure LooseError where
  error : ReadError
  head : String
deriving DecidableEq, Repr

def LooseError.message (e : LooseError) : String :=
  "Failed to parse JSON: " ++ e.error.message ++ ". Input head: " ++ e.head

def headOf (cs : List Char) : String :=
  String.ofList (cs.take headLength)

def readLoosely (text : String) : Except LooseError Json :=
  let stripped := insideFences text.toList
  match readAll stripped with
  | .ok v => .ok v
  | .error _ =>
    let softened := softened stripped
    (readAll softened).mapError fun failure ↦ ⟨failure.locate softened, headOf softened⟩

end WebScaffold.Json

import WebScaffold.Json.Printer
import WebScaffold.Table
import WebScaffold.Text.Search

/-!
# Templates

A template is a text with tokens in it, or bytes that are copied as they are. Every token stands
inside a string literal, so what it stands for is escaped as in one.
-/

namespace WebScaffold

inductive Template where
  | text (content : String)
  | binary (bytes : List UInt8)
deriving DecidableEq, Repr

namespace Template

def byteExtensions : List String :=
  ["ico", "png", "jpg", "jpeg", "gif", "webp", "woff", "woff2"]

/-- Whether a template is copied byte for byte, by the extension of its id. -/
def holdsBytes (id : String) : Bool :=
  match Text.cutAtLast? '.' id.toList with
  | some (_, extension) => String.ofList (extension.map Char.toLower) ∈ byteExtensions
  | none => false

/-- A text as it stands between the quotes of a string literal. -/
def escape (text : String) : String :=
  String.ofList (Json.escape text.toList)

/-- Puts the escaped text of a token in its place. -/
def fillToken (token text : String) (cs : List Char) : List Char :=
  Text.replaceAll token.toList (Json.escape text.toList) cs

/-- Puts the escaped text of each token in its place, one token after the other, so that what a
token stands for may hold tokens that come later. -/
def renderChars (tokens : Table String) (cs : List Char) : List Char :=
  tokens.foldl (fun cs entry ↦ fillToken entry.1 entry.2 cs) cs

def render (tokens : Table String) (text : String) : String :=
  String.ofList (renderChars tokens text.toList)

end Template

end WebScaffold

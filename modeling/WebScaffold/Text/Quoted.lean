import WebScaffold.Text.PrintableTable
import WebScaffold.Text.Case

/-!
# Quoted text in messages

How a text is shown inside a message: between double quotes, with the usual short escapes, and with
a braced code point for what cannot be seen or would combine with the character before it.
-/

namespace WebScaffold.Text

def isShown (c : Char) : Bool :=
  if c.toNat < 127 then 32 ≤ c.toNat
  else !inRanges unprintableRanges c && !inRanges combiningRanges c

def quotedChar (c : Char) : List Char :=
  match c with
  | '"' => ['\\', '"']
  | '\\' => ['\\', '\\']
  | '\n' => ['\\', 'n']
  | '\r' => ['\\', 'r']
  | '\t' => ['\\', 't']
  | '\x00' => ['\\', '0']
  | c =>
    if isShown c then [c] else ['\\', 'u', '{'] ++ Nat.toDigits 16 c.toNat ++ ['}']

def quoted (s : String) : String :=
  String.ofList ('"' :: s.toList.flatMap quotedChar ++ ['"'])

end WebScaffold.Text

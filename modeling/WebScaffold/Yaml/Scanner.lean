import WebScaffold.Yaml.Property

/-!
# Scanning

From a Yaml text to its tokens. In a block, indentation opens and closes collections; in a flow
collection, brackets do. That a scalar is a key shows only at the colon behind it, so the scanner
remembers for each open flow collection, and for the block around them, where the last possible key
began, and puts the tokens for the key there once it sees the colon. Such a key has to be on one
line and cannot be long.
-/

namespace WebScaffold.Yaml

/-- A place where a key may have begun. -/
structure PossibleKey where
  /-- Whether nothing but a key can stand there. -/
  required : Bool
  /-- The number of tokens before it. -/
  tokenNumber : Nat
  index : Nat
  line : Nat
  column : Nat
deriving Repr

structure Scanner where
  cursor : Cursor
  tokens : List Token
  /-- The possible keys, the innermost first; the last one is that of the block. -/
  keys : List (Option PossibleKey)
  /-- The indentation of the block, -1 outside of any. -/
  indent : Int
  /-- The indentations of the blocks around it, the innermost first. -/
  outer : List Int
  /-- Whether a key may begin here. -/
  keyAllowed : Bool
  finished : Bool
deriving Repr

namespace Scanner

/-- The greatest number of characters of a key that is recognised by the colon behind it. -/
def longestKey : Nat := 1024

def start (text : List Char) : Scanner where
  cursor := .start text
  tokens := []
  keys := [none]
  indent := -1
  outer := []
  keyAllowed := true
  finished := false

def inFlow (scanner : Scanner) : Bool :=
  1 < scanner.keys.length

def push (scanner : Scanner) (token : Token) : Scanner :=
  { scanner with tokens := scanner.tokens ++ [token] }

/-- Puts a token behind the first `number` ones. -/
def insertAt (scanner : Scanner) (number : Nat) (token : Token) : Scanner :=
  { scanner with tokens := scanner.tokens.take number ++ token :: scanner.tokens.drop number }

def allowKey (scanner : Scanner) (allowed : Bool) : Scanner :=
  { scanner with keyAllowed := allowed }

def skip (scanner : Scanner) (count : Nat) : Scanner :=
  { scanner with cursor := scanner.cursor.skip count }

/-! ## Possible keys -/

/-- Forgets a key that cannot be one any more, because it is too long or on an earlier line. -/
def expire (cursor : Cursor) : Option PossibleKey → Option (Option PossibleKey)
  | none => some none
  | some key =>
    if key.line < cursor.line ∨ key.index + longestKey < cursor.index then
      if key.required then none else some none
    else some (some key)

def expireKeys (scanner : Scanner) : Option Scanner := do
  let keys ← scanner.keys.mapM (expire scanner.cursor)
  return { scanner with keys }

/-- Gives up the innermost possible key, which is an error if it was required. -/
def dropKey (scanner : Scanner) : Option Scanner :=
  match scanner.keys with
  | some key :: keys => if key.required then none else some { scanner with keys := none :: keys }
  | _ => some scanner

/-- Remembers that a key may begin here. -/
def noteKey (scanner : Scanner) : Option Scanner :=
  if scanner.keyAllowed then do
    let scanner ← scanner.dropKey
    let cursor := scanner.cursor
    let key : PossibleKey :=
      { required := !scanner.inFlow && scanner.indent == (cursor.column : Int)
        tokenNumber := scanner.tokens.length
        index := cursor.index
        line := cursor.line
        column := cursor.column }
    return { scanner with keys := some key :: scanner.keys.drop 1 }
  else some scanner

/-! ## Indentation -/

/-- Opens a block collection at a column, unless one is open there already. -/
def openBlock (scanner : Scanner) (column number : Nat) (token : Token) : Scanner :=
  if !scanner.inFlow && scanner.indent < (column : Int) then
    { scanner.insertAt number token with
      indent := column, outer := scanner.indent :: scanner.outer }
  else scanner

/-- Closes the collections of a block while they are indented further than `column`: the tokens, the
indentation that is left, and those around it. -/
def closeFrom (column indent : Int) : List Int → List Token × Int × List Int
  | [] => ([], indent, [])
  | above :: outer =>
    if column < indent then
      let (tokens, rest) := closeFrom column above outer
      (.blockEnd :: tokens, rest)
    else ([], indent, above :: outer)

def closeBlocks (scanner : Scanner) (column : Int) : Scanner :=
  if scanner.inFlow then scanner
  else
    let (tokens, indent, outer) := closeFrom column scanner.indent scanner.outer
    { scanner with tokens := scanner.tokens ++ tokens, indent, outer }

/-! ## Tokens -/

/-- Passes over blanks, comments and line breaks. Where a key may begin in a block, a tab is not a
blank. -/
def skipGap : Nat → Scanner → Scanner
  | 0, scanner => scanner
  | fuel + 1, scanner =>
    let cursor := scanner.cursor
    let cursor :=
      if cursor.column = 0 ∧ cursor.sees byteOrderMark then cursor.skip 1 else cursor
    let tabs := scanner.inFlow || !scanner.keyAllowed
    let cursor := cursor.skipWhile fun c ↦ c == ' ' || (tabs && c == '\t')
    let cursor := if cursor.sees '#' then cursor.skipWhile (!isBreak ·) else cursor
    if cursor.seesAny isBreak then
      skipGap fuel
        { scanner with
          cursor := cursor.skipBreak
          keyAllowed := scanner.keyAllowed || !scanner.inFlow }
    else { scanner with cursor }

/-- Leaves all blocks at the beginning of a line between documents. -/
def leaveBlocks (scanner : Scanner) : Option Scanner := do
  let scanner ← (scanner.closeBlocks (-1)).dropKey
  return scanner.allowKey false

def scanEnd (scanner : Scanner) : Option Scanner := do
  let scanner ← scanner.leaveBlocks
  return { scanner.push .streamEnd with finished := true }

def scanDirectiveLine (scanner : Scanner) : Option Scanner := do
  let scanner ← scanner.leaveBlocks
  let (token, cursor) ← scanDirective scanner.cursor
  return { scanner.push token with cursor }

def scanMarker (scanner : Scanner) (token : Token) : Option Scanner := do
  let scanner ← scanner.leaveBlocks
  return (scanner.skip 3).push token

def openFlow (scanner : Scanner) (token : Token) : Option Scanner := do
  let scanner ← scanner.noteKey
  return ({ scanner with keys := none :: scanner.keys, keyAllowed := true }.skip 1).push token

def closeFlow (scanner : Scanner) (token : Token) : Option Scanner := do
  let scanner ← scanner.dropKey
  let keys := if scanner.inFlow then scanner.keys.drop 1 else scanner.keys
  return ({ scanner with keys, keyAllowed := false }.skip 1).push token

def scanFlowEntry (scanner : Scanner) : Option Scanner := do
  let scanner ← scanner.dropKey
  return ((scanner.allowKey true).skip 1).push .flowEntry

/-- Opens a block collection for an indicator, which must stand where a key may begin. -/
def openBlockHere (scanner : Scanner) (token : Token) : Option Scanner :=
  if scanner.inFlow then some scanner
  else if scanner.keyAllowed then
    some (scanner.openBlock scanner.cursor.column scanner.tokens.length token)
  else none

def scanBlockEntry (scanner : Scanner) : Option Scanner := do
  let scanner ← scanner.openBlockHere .blockSequenceStart
  let scanner ← scanner.dropKey
  return ((scanner.allowKey true).skip 1).push .blockEntry

def scanKey (scanner : Scanner) : Option Scanner := do
  let scanner ← scanner.openBlockHere .blockMappingStart
  let scanner ← scanner.dropKey
  return ((scanner.allowKey (!scanner.inFlow)).skip 1).push .key

/-- Scans a colon: what began at the last possible key is a key, or else the key is empty or was
marked as one. -/
def scanValue (scanner : Scanner) : Option Scanner :=
  match scanner.keys with
  | some key :: keys =>
    let scanner := scanner.insertAt key.tokenNumber .key
    let scanner := scanner.openBlock key.column key.tokenNumber .blockMappingStart
    some (({ scanner with keys := none :: keys, keyAllowed := false }.skip 1).push .value)
  | _ => do
    let scanner ← scanner.openBlockHere .blockMappingStart
    return ((scanner.allowKey (!scanner.inFlow)).skip 1).push .value

def scanNamed (scanner : Scanner) (token : String → Token) : Option Scanner := do
  let scanner ← scanner.noteKey
  let (name, cursor) ← scanName scanner.cursor
  return { (scanner.allowKey false).push (token name) with cursor }

def scanTagged (scanner : Scanner) : Option Scanner := do
  let scanner ← scanner.noteKey
  let (token, cursor) ← scanTag scanner.inFlow scanner.cursor
  return { (scanner.allowKey false).push token with cursor }

def scanBlockScalar (scanner : Scanner) (style : ScalarStyle) : Option Scanner := do
  let scanner ← scanner.dropKey
  let (text, cursor) ← scanBlock (style == .folded) scanner.indent scanner.cursor
  return { (scanner.allowKey true).push (.scalar (String.ofList text) style) with cursor }

def scanQuotedScalar (scanner : Scanner) (quote : Char) : Option Scanner := do
  let scanner ← scanner.noteKey
  let (text, cursor) ← scanQuoted quote scanner.cursor
  return { (scanner.allowKey false).push (.scalar (String.ofList text) .quoted) with cursor }

def scanPlainScalar (scanner : Scanner) : Option Scanner := do
  let scanner ← scanner.noteKey
  let found ← scanPlain scanner.inFlow (scanner.indent + 1) scanner.cursor
  return { (scanner.allowKey found.broken).push (.scalar (String.ofList found.text) .plain) with
    cursor := found.cursor }

/-- The characters that no plain scalar begins with, save for three of them where a text follows. -/
def indicators : List Char :=
  ['-', '?', ':', ',', '[', ']', '{', '}', '#', '&', '*', '!', '|', '>', '\'', '"', '%', '@', '`']

def startsPlain (scanner : Scanner) (c : Char) : Bool :=
  let cursor := scanner.cursor
  !(isGap c || c ∈ indicators) || (c == '-' && !(cursor.ahead? 1).any isSpaceOrTab) ||
    (!scanner.inFlow && (c == '?' || c == ':') && !cursor.gapAhead 1)

/-- Scans the token that begins with the given character. -/
def scanAt (scanner : Scanner) (c : Char) : Option Scanner :=
  let cursor := scanner.cursor
  if c = '%' ∧ cursor.column = 0 then scanner.scanDirectiveLine
  else if cursor.seesMarker '-' then scanner.scanMarker .documentStart
  else if cursor.seesMarker '.' then scanner.scanMarker .documentEnd
  else if c = '[' then scanner.openFlow .flowSequenceStart
  else if c = '{' then scanner.openFlow .flowMappingStart
  else if c = ']' then scanner.closeFlow .flowSequenceEnd
  else if c = '}' then scanner.closeFlow .flowMappingEnd
  else if c = ',' then scanner.scanFlowEntry
  else if c = '-' ∧ cursor.gapAhead 1 then scanner.scanBlockEntry
  else if c = '?' ∧ (scanner.inFlow ∨ cursor.gapAhead 1) then scanner.scanKey
  else if c = ':' ∧ (scanner.inFlow ∨ cursor.gapAhead 1) then scanner.scanValue
  else if c = '*' then scanner.scanNamed .reference
  else if c = '&' then scanner.scanNamed .anchor
  else if c = '!' then scanner.scanTagged
  else if c = '|' ∧ !scanner.inFlow then scanner.scanBlockScalar .literal
  else if c = '>' ∧ !scanner.inFlow then scanner.scanBlockScalar .folded
  else if c = '\'' then scanner.scanQuotedScalar '\''
  else if c = '"' then scanner.scanQuotedScalar '"'
  else if scanner.startsPlain c then scanner.scanPlainScalar
  else none

/-- Scans one token and what comes with it. -/
def scanNext (scanner : Scanner) : Option Scanner := do
  let scanner := skipGap (scanner.cursor.rest.length + 1) scanner
  let scanner ← scanner.expireKeys
  let scanner := scanner.closeBlocks scanner.cursor.column
  match scanner.cursor.next? with
  | none => scanner.scanEnd
  | some c => scanner.scanAt c

/-- Scans to the end; every step but the last one takes a character at least. -/
def scanFrom : Nat → Scanner → Option (List Token)
  | 0, _ => none
  | fuel + 1, scanner => do
    let scanner ← scanner.scanNext
    if scanner.finished then return scanner.tokens else scanFrom fuel scanner

end Scanner

/-- A text without a mark of its byte order in front. -/
def dropByteOrderMark : List Char → List Char
  | c :: cs => if c = byteOrderMark then cs else c :: cs
  | [] => []

/-- The tokens of a text, unless it is not Yaml. -/
def scan (text : List Char) : Option (List Token) :=
  let text := dropByteOrderMark text
  if text.all isAllowed then Scanner.scanFrom (text.length + 2) (.start text) else none

end WebScaffold.Yaml

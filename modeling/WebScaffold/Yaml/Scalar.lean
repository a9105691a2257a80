import WebScaffold.Yaml.Cursor
import WebScaffold.Yaml.Token

/-!
# Scanning scalars

Scalars without quotes, in quotes, and as indented blocks. Line breaks within a scalar are folded: a
single one becomes a space, and of several in a row the first one is dropped.
-/

namespace WebScaffold.Yaml

/-! ## Gaps between runs -/

/-- The blanks and line breaks between two runs of a scalar. -/
structure Gap where
  /-- The blanks, as long as there is no line break. -/
  blanks : List Char := []
  broken : Bool := false
  firstBreak : List Char := []
  moreBreaks : List Char := []
deriving Repr

/-- What a gap comes to in the scalar. -/
def Gap.text (gap : Gap) : List Char :=
  if !gap.broken then gap.blanks
  else if gap.firstBreak = ['\n'] then if gap.moreBreaks = [] then [' '] else gap.moreBreaks
  else gap.firstBreak ++ gap.moreBreaks

/-- Scans a gap to its end. Behind a line break no tab may stand left of the column `tabLimit`. -/
def scanGap (tabLimit : Int) : Nat → Gap → Cursor → Option (Gap × Cursor)
  | 0, _, _ => none
  | fuel + 1, gap, cursor =>
    match cursor.next? with
    | none => some (gap, cursor)
    | some c =>
      if isSpaceOrTab c then
        if gap.broken then
          if c = '\t' ∧ (cursor.column : Int) < tabLimit then none
          else scanGap tabLimit fuel gap (cursor.skip 1)
        else scanGap tabLimit fuel { gap with blanks := gap.blanks ++ [c] } (cursor.skip 1)
      else if isBreak c then
        let found := cursor.breakText
        let gap : Gap :=
          if gap.broken then { gap with moreBreaks := gap.moreBreaks ++ found }
          else { gap with broken := true, firstBreak := found }
        scanGap tabLimit fuel gap cursor.skipBreak
      else some (gap, cursor)

/-! ## Plain scalars -/

def flowIndicators : List Char :=
  [',', '[', ']', '{', '}']

/-- The characters up to a gap or an indicator that ends the scalar. In a flow collection a colon
may not stand directly before an indicator. -/
def plainRun (inFlow : Bool) : List Char → Option (List Char)
  | [] => some []
  | c :: cs =>
    if isGap c then some []
    else if inFlow && c == ':' && cs.head?.any (· ∈ '?' :: flowIndicators) then none
    else if (c == ':' && cs.head?.all isGap) || (inFlow && c ∈ flowIndicators) then some []
    else (plainRun inFlow cs).map (c :: ·)

/-- A scanned scalar, the place behind it, and whether a line break was passed at its end. -/
structure Scanned where
  text : List Char
  cursor : Cursor
  broken : Bool
deriving Repr

/-- Scans the runs of a plain scalar from behind a gap on. -/
def scanPlainFrom (inFlow : Bool) (indent : Int) : Nat → Gap → Cursor → Option Scanned
  | 0, _, _ => none
  | fuel + 1, gap, cursor =>
    if cursor.atDocumentMarker || cursor.sees '#' then some ⟨[], cursor, gap.broken⟩
    else do
      let run ← plainRun inFlow cursor.rest
      if run.isEmpty then return ⟨[], cursor, gap.broken⟩
      let text := gap.text ++ run
      let cursor := cursor.skip run.length
      if cursor.seesAny isGap then
        let (gap, cursor) ← scanGap indent (cursor.rest.length + 1) {} cursor
        if !inFlow && (cursor.column : Int) < indent then return ⟨text, cursor, gap.broken⟩
        let more ← scanPlainFrom inFlow indent fuel gap cursor
        return { more with text := text ++ more.text }
      else return ⟨text, cursor, false⟩

/-- Scans a plain scalar, whose further lines must be indented as far as `indent` at least. -/
def scanPlain (inFlow : Bool) (indent : Int) (cursor : Cursor) : Option Scanned :=
  scanPlainFrom inFlow indent (cursor.rest.length + 1) {} cursor

/-! ## Quoted scalars -/

/-- The character of an escape of one letter. -/
def shortEscape? : Char → Option Char
  | '0' => some '\x00'
  | 'a' => some '\x07'
  | 'b' => some '\x08'
  | 't' => some '\t'
  | '\t' => some '\t'
  | 'n' => some '\n'
  | 'v' => some '\x0b'
  | 'f' => some '\x0c'
  | 'r' => some '\r'
  | 'e' => some '\x1b'
  | ' ' => some ' '
  | '"' => some '"'
  | '/' => some '/'
  | '\\' => some '\\'
  | 'N' => some '\u0085'
  | '_' => some '\u00a0'
  | 'L' => some '\u2028'
  | 'P' => some '\u2029'
  | _ => none

/-- How many hexadecimal digits follow the letter of an escape. -/
def escapeWidth? : Char → Option Nat
  | 'x' => some 2
  | 'u' => some 4
  | 'U' => some 8
  | _ => none

def hexDigit? (c : Char) : Option Nat :=
  if c.isDigit then some (c.toNat - '0'.toNat)
  else if 'a' ≤ c ∧ c ≤ 'f' then some (c.toNat - 'a'.toNat + 10)
  else if 'A' ≤ c ∧ c ≤ 'F' then some (c.toNat - 'A'.toNat + 10)
  else none

/-- The number that exactly `width` hexadecimal digits spell. -/
def hexNumber? (width : Nat) (digits : List Char) : Option Nat := do
  let values ← (digits.take width).mapM hexDigit?
  if values.length = width then some (values.foldl (fun n d ↦ n * 16 + d) 0) else none

def charOfCode? (code : Nat) : Option Char :=
  if h : code.isValidChar then some (Char.ofNatAux code h) else none

/-- The character of an escape and the width of the escape, given the text behind the backslash. -/
def scanEscape : List Char → Option (Char × Nat)
  | [] => none
  | c :: cs =>
    match shortEscape? c, escapeWidth? c with
    | some meant, _ => some (meant, 2)
    | none, some width => do
      let code ← hexNumber? width cs
      let meant ← charOfCode? code
      return (meant, width + 2)
    | none, none => none

/-- The characters up to a gap, the closing quote or an escaped line break; the flag says that it
was the latter, which is passed then. -/
def quotedRun (quote : Char) : Nat → Cursor → Option (List Char × Cursor × Bool)
  | 0, _ => none
  | fuel + 1, cursor =>
    match cursor.rest with
    | [] => some ([], cursor, false)
    | c :: cs =>
      if isGap c then some ([], cursor, false)
      else if c = quote then
        if c = '\'' ∧ cs.head? = some '\'' then do
          let (run, rest) ← quotedRun quote fuel (cursor.skip 2)
          return ('\'' :: run, rest)
        else some ([], cursor, false)
      else if quote = '"' ∧ c = '\\' then
        if cs.head?.any isBreak then some ([], (cursor.skip 1).skipBreak, true)
        else do
          let (meant, width) ← scanEscape cs
          let (run, rest) ← quotedRun quote fuel (cursor.skip width)
          return (meant :: run, rest)
      else do
        let (run, rest) ← quotedRun quote fuel (cursor.skip 1)
        return (c :: run, rest)

/-- Scans the runs of a quoted scalar up to the closing quote. -/
def scanQuotedFrom (quote : Char) : Nat → Cursor → Option (List Char × Cursor)
  | 0, _ => none
  | fuel + 1, cursor =>
    if cursor.atDocumentMarker || cursor.atEnd then none
    else do
      let (run, cursor, escaped) ← quotedRun quote (cursor.rest.length + 1) cursor
      if cursor.sees quote then return (run, cursor.skip 1)
      let (gap, cursor) ←
        scanGap 0 (cursor.rest.length + 1) { broken := escaped } cursor
      let (more, cursor) ← scanQuotedFrom quote fuel cursor
      return (run ++ gap.text ++ more, cursor)

/-- Scans a quoted scalar from its opening quote on. -/
def scanQuoted (quote : Char) (cursor : Cursor) : Option (List Char × Cursor) :=
  scanQuotedFrom quote (cursor.rest.length + 1) (cursor.skip 1)

/-! ## Block scalars -/

/-- What becomes of the line breaks at the end of a block. -/
inductive Chomping where
  | strip
  | clip
  | keep
deriving DecidableEq, Repr

def chomping? : Char → Option Chomping
  | '+' => some .keep
  | '-' => some .strip
  | _ => none

/-- An indentation that is stated, which cannot be zero; `none` if there is none. -/
def statedIndent (cursor : Cursor) : Option (Option Nat × Cursor) :=
  match cursor.next? with
  | some c =>
    if c = '0' then none
    else if c.isDigit then some (some (c.toNat - '0'.toNat), cursor.skip 1)
    else some (none, cursor)
  | none => some (none, cursor)

def statedChomping (cursor : Cursor) : Option Chomping × Cursor :=
  match cursor.next?.bind chomping? with
  | some found => (some found, cursor.skip 1)
  | none => (none, cursor)

/-- The indicators behind the one that opens a block, in either order. -/
def blockHeader (cursor : Cursor) : Option (Chomping × Option Nat × Cursor) := do
  match statedChomping cursor with
  | (some found, cursor) => do
    let (indent?, cursor) ← statedIndent cursor
    return (found, indent?, cursor)
  | (none, cursor) => do
    let (indent?, cursor) ← statedIndent cursor
    match indent?, statedChomping cursor with
    | some indent, (some found, cursor) => return (found, some indent, cursor)
    | _, _ => return (.clip, indent?, cursor)

/-- The empty lines before a line of a block and the column at which that line begins. A block whose
indentation is not known is indented as far as its first line, and at least as far as `least`. -/
def blockBreaks (indent? : Option Nat) (least : Nat) :
    Nat → (deepest : Nat) → Cursor → Option (Nat × List Char × Cursor)
  | 0, _, _ => none
  | fuel + 1, deepest, cursor =>
    let within (cursor : Cursor) : Bool := indent?.all (cursor.column < ·)
    let spaces := (cursor.rest.takeWhile (· == ' ')).length
    let cursor :=
      match indent? with
      | some indent => cursor.skip (min spaces (indent - cursor.column))
      | none => cursor.skip spaces
    let deepest := max deepest cursor.column
    if within cursor && cursor.sees '\t' then none
    else if cursor.seesAny isBreak then do
      let (indent, breaks, rest) ← blockBreaks indent? least fuel deepest cursor.skipBreak
      return (indent, cursor.breakText ++ breaks, rest)
    else some (indent?.getD (max deepest least), [], cursor)

/-- The lines of a block, given the line break before and the empty lines behind it; `blank` says
that the line before began with a blank. -/
def blockLines (folded : Bool) (chomping : Chomping) (indent : Nat) :
    Nat → (lineBreak emptyLines : List Char) → (blank : Bool) → Cursor →
      Option (List Char × Cursor)
  | 0, _, _, _, _ => none
  | fuel + 1, lineBreak, emptyLines, blank, cursor =>
    if cursor.column = indent ∧ !cursor.atEnd then do
      let startsBlank := cursor.seesAny isSpaceOrTab
      let joint :=
        if folded && lineBreak == ['\n'] && !blank && !startsBlank then
          if emptyLines = [] then [' '] else []
        else lineBreak
      let line := cursor.rest.takeWhile (!isBreak ·)
      let cursor := cursor.skip line.length
      let lineBreak := cursor.breakText
      let cursor := if cursor.atEnd then cursor else cursor.skipBreak
      let (_, nextEmpty, cursor) ←
        blockBreaks (some indent) indent (cursor.rest.length + 1) 0 cursor
      let (more, rest) ←
        blockLines folded chomping indent fuel lineBreak nextEmpty startsBlank cursor
      return (joint ++ emptyLines ++ line ++ more, rest)
    else
      match chomping with
      | .strip => some ([], cursor)
      | .clip => some (lineBreak, cursor)
      | .keep => some (lineBreak ++ emptyLines, cursor)

/-- Scans a block from its opening indicator on, inside of a block indented by `parent`. -/
def scanBlock (folded : Bool) (parent : Int) (cursor : Cursor) : Option (List Char × Cursor) := do
  let (chomping, stated?, cursor) ← blockHeader (cursor.skip 1)
  let cursor ← cursor.finishLine?
  let indent? := stated?.map fun stated ↦ (max parent 0).toNat + stated
  let (indent, breaks, cursor) ←
    blockBreaks indent? (max (parent + 1) 1).toNat (cursor.rest.length + 1) 0 cursor
  blockLines folded chomping indent (cursor.rest.length + 1) [] breaks false cursor

end WebScaffold.Yaml

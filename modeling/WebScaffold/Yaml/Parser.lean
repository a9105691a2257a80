import WebScaffold.Yaml.Node
import WebScaffold.Yaml.Scanner
import WebScaffold.Table

/-!
# Parsing documents

From the tokens of a Yaml text to the nodes of its only document. Where a node may stand and none is
written, an empty one is meant.
-/

namespace WebScaffold.Yaml

structure ParserState where
  tokens : List Token
  /-- What the handles of tags stand for. -/
  handles : List (String × String)
  /-- The numbers of the anchors that were seen. -/
  anchors : Table Nat
deriving Repr

abbrev Parse := StateT ParserState Option

namespace Parse

def refuse {α : Type} : Parse α :=
  fun _ ↦ none

/-- The next token; behind the last one is the end. -/
def peek : Parse Token := do
  return (← get).tokens.head?.getD .streamEnd

def skip : Parse Unit :=
  modify fun state ↦ { state with tokens := state.tokens.drop 1 }

/-- Numbers an anchor by how many different names were seen. -/
def noteAnchor (name : String) : Parse Nat := do
  let number := (← get).anchors.length
  modify fun state ↦ { state with anchors := state.anchors.insert name number }
  return number

def anchorNumber (name : String) : Parse Nat := do
  match (← get).anchors.lookup name with
  | some number => return number
  | none => refuse

/-! ## Properties -/

/-- The full name of a tag. -/
def tagName (handle suffix : String) : Parse String := do
  if handle = "" then return suffix
  match (← get).handles.lookup handle with
  | some uri => return uri ++ suffix
  | none => refuse

/-- An anchor, if one is written here. -/
def anchor? : Parse (Option String) := do
  match ← peek with
  | .anchor name => do
    skip
    return some name
  | _ => return none

def tag? : Parse (Option (String × String)) := do
  match ← peek with
  | .tag handle suffix => do
    skip
    return some (handle, suffix)
  | _ => return none

/-- The anchor and the tag in front of a node, in either order. -/
def properties : Parse Properties := do
  let early ← anchor?
  let tag ← tag?
  let late ← if early.isNone && tag.isSome then anchor? else pure none
  let tag ← tag.mapM fun (handle, suffix) ↦ tagName handle suffix
  let anchor ← (early.or late).mapM noteAnchor
  return { anchor, tag }

/-! ## Nodes -/

/-- The exclamation mark alone says nothing about a scalar. -/
def scalarProperties (found : Properties) : Properties :=
  { found with tag := found.tag.filter (· ≠ "!") }

/-- A node of which only the properties are written. -/
def onlyProperties (found : Properties) : Parse Node :=
  if found = {} then refuse else return .scalar found "" .plain

/-- A node, unless one of the tokens `stops` comes next. -/
def nodeUnless (stops : List Token) (node : Parse Node) : Parse Node := do
  if (← peek) ∈ stops then return .absent else node

/-- Skips a token that must come next. -/
def expect (token : Token) : Parse Unit := do
  if (← peek) = token then skip else refuse

mutual

/-- A node; block collections only where they may stand, and an unindented sequence only as a part
of a mapping. -/
def node : Nat → (block unindented : Bool) → Parse Node
  | 0, _, _ => refuse
  | fuel + 1, block, unindented => do
    match ← peek with
    | .reference name => do
      skip
      return .reference (← anchorNumber name)
    | _ => do
      let found ← properties
      match ← peek with
      | .scalar text style => do
        skip
        return .scalar (scalarProperties found) text style
      | .flowSequenceStart => do
        skip
        return .sequence found (← flowItems fuel true)
      | .flowMappingStart => do
        skip
        return .mapping found (← flowEntries fuel true)
      | .blockEntry =>
        if unindented then return .sequence found (← unindentedItems fuel)
        else onlyProperties found
      | .blockSequenceStart =>
        if block then do
          skip
          return .sequence found (← blockItems fuel)
        else onlyProperties found
      | .blockMappingStart =>
        if block then do
          skip
          return .mapping found (← blockEntries fuel)
        else onlyProperties found
      | _ => onlyProperties found

def blockItems : Nat → Parse (List Node)
  | 0 => refuse
  | fuel + 1 => do
    match ← peek with
    | .blockEntry => do
      skip
      let item ← nodeUnless [.blockEntry, .blockEnd] (node fuel true false)
      return item :: (← blockItems fuel)
    | .blockEnd => do
      skip
      return []
    | _ => refuse

def unindentedItems : Nat → Parse (List Node)
  | 0 => refuse
  | fuel + 1 => do
    match ← peek with
    | .blockEntry => do
      skip
      let item ← nodeUnless [.blockEntry, .key, .value, .blockEnd] (node fuel true false)
      return item :: (← unindentedItems fuel)
    | _ => return []

def blockEntries : Nat → Parse (List (Node × Node))
  | 0 => refuse
  | fuel + 1 => do
    match ← peek with
    | .key => do
      skip
      let key ← nodeUnless [.key, .value, .blockEnd] (node fuel true true)
      let value ← valueAfter [.key, .value, .blockEnd] fuel true
      return (key, value) :: (← blockEntries fuel)
    | .blockEnd => do
      skip
      return []
    | _ => refuse

/-- The value behind a key. -/
def valueAfter (stops : List Token) : Nat → (block : Bool) → Parse Node
  | 0, _ => refuse
  | fuel + 1, block => do
    match ← peek with
    | .value => do
      skip
      nodeUnless stops (node fuel block block)
    | _ => return .absent

/-- The items of a flow sequence behind the first one, or all of them. -/
def flowItems : Nat → (first : Bool) → Parse (List Node)
  | 0, _ => refuse
  | fuel + 1, first => do
    if (← peek) = .flowSequenceEnd then
      skip
      return []
    if !first then expect .flowEntry
    match ← peek with
    | .flowSequenceEnd => do
      skip
      return []
    | .key => do
      skip
      let item ← flowPair fuel
      return item :: (← flowItems fuel false)
    | _ => do
      let item ← node fuel false false
      return item :: (← flowItems fuel false)

/-- A mapping with one entry, written without braces. Without a key, whatever token stands in its
place is skipped. -/
def flowPair : Nat → Parse Node
  | 0 => refuse
  | fuel + 1 => do
    let key ←
      if (← peek) ∈ [.value, .flowEntry, .flowSequenceEnd] then do
        skip
        pure .absent
      else node fuel false false
    let value ← valueAfter [.flowEntry, .flowSequenceEnd] fuel false
    return .mapping {} [(key, value)]

/-- The entries of a flow mapping behind the first one, or all of them. -/
def flowEntries : Nat → (first : Bool) → Parse (List (Node × Node))
  | 0, _ => refuse
  | fuel + 1, first => do
    if (← peek) = .flowMappingEnd then
      skip
      return []
    if !first then expect .flowEntry
    match ← peek with
    | .flowMappingEnd => do
      skip
      return []
    | .key => do
      skip
      let key ← nodeUnless [.value, .flowEntry, .flowMappingEnd] (node fuel false false)
      let value ← valueAfter [.flowEntry, .flowMappingEnd] fuel false
      return (key, value) :: (← flowEntries fuel false)
    | _ => do
      let key ← node fuel false false
      return (key, .absent) :: (← flowEntries fuel false)

end

/-! ## Documents -/

def defaultHandles : List (String × String) :=
  [("!", "!"), ("!!", "tag:yaml.org,2002:")]

/-- The directives in front of a document: at most one version, which must be known, and handles,
each at most once. -/
def directives : Nat → (versioned : Bool) → List (String × String) → Parse (List (String × String))
  | 0, _, _ => refuse
  | fuel + 1, versioned, handles => do
    match ← peek with
    | .version major minor => do
      if versioned || major != 1 || !(minor == 1 || minor == 2) then refuse
      skip
      directives fuel true handles
    | .handle name uri => do
      if (handles.lookup name).isSome then refuse
      skip
      directives fuel versioned (handles ++ [(name, uri)])
    | _ => return handles

def isDirective : Token → Bool
  | .version _ _ => true
  | .handle _ _ => true
  | _ => false

/-- Skips the marks that may follow a document. -/
def skipEnds : Nat → Parse Unit
  | 0 => pure ()
  | fuel + 1 => do
    if (← peek) = .documentEnd then
      skip
      skipEnds fuel

/-- A document that begins with its directives and a mark. -/
def explicitDocument (fuel : Nat) : Parse Node := do
  let handles ← directives fuel false []
  modify fun state ↦ { state with handles := handles ++ defaultHandles }
  expect .documentStart
  let next ← peek
  if isDirective next || next ∈ [.documentStart, .documentEnd, .streamEnd] then return .absent
  else node fuel true false

/-- The only document of a text; a text may also have none. -/
def onlyDocument (fuel : Nat) : Parse (Option Node) := do
  let next ← peek
  if next = .streamEnd then return none
  let document ←
    if isDirective next || next = .documentStart then explicitDocument fuel
    else node fuel true false
  skipEnds fuel
  expect .streamEnd
  return some document

end Parse

/-- Reads a text with at most one document in it; the inner `none` is a text without any. -/
def parseDocument (text : String) : Option (Option Node) := do
  let tokens ← scan text.toList
  let fuel := 2 * tokens.length + 4
  let (document, _) ← Parse.onlyDocument fuel ⟨tokens, Parse.defaultHandles, []⟩
  return document

end WebScaffold.Yaml

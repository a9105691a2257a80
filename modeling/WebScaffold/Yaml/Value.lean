import WebScaffold.Json.Basic
import WebScaffold.Text.Search
import WebScaffold.Yaml.Meaning
import WebScaffold.Yaml.Parser

/-!
# Yaml as Json

The Json value of a Yaml document. Keys are the texts of their scalars; of two entries with the same
key the later one counts. Tags of one's own have no Json value. Aliases are replaced by what they
stand for; nesting is bounded, and so is the number of aliases that are followed, since aliases of
aliases can stand for more than there is room for.
-/

namespace WebScaffold.Yaml

def nullTag : String := "tag:yaml.org,2002:null"

def boolTag : String := "tag:yaml.org,2002:bool"

def intTag : String := "tag:yaml.org,2002:int"

def floatTag : String := "tag:yaml.org,2002:float"

/-- The name of a tag of one's own. -/
def ownTag? (tag : String) : Option String :=
  (Text.afterPrefix? ['!'] tag.toList).map String.ofList

def Properties.ownTag? (found : Properties) : Option String :=
  found.tag.bind Yaml.ownTag?

/-! ## Scalars -/

def Meaning.toJson? (text : String) : Meaning → Option Json
  | null => some .null
  | bool b => some (.bool b)
  | integer i => some (.number (.integer i))
  | hugeInteger => none
  | real x => some (.number (.real x))
  | notFinite => some .null
  | .text => some (.string text)

/-- The value of a scalar with a tag. A tag that means nothing here makes it a text. -/
def taggedValue? (tag text : String) : Option Json :=
  if tag = boolTag then (boolOf? text).map .bool
  else if tag = intTag then (integerMeaning? text).bind (·.toJson? text)
  else if tag = floatTag then (realMeaning? text).bind (·.toJson? text)
  else if tag = nullTag then if isNullText text then some .null else none
  else if (ownTag? tag).isSome then none
  else some (.string text)

def scalarValue? (tag? : Option String) (text : String) (style : ScalarStyle) : Option Json :=
  match tag?, style with
  | some tag, _ => taggedValue? tag text
  | none, .plain => (plainMeaning text).toJson? text
  | none, _ => some (.string text)

/-! ## Documents -/

/-- The node that an alias stands for. -/
def anchored? (nodes : List Node) (number : Nat) : Option Node :=
  nodes.reverse.find? fun node ↦ node.properties.anchor == some number

/-- What is left of the aliases that may be followed. -/
abbrev Following := StateT Nat Option

/-- A node itself, or the node that it is an alias of. -/
def follow (nodes : List Node) : Node → Following Node
  | .reference number => fun left ↦
    match left, anchored? nodes number with
    | left + 1, some node => some (node, left)
    | _, _ => none
  | node => pure node

/-- The text of a key. -/
def keyText (nodes : List Node) (key : Node) : Following String := do
  match ← follow nodes key with
  | .scalar _ text _ => return text
  | _ => fun _ ↦ none

/-- The value of a node whose parts are read by `part?`; without it the node must be a scalar. -/
def valueWith (nodes : List Node) (part? : Option (Node → Following Json)) (node : Node) :
    Following Json := do
  match ← follow nodes node, part? with
  | .scalar found text style, _ => fun left ↦ (scalarValue? found.tag text style).map (·, left)
  | .sequence found items, some part =>
    if found.ownTag?.isSome then fun _ ↦ none
    else return .array (← items.mapM part)
  | .mapping found entries, some part =>
    if found.ownTag?.isSome then fun _ ↦ none
    else
      let members ← entries.mapM fun (key, value) ↦ do
        let name ← keyText nodes key
        return (name, ← part value)
      return .ofMembers members
  | _, _ => fun _ ↦ none

/-- The value of a node that nests at most `depth` levels of collections. -/
def valueOf (nodes : List Node) : (depth : Nat) → Node → Following Json
  | 0 => valueWith nodes none
  | depth + 1 => valueWith nodes (some (valueOf nodes depth))

/-- The levels of nesting that a document may have. -/
def nestingLimit : Nat := 128

/-- How many aliases may be followed for each mark in the document. -/
def aliasesPerMark : Nat := 100

def documentValue? (document : Node) : Option Json :=
  let nodes := document.nodes
  let marks := nodes.foldl (· + ·.marks) 0
  ((valueOf nodes nestingLimit document).run (aliasesPerMark * marks)).map (·.1)

/-- The value of a text; one without a document is null. -/
def parse? (text : String) : Option Json := do
  match ← parseDocument text with
  | none => return .null
  | some document => documentValue? document

end WebScaffold.Yaml

import WebScaffold.Settings.Basic
import WebScaffold.Yaml.Value

/-!
# Stored settings

Settings are stored as a Yaml mapping in which everything may be missing. Entries with other names
are passed over; an entry that is there twice is refused.
-/

namespace WebScaffold.Settings

open Yaml

/-- The node that an alias in the settings stands for. -/
def resolved? (nodes : List Node) : Node → Option Node
  | .reference number => anchored? nodes number
  | node => some node

def text? (nodes : List Node) (node : Node) : Option String := do
  match ← resolved? nodes node with
  | .scalar _ text _ => return text
  | _ => none

/-- A natural number of at most eight bytes, as a scalar that is not in quotes. -/
def number? (nodes : List Node) (node : Node) : Option Nat := do
  match ← resolved? nodes node with
  | .scalar found text style =>
    if style = .plain ∨ (style = .literal ∧ found.tag = some intTag) then
      (natural? text.toList).filter (· < Nat.pow 2 64)
    else none
  | _ => none

def word? (nodes : List Node) (node : Node) : Option Nat :=
  (number? nodes node).filter (· < Nat.pow 2 32)

/-- Whether a node says that there is no value; a node tagged as null has to be null. -/
def isAbsent? (nodes : List Node) (node : Node) : Option Bool := do
  match ← resolved? nodes node with
  | .scalar found text .plain =>
    match found.tag with
    | none => return text == "" || isNullText text
    | some tag => if tag ≠ nullTag then some false else if isNullText text then some true else none
  | _ => return false

/-- A value that may be absent. -/
def optional? {α : Type} (value? : List Node → Node → Option α) (nodes : List Node) (node : Node) :
    Option (Option α) := do
  if ← isAbsent? nodes node then return none
  let value ← value? nodes node
  return some value

/-- A provider, by its name as a text or as the tag of an empty node. -/
def provider? (nodes : List Node) (node : Node) : Option Provider := do
  match ← resolved? nodes node with
  | .scalar found text style =>
    match found.ownTag? with
    | none => Variant.ofName? text
    | some name =>
      if style = .plain ∧ (text = "" ∨ isNullText text) then Variant.ofName? name else none
  | _ => none

/-- The settings with the value of one more entry. -/
def withEntry? (nodes : List Node) (name : String) (node : Node) (settings : Settings) :
    Option Settings := do
  match name with
  | "provider" => return { settings with provider := ← provider? nodes node }
  | "model" => return { settings with model := ← optional? text? nodes node }
  | "timeout_secs" => return { settings with timeoutSeconds := ← number? nodes node }
  | "correction_backoff_ms" => return { settings with correctionBackoff := ← number? nodes node }
  | "openai_base_url" => return { settings with baseUrl := ← optional? text? nodes node }
  | "max_completion_tokens" =>
    return { settings with maxCompletionTokens := ← optional? word? nodes node }
  | _ => return settings

def knownNames : List String :=
  ["provider", "model", "timeout_secs", "correction_backoff_ms", "openai_base_url",
    "max_completion_tokens"]

/-- The settings with the given entries, of which the names `seen` were there before. -/
def withEntries? (nodes : List Node) (seen : List String) (settings : Settings) :
    List (Node × Node) → Option Settings
  | [] => some settings
  | (key, value) :: entries => do
    let name ← text? nodes key
    if name ∈ seen ∧ name ∈ knownNames then none
    let settings ← settings.withEntry? nodes name value
    withEntries? nodes (name :: seen) settings entries

/-- The settings in a text; a text without anything in it stands for the usual ones. -/
def parse? (text : String) : Option Settings := do
  match ← parseDocument text with
  | none => return {}
  | some (.scalar _ "" .plain) => return {}
  | some (.mapping found entries) =>
    withEntries? (Node.mapping found entries).nodes [] {} entries
  | _ => none

end WebScaffold.Settings

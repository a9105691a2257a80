import WebScaffold.Issue
import WebScaffold.Json.Printer
import WebScaffold.Schema.Basic

/-!
# Checking values against a schema

All that is wrong with a value, in a fixed order: first the parts of the value in their order, then
unknown members or too few items, then missing members, last the type. A value of the wrong type
has that one issue only, and a value that fits no alternative has one issue and none inside.
-/

namespace WebScaffold.Schema

open Json

def showValue (v : Json) : String :=
  v.print

def wrongType (path : String) (v : Json) (type : String) : Issue :=
  .about path (showValue v ++ " is not of type \"" ++ type ++ "\"")

/-- A count of things, in the singular for one. -/
def counted (n : Nat) (thing : String) : String :=
  s!"{n} {thing}" ++ if n = 1 then "" else "s"

/-- The issue about the members that the schema does not know, if there are any. -/
def unknownMembers (path : String) (keys : List String) : List Issue :=
  let listed := ", ".intercalate (keys.map fun key ↦ "'" ++ key ++ "'")
  match keys with
  | [] => []
  | [_] => [.about path ("Additional properties are not allowed (" ++ listed ++ " was unexpected)")]
  | _ => [.about path ("Additional properties are not allowed (" ++ listed ++ " were unexpected)")]

def missingMember (path key : String) : Issue :=
  .about path (String.ofList (printString key) ++ " is a required property")

/-- The issues of a lower limit on a length. -/
def tooShort (path : String) (v : Json) (length : Nat) (verb thing : String) :
    Option Nat → List Issue
  | some least =>
    if length < least then
      [.about path (showValue v ++ " " ++ verb ++ " than " ++ counted least thing)]
    else []
  | none => []

mutual

/-- The issues of a value at a path. -/
def issues (path : String) (v : Json) : Schema → List Issue
  | text minLength =>
    match v with
    | .string s => tooShort path v s.length "is shorter" "character" minLength
    | _ => [wrongType path v "string"]
  | flag =>
    match v with
    | .bool _ => []
    | _ => [wrongType path v "boolean"]
  | nothing => if v = .null then [] else [wrongType path v "null"]
  | oneOf names =>
    if names.any (fun name ↦ v == .string name) then []
    else [.about path (showValue v ++ " is not one of " ++ showValue (ofStrings names))]
  | list minItems item =>
    match v with
    | .array items =>
      (items.zipIdx.flatMap fun (part, i) ↦ issues (path ++ s!"/{i}") part item) ++
        tooShort path v items.length "has less" "item" minItems
    | _ => [wrongType path v "array"]
  | record required properties =>
    match v with
    | .object members =>
      (members.flatMap fun (key, part) ↦ memberIssues (path ++ "/" ++ key) key part properties) ++
        unknownMembers path
          ((members.map Prod.fst).filter fun key ↦ !(properties.map Prod.fst).contains key) ++
        ((required.filter fun key ↦ !(members.map Prod.fst).contains key).map (missingMember path))
    | _ => [wrongType path v "object"]
  | openRecord =>
    match v with
    | .object _ => []
    | _ => [wrongType path v "object"]
  | anyOf alternatives =>
    if fitsAny path v alternatives then []
    else
      [.about path
        (showValue v ++ " is not valid under any of the schemas listed in the 'anyOf' keyword")]
  | definition _ body => issues path v body

/-- The issues of a member whose key the schema may know. -/
def memberIssues (path key : String) (v : Json) : List (String × Schema) → List Issue
  | [] => []
  | (name, schema) :: rest =>
    if name = key then issues path v schema else memberIssues path key v rest

def fitsAny (path : String) (v : Json) : List Schema → Bool
  | [] => false
  | schema :: rest => (issues path v schema).isEmpty || fitsAny path v rest

end

end WebScaffold.Schema

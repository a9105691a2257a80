import WebScaffold.Json.Basic

/-!
# Schemas

The part of the Json Schema language that describes records with closed sets of members: types,
lengths, choices between names, alternatives, and named definitions. A definition stands where it is
used and is written as a reference, so a schema holds all that is needed to check a value.
-/

namespace WebScaffold

inductive Schema where
  /-- A text of at least `minLength` characters, if that is given. -/
  | text (minLength : Option Nat)
  | flag
  | nothing
  /-- One of the given texts. -/
  | oneOf (names : List String)
  | list (minItems : Option Nat) (item : Schema)
  /-- An object without other members than the ones listed. -/
  | record (required : List String) (properties : List (String × Schema))
  /-- An object with any members. -/
  | openRecord
  | anyOf (alternatives : List Schema)
  | definition (name : String) (body : Schema)
deriving Repr, Inhabited

namespace Schema

open Json

/-- The member that states a type. -/
def typeMember (name : String) : String × Json :=
  ("type", .string name)

def limitMember (name : String) : Option Nat → List (String × Json)
  | some n => [(name, ofNat n)]
  | none => []

mutual

/-- The members of the object that writes a schema. -/
def members : Schema → List (String × Json)
  | text minLength => typeMember "string" :: limitMember "minLength" minLength
  | flag => [typeMember "boolean"]
  | nothing => [typeMember "null"]
  | oneOf names => [("enum", ofStrings names)]
  | list minItems item =>
    [typeMember "array", ("items", ofMembers (members item))] ++ limitMember "minItems" minItems
  | record required properties =>
    [typeMember "object", ("additionalProperties", .bool false), ("required", ofStrings required),
      ("properties", ofMembers (propertyMembers properties))]
  | openRecord => [typeMember "object"]
  | anyOf alternatives => [("anyOf", .array (alternativeItems alternatives))]
  | definition name _ => [("$ref", .string ("#/$defs/" ++ name))]

def propertyMembers : List (String × Schema) → List (String × Json)
  | [] => []
  | (name, schema) :: rest => (name, ofMembers (members schema)) :: propertyMembers rest

def alternativeItems : List Schema → List Json
  | [] => []
  | schema :: rest => ofMembers (members schema) :: alternativeItems rest

end

mutual

/-- The definitions that a schema refers to, each with the object that writes it. -/
def definitions : Schema → List (String × Json)
  | list _ item => definitions item
  | record _ properties => propertyDefinitions properties
  | anyOf alternatives => alternativeDefinitions alternatives
  | definition name body => (name, ofMembers (members body)) :: definitions body
  | _ => []

def propertyDefinitions : List (String × Schema) → List (String × Json)
  | [] => []
  | (_, schema) :: rest => definitions schema ++ propertyDefinitions rest

def alternativeDefinitions : List Schema → List (String × Json)
  | [] => []
  | schema :: rest => definitions schema ++ alternativeDefinitions rest

end

/-- The document that writes a schema together with its definitions. -/
def document (title description : String) (schema : Schema) : Json :=
  ofMembers <|
    [("$schema", .string "https://json-schema.org/draft/2020-12/schema"),
      ("title", .string title), ("description", .string description)] ++
      schema.members ++ [("$defs", ofMembers schema.definitions)]

end Schema

end WebScaffold

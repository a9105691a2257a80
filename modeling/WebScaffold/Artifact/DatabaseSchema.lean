import WebScaffold.Noted
import WebScaffold.Spec.Basic
import WebScaffold.Text.Blank
import WebScaffold.Text.Lines

/-!
# The database schema

The schema of a project's database: a model for each entity, with two generated columns and one for
each field, and an enum for each enum field. Two fields whose names come to the same column cannot
both have it; the later one is left out with a warning.
-/

namespace WebScaffold.Artifact

def isIdentifierPart (c : Char) : Bool :=
  c.isAlphanum || c == '_'

/-- A name as an identifier: underscores for what may not stand in one, and a letter in front where
there is none. -/
def identifierChars (name : List Char) : List Char :=
  let cleaned := (Text.trimChars name).map fun c ↦ if isIdentifierPart c then c else '_'
  if cleaned.head?.any Char.isAlpha then cleaned else 'x' :: cleaned

def identifierOf (name : String) : String :=
  String.ofList (identifierChars name.toList)

/-- The columns that every model has. -/
def ownColumns : List String :=
  ["id", "createdAt"]

/-- The type of a column; an enum field's is the enum itself. -/
def columnType (enumName : String) : FieldType → String
  | .string | .text => "String"
  | .int => "Int"
  | .float => "Float"
  | .bool => "Boolean"
  | .date | .datetime => "DateTime"
  | .json => "Json"
  | .enum => enumName

def enumBlock (enumName : String) (values : List String) : String :=
  "enum " ++ enumName ++ r" {" ++ "\n" ++
    "\n".intercalate (values.map fun value ↦ "  " ++ identifierOf value) ++ "\n" ++ r"}"

/-- The enums and the column lines of a model. -/
structure ModelParts where
  enums : List String
  columns : List String
deriving DecidableEq, Repr

/-- The parts that one field adds to a model. -/
def fieldParts (model column : String) (field : EntityField) : ModelParts :=
  let enumName := identifierOf (model ++ "_" ++ column)
  let mark := if field.isOptional then "?" else ""
  { enums := if field.type = .enum then [enumBlock enumName field.values] else []
    columns := ["  " ++ column ++ " " ++ columnType enumName field.type ++ mark] }

/-- The parts of the given fields where the columns `taken` are there already. -/
def modelParts (model : String) (taken : List String) : List EntityField → Noted ModelParts
  | [] => pure ⟨[], []⟩
  | field :: fields => do
    let column := identifierOf field.name
    if column ∈ taken then
      Noted.warn "field collides with an existing column, skipped"
        [("model", model), ("field", field.name)]
      modelParts model taken fields
    else
      let part := fieldParts model column field
      let rest ← modelParts model (column :: taken) fields
      return ⟨part.enums ++ rest.enums, part.columns ++ rest.columns⟩

def modelBlock (model : String) (columns : List String) : String :=
  "\n".intercalate <|
    ["model " ++ model ++ r" {", "  id        String   @id @default(cuid())",
      "  createdAt DateTime @default(now())"] ++ columns ++ [r"}"]

/-- The enums of an entity and its model. -/
def entityBlocks (entity : Entity) : Noted (List String × String) := do
  let model := identifierOf entity.name
  let parts ← modelParts model ownColumns entity.fields
  return (parts.enums, modelBlock model parts.columns)

def schemaHead : String :=
  "\n".intercalate
    [r"generator client {", r#"  provider = "prisma-client-js""#, r"}", "", r"datasource db {",
      r#"  provider = "postgresql""#, r#"  url      = env("DATABASE_URL")"#, r"}"]

/-- The schema of the entities: all enums come before the models. -/
def databaseSchema (entities : List Entity) : Noted String := do
  let blocks ← entities.mapM entityBlocks
  let all := schemaHead :: (blocks.flatMap (·.1) ++ blocks.map (·.2))
  return "\n\n".intercalate all ++ "\n"

end WebScaffold.Artifact

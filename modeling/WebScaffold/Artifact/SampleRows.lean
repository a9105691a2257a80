import WebScaffold.Json.Printer
import WebScaffold.Route
import WebScaffold.Timestamp

/-!
# Fixtures

Rows for pages that have no database to ask: ten for each entity, made up from the number of the row
and the names and types of the fields, so that equal entities have equal rows.
-/

namespace WebScaffold.Artifact

def rowCount : Nat := 10

/-- The entity of an app that has none. -/
def sampleEntity : Entity :=
  { name := "Item"
    fields :=
      [{ name := "title", type := .string }, { name := "author", type := .string },
        { name := "condition", type := .string }] }

def conditionWords : List String :=
  ["new", "good", "fair"]

/-- The values of an enum that has none. -/
def fallbackValues : List String :=
  ["A", "B", "C"]

/-- The text at a number's place, going round in the list. -/
def cyclic (texts : List String) (number : Nat) : Json :=
  .string ((texts[number % texts.length]?).getD "")

def withNumber (text : String) (number : Nat) : Json :=
  .string s!"{text} {number}"

/-- The number and a half. -/
def andHalf (number : Nat) : Json :=
  match Binary64.ofRatio false (2 * number + 1) 2 with
  | some x => .number (.real x)
  | none => .null

/-- The start of the year 2024, from which dates count back. -/
def rowEpoch : Int := 1704067200

/-- The start of the day so many days before. -/
def dayBefore (number : Nat) : Json :=
  .string (Instant.text (rowEpoch - Instant.secondsPerDay * number))

/-- The value of a field by its type. -/
def typedValue (field : EntityField) (number : Nat) : Json :=
  match field.type with
  | .int => .ofNat number
  | .float => andHalf number
  | .bool => .bool (number % 2 == 0)
  | .enum => cyclic (if field.values = [] then fallbackValues else field.values) number
  | .date | .datetime => dayBefore number
  | .json => .ofMembers [("sample", .ofNat number)]
  | .string | .text => withNumber field.name number

/-- The value of a field, whose name may say more than its type. -/
def sampleValue (entity : String) (field : EntityField) (number : Nat) : Json :=
  if field.name = "title" then withNumber entity number
  else if field.name = "author" then withNumber "Author" number
  else if field.name = "condition" then cyclic conditionWords number
  else typedValue field number

def sampleRow (entity : Entity) (number : Nat) : Json :=
  .ofMembers <|
    ("id", .string (toString number)) ::
      entity.fields.map fun field ↦ (field.name, sampleValue entity.name field number)

def entityRows (entity : Entity) : List Json :=
  (List.range rowCount).map fun place ↦ sampleRow entity (place + 1)

/-- The collection of an entity's rows. -/
def collectionName (entity : Entity) : String :=
  Route.pluralOf (Text.lower entity.name)

def sampleDocument (entities : List Entity) : Json :=
  let entities := if entities = [] then [sampleEntity] else entities
  .ofMembers (entities.map fun entity ↦ (collectionName entity, .array (entityRows entity)))

/-- The fixtures as a file. -/
def sampleFile (entities : List Entity) : String :=
  (sampleDocument entities).pretty ++ "\n"

end WebScaffold.Artifact

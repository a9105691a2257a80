import WebScaffold.Issue
import WebScaffold.Route

/-!
# Rules between the parts of a specification

What a schema cannot say: page paths stay inside the app, names are unique among the entities and
among the fields of an entity, and a field has values to choose from exactly when it is an enum.
-/

namespace WebScaffold.AppSpec

def pagePathIssues (place : Nat) (page : PageDescriptor) : List Issue :=
  match Route.pathProblem? page.pagePath with
  | some problem =>
    [.about s!"/features/pages/{place}" ("page path '" ++ page.pagePath ++ "' " ++ problem.message)]
  | none => []

/-- The issue of an enum without values or of values without an enum. -/
def enumIssues (path : String) (field : EntityField) : List Issue :=
  match field.type == .enum, field.values.isEmpty with
  | true, true => [.about (path ++ "/enumValues") "enum type requires enumValues"]
  | false, false =>
    [.about (path ++ "/enumValues") "enumValues is only allowed when type is enum"]
  | _, _ => []

/-- The issues of the fields from a place on, after the fields with the names `seen`. -/
def fieldIssues (path entity : String) (seen : List String) (place : Nat) :
    List EntityField → List Issue
  | [] => []
  | field :: fields =>
    let here := path ++ s!"/fields/{place}"
    let repeated :=
      if field.name ∈ seen then
        [Issue.about (here ++ "/name")
          ("duplicate field '" ++ field.name ++ "' in entity '" ++ entity ++ "'")]
      else []
    repeated ++ enumIssues here field ++
      fieldIssues path entity (field.name :: seen) (place + 1) fields

/-- The issues of the entities from a place on, after the entities with the names `seen`. -/
def entityIssues (seen : List String) (place : Nat) : List Entity → List Issue
  | [] => []
  | entity :: entities =>
    let here := s!"/app/entities/{place}"
    let repeated :=
      if entity.name ∈ seen then
        [Issue.about (here ++ "/name") ("duplicate entity name '" ++ entity.name ++ "'")]
      else []
    repeated ++ fieldIssues here entity.name [] 0 entity.fields ++
      entityIssues (entity.name :: seen) (place + 1) entities

/-- All violated rules: first those of the pages, then those of the entities. -/
def ruleIssues (spec : AppSpec) : List Issue :=
  (spec.features.pages.zipIdx.flatMap fun (page, place) ↦ pagePathIssues place page) ++
    entityIssues [] 0 spec.app.entities

end WebScaffold.AppSpec

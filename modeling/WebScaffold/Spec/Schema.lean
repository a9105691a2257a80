import WebScaffold.Schema.Basic
import WebScaffold.Spec.Basic

/-!
# The schema of specifications

What a document must look like to be read as a specification. It is stricter than reading: texts
must not be empty, and synthesized section texts have a least length.
-/

namespace WebScaffold.AppSpec

open Schema

/-- A text with at least one character. -/
def filledText : Schema :=
  .text (some 1)

def anyText : Schema :=
  .text none

def choice (α : Type) [Variant α] : Schema :=
  .oneOf (Variant.names α)

/-- The least number of characters of a section's headline. -/
def headlineMinimum : Nat := 18

/-- The least number of characters of a section's subhead. -/
def subheadMinimum : Nat := 30

/-- The least number of bullets in a section that has bullets. -/
def bulletsMinimum : Nat := 3

def fieldSchema : Schema :=
  .definition "field" <| .record ["name", "type"]
    [("name", filledText), ("type", choice FieldType), ("enumValues", .list none filledText),
      ("optional", .flag)]

def entitySchema : Schema :=
  .definition "entity" <| .record ["name", "fields"]
    [("name", filledText), ("fields", .list none fieldSchema)]

def sectionSchema : Schema :=
  .definition "section" <| .record ["kind"]
    [("kind", choice SectionKind), ("headline", .text (some headlineMinimum)),
      ("subhead", .text (some subheadMinimum)), ("bullets", .list (some bulletsMinimum) anyText),
      ("fields", .list none anyText)]

/-- A page with its purpose and content. -/
def detailedPageSchema : Schema :=
  .record ["path", "purpose"]
    [("path", filledText), ("purpose", choice PagePurpose), ("entity", anyText),
      ("sections", .list (some 1) sectionSchema)]

def pageSchema : Schema :=
  .definition "page" <| .anyOf [filledText, detailedPageSchema]

def integrationSchema : Schema :=
  .definition "integration" <| .record ["provider"]
    [("provider", choice IntegrationProvider), ("name", anyText), ("config", .openRecord)]

def appSchema : Schema :=
  .record ["name", "purpose", "roles"]
    [("name", filledText), ("purpose", filledText), ("roles", .list (some 1) filledText),
      ("entities", .list none entitySchema)]

def featuresSchema : Schema :=
  .record ["auth", "pages"]
    [("auth", choice AuthMode), ("pages", .list (some 1) pageSchema), ("uploads", .flag),
      ("emails", .flag), ("payments", .flag), ("integrations", .list none integrationSchema)]

def runtimeSchema : Schema :=
  .record ["renderMode", "database"]
    [("renderMode", choice RenderMode), ("database", choice Database)]

def deploySchema : Schema :=
  .record ["target"]
    [("target", choice DeployTarget), ("domain", .anyOf [filledText, .nothing])]

def schema : Schema :=
  .record ["blueprint", "app", "features", "runtime", "deploy"]
    [("blueprint", choice Blueprint), ("app", appSchema), ("features", featuresSchema),
      ("runtime", runtimeSchema), ("deploy", deploySchema)]

/-- The schema as a document, for text generators. -/
def schemaDocument : Json :=
  schema.document "AppSpec" "Intermediate representation of an application to scaffold."

end WebScaffold.AppSpec

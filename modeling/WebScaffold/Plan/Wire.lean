import WebScaffold.Plan.Basic
import WebScaffold.Spec.Wire

/-!
# Plans as documents

How routes and build plans are written as Json documents.
-/

namespace WebScaffold

open Json

def PathParameter.encode (param : PathParameter) : Json :=
  ofMembers [("name", .string param.name), ("catch_all", .bool param.catchAll)]

def Route.encode (route : Route) : Json :=
  ofMembers <|
    [("path", .string route.path), ("segments", ofStrings route.segments),
      ("kind", encodeVariant route.kind), ("collection", .string route.collection),
      ("singular", .string route.singular)] ++
      optionalMember "param" PathParameter.encode route.param

def FileSource.encode : FileSource → Json
  | template id => ofMembers [("kind", .string "file"), ("id", .string id)]
  | page route => ofMembers [("kind", .string "page"), ("route", route.encode)]

/-- An object with texts as the values of its members. -/
def encodeTexts (texts : Table String) : Json :=
  .object (texts.map fun (key, text) ↦ (key, .string text))

def PlannedFile.encode (file : PlannedFile) : Json :=
  ofMembers
    [("path", .string file.path), ("template", file.source.encode),
      ("tokens", encodeTexts file.tokens)]

def ProjectPlan.encode (plan : ProjectPlan) : Json :=
  ofMembers
    [("is_ssr", .bool plan.rendersOnServer), ("needs_db", .bool plan.needsDatabase),
      ("needs_auth", .bool plan.needsAuth), ("deploy_target", encodeVariant plan.target),
      ("deps", ofStrings plan.dependencies), ("dev_deps", ofStrings plan.devDependencies),
      ("files", .array (plan.files.map PlannedFile.encode))]

end WebScaffold

import WebScaffold.Plan.Wire
import WebScaffold.Project

/-!
# Summaries

What is told about a project that was made: a summary for programs, or the next steps for people.
-/

namespace WebScaffold.Project

/-- The summary, with its members in the customary order. -/
def summary (project : Project) : List (String × Json) :=
  [("out_dir", .string project.written.root.text), ("app_name", .string project.spec.app.name),
    ("render_mode", encodeVariant project.spec.runtime.renderMode),
    ("deploy_target", encodeVariant project.plan.target),
    ("is_ssr", .bool project.plan.rendersOnServer), ("needs_db", .bool project.plan.needsDatabase),
    ("needs_auth", .bool project.plan.needsAuth),
    ("files", Json.ofStrings project.written.paths)]

def summaryText (project : Project) : String :=
  (Json.object project.summary).pretty ++ "\n"

/-- What is left to do once the project is written. -/
def remainingSteps (project : Project) (installed : Bool) : List String :=
  if installed then ["  2) npm run dev"]
  else
    ["  2) npm i", "  3) npm run typecheck && npm run build", "  4) npm run dev"] ++
      if project.plan.needsDatabase then
        ["  Set DATABASE_URL in .env before running against a database."]
      else []

def nextSteps (project : Project) (installed : Bool) : String :=
  let root := project.written.root.text
  let mode := Variant.name project.spec.runtime.renderMode
  let target := Variant.name project.plan.target
  Text.lines <|
    [s!"Scaffold complete at: {root} ({project.written.paths.length} files, {mode}, {target})",
      "Next steps:", s!"  1) cd {root}"] ++ project.remainingSteps installed

end WebScaffold.Project

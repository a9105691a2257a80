import WebScaffold.Json.Printer
import WebScaffold.Plan.Basic
import WebScaffold.Text.Lines

/-!
# The package manifest

The manifest by which the project's packages are installed and its scripts run, and the example of
the environment that it reads.
-/

namespace WebScaffold.Artifact

/-- The name of a package: the words of the app's name in lower case, joined by hyphens. -/
def packageNameOf (appName : String) : String :=
  "-".intercalate ((Text.words (Text.lower appName).toList).map String.ofList)

def anyVersion : String := "*"

/-- The name and the version of a `name@version` text. An `@` in front belongs to the name. -/
def parseDependency (text : String) : String × String :=
  match Text.cutAtLast? '@' text.toList with
  | some (name@(_ :: _), version) =>
    (String.ofList name, if version = [] then anyVersion else String.ofList version)
  | _ => (text, anyVersion)

/-- Packages with their versions, sorted by name; of two versions the later one counts. -/
def dependencyTable (dependencies : List String) : Json :=
  .ofMembers (dependencies.map fun text ↦
    ((parseDependency text).1, .string (parseDependency text).2))

def buildScript : DeployTarget → String
  | .vercel => "next build"
  | .githubPages => "GITHUB_PAGES=true next build"

/-- The scripts, in the order in which they are shown. -/
def scriptEntries (plan : ProjectPlan) : List (String × String) :=
  [("dev", "next dev"), ("build", buildScript plan.target), ("start", "next start"),
    ("lint", r#"echo "No linter configured""#), ("typecheck", "tsc --noEmit"),
    ("seed", "tsx prisma/seed.ts")] ++
    if plan.needsDatabase then [("postinstall", "prisma generate")] else []

/-- The manifest, whose members stand in the customary order. -/
def manifest (appName : String) (plan : ProjectPlan) : Json :=
  .object
    [("name", .string (packageNameOf appName)), ("private", .bool true), ("type", .string "module"),
      ("scripts",
        .object ((scriptEntries plan).map fun (name, command) ↦ (name, .string command))),
      ("dependencies", dependencyTable plan.dependencies),
      ("devDependencies", dependencyTable plan.devDependencies)]

/-- The manifest as a file. -/
def manifestFile (appName : String) (plan : ProjectPlan) : String :=
  (manifest appName plan).pretty ++ "\n"

/-! ## The environment -/

def authVariables : AuthMode → List String
  | .googleOauth => ["GOOGLE_CLIENT_ID=", "GOOGLE_CLIENT_SECRET=", "NEXTAUTH_SECRET="]
  | .emailMagic => ["# RESEND_API_KEY="]
  | .none => []

/-- A line for each secret that the app reads. -/
def environmentExample (auth : AuthMode) (plan : ProjectPlan) : String :=
  Text.lines ((if plan.needsDatabase then ["DATABASE_URL="] else []) ++ authVariables auth)

end WebScaffold.Artifact

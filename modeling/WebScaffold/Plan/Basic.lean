import WebScaffold.Route
import WebScaffold.Spec.Repair

/-!
# Build plans

What a specification comes to: the packages that the project installs and its files in the order in
which they are written, each with the texts that its tokens stand for. The files that every project
has come first, and a module for each page follows.
-/

namespace WebScaffold

/-- What a planned file is made of: a template from the library, or the module of a page. -/
inductive FileSource where
  | template (id : String)
  | page (route : Route)
deriving DecidableEq, Repr

structure PlannedFile where
  /-- The place of the file in the project. -/
  path : String
  source : FileSource
  /-- The texts that the tokens of the file stand for. -/
  tokens : Table String
deriving DecidableEq, Repr

structure ProjectPlan where
  rendersOnServer : Bool
  needsDatabase : Bool
  needsAuth : Bool
  target : DeployTarget
  /-- Packages as `name@version`, in install order. -/
  dependencies : List String
  devDependencies : List String
  files : List PlannedFile
deriving DecidableEq, Repr

/-- Static pages read fixtures only, so fixtures are made unless a server can query a database. -/
def ProjectPlan.needsSamples (plan : ProjectPlan) : Bool :=
  !plan.needsDatabase || !plan.rendersOnServer

namespace Plan

/-! ## Packages -/

def baseDependencies : List String :=
  ["next@14", "react@18", "react-dom@18", "zod@^3", "dotenv@^16"]

def baseDevDependencies : List String :=
  ["typescript@^5", "@types/node@^20", "@types/react@^18", "@types/react-dom@^18"]

def databaseDependency : String := "@prisma/client@^5"

def databaseDevDependency : String := "prisma@^5"

def authDependency : String := "next-auth@^5"

/-! ## Tokens -/

def Token.appName : String := "__APP_NAME__"

def Token.subhead : String := "__SUBHEAD__"

def Token.collection : String := "__COLLECTION__"

def Token.singular : String := "__SINGULAR__"

def Token.primaryHref : String := "__PRIMARY_HREF__"

def Token.primaryLabel : String := "__PRIMARY_LABEL__"

def Token.features : List String :=
  ["__FEATURE_1__", "__FEATURE_2__", "__FEATURE_3__"]

/-- The files that every project has, with the templates they are made of. -/
def projectFiles : List (String × String) :=
  [("next.config.mjs", "web_app/next.config.mjs"),
    ("tsconfig.json", "web_app/tsconfig.json"),
    ("next-env.d.ts", "web_app/next-env.d.ts"),
    ("src/app/layout.tsx", "web_app/src/app/layout.tsx"),
    ("src/app/(marketing)/page.tsx", "web_app/src/app/(marketing)/page.tsx"),
    ("src/app/(app)/layout.tsx", "web_app/src/app/(app)/layout.tsx"),
    ("src/components/ui/Button.tsx", "web_app/src/components/ui/Button.tsx"),
    ("public/favicon.ico", "web_app/public/favicon.ico"),
    ("src/lib/db.ts", "web_app/src/lib/db.ts"),
    ("prisma/seed.ts", "web_app/prisma/seed.ts"),
    (".github/workflows/ci.yml", "web_app/github/workflows/ci.yml")]

/-- The bullets with default ones in the places that are left. -/
def fillBullets (bullets : List String) : List String :=
  bullets ++ AppSpec.usualBullets.drop bullets.length

end Plan

namespace AppSpec

open Plan

/-- The routes of the pages, in order; the root page has none. -/
def routes (spec : AppSpec) : List Route :=
  spec.features.pages.filterMap PageDescriptor.route?

/-- The link of the landing page's call to action and its label: the first page that lists a
collection, or else the root page. -/
def callToAction (spec : AppSpec) : String × String :=
  match spec.routes.find? (·.kind == .list) with
  | some route => (route.path, "Browse " ++ Text.capitalize route.collection)
  | none => ("/", "Get started")

/-- The sections of all landing pages. -/
def landingSections (spec : AppSpec) : List PageSection :=
  spec.features.pages.flatMap fun
    | .detailed page => if page.purpose = .landing then page.sections.getD [] else []
    | .path _ => []

/-- The bullets of the first features section of a landing page. -/
def featureBullets (spec : AppSpec) : List String :=
  match spec.landingSections.find? (·.kind == .features) with
  | some part => part.bullets.getD []
  | none => []

/-- The tokens of every file. -/
def commonTokens (spec : AppSpec) : Table String :=
  Table.ofList <|
    [(Token.appName, spec.app.name), (Token.subhead, spec.app.purpose),
      (Token.primaryHref, spec.callToAction.1), (Token.primaryLabel, spec.callToAction.2)] ++
      Token.features.zip (fillBullets spec.featureBullets)

def projectFile (tokens : Table String) (path id : String) : PlannedFile :=
  ⟨path, .template id, tokens⟩

/-- The module of a page, with the names of its collection as further tokens. -/
def pageFile (tokens : Table String) (route : Route) : PlannedFile :=
  ⟨route.modulePath, .page route,
    tokens.insertAll [(Token.collection, route.collection), (Token.singular, route.singular)]⟩

def plan (spec : AppSpec) : ProjectPlan :=
  let needsDatabase := spec.runtime.database != .none
  { rendersOnServer := spec.runtime.renderMode == .server
    needsDatabase
    needsAuth := spec.requiresAuth
    target := spec.deploy.target
    dependencies :=
      baseDependencies ++ (if needsDatabase then [databaseDependency] else []) ++
        (if spec.requiresAuth then [authDependency] else [])
    devDependencies :=
      baseDevDependencies ++ (if needsDatabase then [databaseDevDependency] else [])
    files :=
      (projectFiles.map fun (path, id) ↦ projectFile spec.commonTokens path id) ++
        spec.routes.map (pageFile spec.commonTokens) }

end AppSpec

end WebScaffold

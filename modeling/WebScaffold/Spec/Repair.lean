import WebScaffold.Noted
import WebScaffold.Spec.Schema

/-!
# Repairs

What is put right before an app is planned. Static hosting forces static pages, and a server host
with sign-in forces pages from the server; this is done on drafts that are not decoded yet as well
as on specifications. A landing page gets a hero at its beginning and features at its end where it
lacks them. Nothing is ever taken away.
-/

namespace WebScaffold

/-- The render mode that a target and sign-in leave no choice about. -/
def forcedRenderMode : DeployTarget → (authRequired : Bool) → Option RenderMode
  | .githubPages, _ => some .static
  | .vercel, true => some .server
  | .vercel, false => none

namespace Draft

open Json

/-- The value under a key of the object under another key. -/
def part? (outer inner : String) (draft : Json) : Option Json :=
  (draft.member? outer).bind (·.member? inner)

def target? (draft : Json) : Option DeployTarget :=
  ((part? "deploy" "target" draft).bind string?).bind Variant.ofName?

/-- Whether the draft asks for sign-in of whatever kind. -/
def wantsAuth (draft : Json) : Bool :=
  match (part? "features" "auth" draft).bind string? with
  | some auth => auth ≠ Variant.name AuthMode.none
  | none => false

/-- The members of a draft's runtime; a missing runtime has none. -/
def runtimeMembers? (draft : Json) : Option (List (String × Json)) :=
  match draft.member? "runtime" with
  | none => some []
  | some (object members) => some members
  | some _ => none

/-- The draft with the given members as its runtime. -/
def withRuntime (runtime : List (String × Json)) : Json → Json
  | object members => object (Table.insert "runtime" (object runtime) members)
  | draft => draft

/-- Sets the render mode that the draft's target requires. Drafts without a known target and drafts
of another shape are left to the schema. -/
def repair (draft : Json) : Noted Json :=
  match target? draft with
  | none => pure draft
  | some target =>
    match forcedRenderMode target (wantsAuth draft), runtimeMembers? draft with
    | some mode, some runtime =>
      let current := (runtime.lookup "renderMode").bind string?
      if current = some (Variant.name mode) then pure draft
      else do
        Noted.warn "draft render mode overridden by deploy target"
          [("deploy", Variant.name target), ("from", current.getD "<missing>"),
            ("to", Variant.name mode)]
        return withRuntime (Table.insert "renderMode" (.string (Variant.name mode)) runtime) draft
    | _, _ => pure draft

end Draft

namespace AppSpec

/-- The bullets of features that nobody wrote. -/
def usualBullets : List String :=
  ["Fast to start", "Simple to use", "Free to try"]

/-- The hero of an app. It has a headline and a subhead only if they are long enough. -/
def usualHero (name purpose : String) : PageSection :=
  let headline := "Welcome to " ++ name
  { kind := .hero
    headline := if headlineMinimum ≤ headline.length then some headline else none
    subhead := if subheadMinimum ≤ purpose.length then some purpose else none }

def usualFeatures : PageSection :=
  { kind := .features, bullets := some usualBullets }

/-- The sections with a hero in front and features behind, if they have none. -/
def completeSections (hero : PageSection) (parts : List PageSection) : List PageSection :=
  let parts := if parts.any (·.kind == .hero) then parts else hero :: parts
  if parts.any (·.kind == .features) then parts else parts ++ [usualFeatures]

def completePage (hero : PageSection) : PageDescriptor → PageDescriptor
  | .detailed page =>
    if page.purpose = .landing then
      .detailed { page with sections := some (completeSections hero (page.sections.getD [])) }
    else .detailed page
  | .path p => .path p

/-- Completes the landing pages. -/
def ensureSections (spec : AppSpec) : AppSpec :=
  let hero := usualHero spec.app.name spec.app.purpose
  { spec with features :=
    { spec.features with pages := spec.features.pages.map (completePage hero) } }

def requiresAuth (spec : AppSpec) : Bool :=
  spec.features.auth != .none

def withRenderMode (mode : RenderMode) (spec : AppSpec) : AppSpec :=
  { spec with runtime := { spec.runtime with renderMode := mode } }

/-- Sets the render mode that the target requires. -/
def settleRenderMode (spec : AppSpec) : Noted AppSpec :=
  match forcedRenderMode spec.deploy.target spec.requiresAuth with
  | none => pure spec
  | some mode =>
    if spec.runtime.renderMode = mode then pure spec
    else do
      Noted.warn "render mode overridden by deploy target"
        [("deploy", Variant.name spec.deploy.target),
          ("from", Variant.name spec.runtime.renderMode), ("to", Variant.name mode)]
      return spec.withRenderMode mode

def repair (spec : AppSpec) : Noted AppSpec := do
  let spec ← spec.settleRenderMode
  return spec.ensureSections

/-- Deploys to another target than the specification names. -/
def overrideTarget (target? : Option DeployTarget) (spec : AppSpec) : Noted AppSpec :=
  match target? with
  | none => pure spec
  | some target =>
    if spec.deploy.target = target then pure spec
    else do
      Noted.warn "deploy target overridden"
        [("from", Variant.name spec.deploy.target), ("to", Variant.name target)]
      return { spec with deploy := { spec.deploy with target := target } }

end AppSpec

end WebScaffold

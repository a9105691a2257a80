import WebScaffold.Proofs.PageImports
import WebScaffold.Proofs.Repair

/-!
# Static hosting

A static host runs no code of the app. Whatever an app for one asks for besides, its pages are static
and read the fixtures only, and nothing is written that needs a server: no sign-in route and no
settings of a server host.
-/

namespace WebScaffold

/-! ## Static pages -/

namespace Artifact

open Literal

variable {route : Route} {tokens : Table String}

def staticList : String :=
  Text.lines ([importFixtures] ++ ["", rowsFromFixtures] ++ (staticListHead ++ listView))

/-- A static page of one item, given the expression for the parameter of a row. -/
def staticDetail (value : String) : String :=
  Text.lines ([importFixtures] ++ ["", rowsFromFixtures] ++
    (keyReader ++ staticDetailHead value ++ detailView))

/-- The module of a static page before its tokens are filled in. -/
def staticSource (route : Route) : String :=
  match route.kind with
  | .list => staticList
  | .detail => staticDetail (paramValue route.param)

theorem pageSource_static (route : Route) : pageSource route false true = staticSource route := by
  unfold pageSource pageLines staticSource
  cases route.kind <;> rfl

/-- What only code for a server says. -/
def serverWords : List String :=
  ["db", "async", "await", "process.env"]

/-- Code that a browser can run. -/
def IsClient (code : List Char) : Prop :=
  ∀ word ∈ serverWords, ¬word.toList <:+: code

instance (code : List Char) : Decidable (IsClient code) :=
  inferInstanceAs (Decidable (∀ word ∈ serverWords, ¬word.toList <:+: code))

/-- How a page enumerates its parameters at build time. -/
def paramsExport : String := "export function generateStaticParams()"

theorem outside_static :
    (∀ code ∈ outside staticList, IsClient code) ∧
      ∀ value ∈ ["[String(x.id)]", "String(x.id)"],
        (∀ code ∈ outside (staticDetail value), IsClient code) ∧
          ∃ code ∈ outside (staticDetail value), paramsExport.toList <:+: code := by
  have hlist : staticList.toList = [0, 2, 5, 6].flatMap (blockChars.1.getD · []) :=
    (Text.toList_lines _).trans (lineChars_of_places rfl)
  have hcatchAll : (staticDetail "[String(x.id)]").toList =
      [0, 2, 7, 9, 11].flatMap (blockChars.1.getD · []) :=
    (Text.toList_lines _).trans (lineChars_of_places rfl)
  have hsingle : (staticDetail "String(x.id)").toList =
      [0, 2, 7, 10, 11].flatMap (blockChars.1.getD · []) :=
    (Text.toList_lines _).trans (lineChars_of_places rfl)
  simp only [List.forall_mem_cons, List.not_mem_nil, false_implies, implies_true, outside, hlist,
    hcatchAll, hsingle]
  decide +kernel

theorem paramValue_mem (param : Option PathParameter) :
    paramValue param ∈ ["[String(x.id)]", "String(x.id)"] := by
  unfold paramValue
  split_ifs <;> simp

theorem isClient_staticSource (route : Route) :
    ∀ code ∈ outside (staticSource route), IsClient code := by
  unfold staticSource
  cases route.kind with
  | list => exact outside_static.1
  | detail => exact (outside_static.2 _ (paramValue_mem route.param)).1

theorem exists_paramsExport (h : route.kind = .detail) :
    ∃ code ∈ outside (staticSource route), paramsExport.toList <:+: code := by
  rw [staticSource, h]
  exact (outside_static.2 _ (paramValue_mem route.param)).2

/-- The text of a static page: its code is that of the source, it runs without a server, and it
imports nothing but the fixtures. -/
structure IsStaticPage (route : Route) (text : String) : Prop where
  outside : outside text = outside (staticSource route)
  client : ∀ code ∈ Literal.outside text, IsClient code
  imports : importLines text.toList =
    [(importLine "fixtures" (route.pathToSources ++ "/lib/fixtures.json")).toList]
  params : route.kind = .detail → ∃ code ∈ Literal.outside text, paramsExport.toList <:+: code

theorem isStaticPage_pageModule (htokens : ∀ entry ∈ tokens, Template.IsToken entry.1)
    (route : Route) : IsStaticPage route (pageModule route tokens false true) := by
  have houtside : outside (pageModule route tokens false true) = outside (staticSource route) := by
    rw [outside_pageModule htokens, pageSource_static]
  refine ⟨houtside, ?_, importLines_pageModule htokens route false true, ?_⟩
  · rw [houtside]
    exact isClient_staticSource route
  · rw [houtside]
    exact exists_paramsExport

end Artifact

/-! ## Projects for a static host -/

namespace AppSpec

open Artifact Scaffold

variable {spec : AppSpec} {file : PlannedFile} {route : Route}

theorem renderMode_repair_of_githubPages (h : spec.deploy.target = .githubPages) :
    spec.repair.value.runtime.renderMode = .static := by
  have hforced : spec.forcedMode? = some .static := by
    rw [forcedMode?, h]
    rfl
  rw [repair_value, settleRenderMode_value, hforced]
  rfl

theorem isStaticPage_of_static (hmode : spec.runtime.renderMode = .static)
    (hfile : file ∈ spec.plan.files) (hpage : file.source = .page route) :
    ∃ text, plannedContent spec.plan file = .ok (textBytes text) ∧ IsStaticPage route text := by
  have hserver : spec.plan.rendersOnServer = false := by simp [plan, hmode]
  have hsamples : spec.plan.needsSamples = true := by simp [ProjectPlan.needsSamples, hserver]
  obtain ⟨-, rfl⟩ := eq_pageFile_of_mem hfile hpage
  refine ⟨_, plannedContent_of_page _ hpage, ?_⟩
  rw [hserver, hsamples]
  exact isStaticPage_pageModule (fun _ ↦ isToken_of_mem_pageFile) route

/-- What is written for a static host besides templates and pages. -/
theorem writtenPaths_of_static (hmode : spec.runtime.renderMode = .static)
    (htarget : spec.deploy.target = .githubPages) :
    "src/lib/fixtures.json" ∈ writtenPaths spec spec.plan.available ∧
      ".github/workflows/gh-pages.yml" ∈ writtenPaths spec spec.plan.available ∧
      signInPath ∉ writtenPaths spec spec.plan.available ∧
      "vercel.json" ∉ writtenPaths spec spec.plan.available := by
  have hserver : spec.plan.rendersOnServer = false := by simp [plan, hmode]
  have hhosting : (hostingFile spec.plan.target).1 = ".github/workflows/gh-pages.yml" := by
    simp [plan, htarget, hostingFile]
  refine ⟨fixtures_mem_writtenPaths_iff.2 (by simp [ProjectPlan.needsSamples, hserver]), ?_, ?_, ?_⟩
  all_goals
    rw [mem_writtenPaths_iff_mem_generatedPaths (by decide) (by decide), generatedPaths, hserver,
      hhosting]
    simp [signInPath]

/-- An app that is deployed to a static host gets static pages only, without server code, and the
files of a static site only, whatever it asks for of render mode, database and sign-in. -/
theorem static_host_without_server {target? : Option DeployTarget}
    (htarget : (spec.overrideTarget target?).value.deploy.target = .githubPages) :
    let repaired := (spec.overrideTarget target?).value.repair.value
    (∀ file ∈ repaired.plan.files, ∀ route, file.source = .page route →
      ∃ text, plannedContent repaired.plan file = .ok (textBytes text) ∧
        IsStaticPage route text) ∧
    ∀ destination disk written last,
      ((scaffold repaired repaired.plan.available destination).outcome disk).value =
        (.ok written, last) →
      "src/lib/fixtures.json" ∈ written.paths ∧
        ".github/workflows/gh-pages.yml" ∈ written.paths ∧ signInPath ∉ written.paths ∧
        "vercel.json" ∉ written.paths := by
  intro repaired
  have hmode : repaired.runtime.renderMode = .static := renderMode_repair_of_githubPages htarget
  have hrepaired : repaired.deploy.target = .githubPages := by
    rw [deploy_repair]
    exact htarget
  constructor
  · intro file hfile route hpage
    exact isStaticPage_of_static hmode hfile hpage
  · intro destination disk written last hrun
    obtain ⟨-, rfl, -⟩ := scaffold_eq_ok_iff.1 hrun
    exact writtenPaths_of_static hmode hrepaired

/-- An app for a server with a database and sign-in, deployed to a static host against what it
says. -/
theorem club_static_host_without_server :
    let spec : AppSpec :=
      { AppSpec.cookbook [.path "/recipes/[id]"] with
        features := { auth := .googleOauth, pages := [.path "/recipes/[id]"], integrations := [] }
        runtime := { renderMode := .server, database := .neon } }
    let repaired := (spec.overrideTarget (some .githubPages)).value.repair.value
    let route : Route :=
      ⟨"/recipes/[id]", ["recipes", "[id]"], .detail, "recipes", "recipe", some ⟨"id", false⟩⟩
    (spec.overrideTarget (some .githubPages)).value.deploy.target = .githubPages ∧
      (∃ text, plannedContent repaired.plan (pageFile repaired.commonTokens route) =
        .ok (textBytes text) ∧ IsStaticPage route text) ∧
      ∃ written last,
        ((scaffold repaired repaired.plan.available ⟨"out"⟩).outcome ⟨.empty, []⟩).value =
          (.ok written, last) ∧
        "src/lib/fixtures.json" ∈ written.paths ∧
        ".github/workflows/gh-pages.yml" ∈ written.paths ∧ signInPath ∉ written.paths ∧
        "vercel.json" ∉ written.paths := by
  intro spec repaired route
  have htarget : (spec.overrideTarget (some .githubPages)).value.deploy.target = .githubPages := by
    decide +kernel
  obtain ⟨hpages, hpaths⟩ := static_host_without_server htarget
  obtain ⟨written, last, hrun⟩ := Run.exists_eq_ok
    (scaffold repaired repaired.plan.available ⟨"out"⟩) ⟨.empty, []⟩ (by decide +kernel)
  have hroute : route ∈ repaired.routes := by decide +kernel
  have hfile := mem_plan_files_iff.2 (.inr ⟨route, hroute, rfl⟩)
  exact ⟨htarget, hpages _ hfile route rfl, written, last, hrun, hpaths _ _ _ _ hrun⟩

end AppSpec

end WebScaffold

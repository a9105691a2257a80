import WebScaffold.Proofs.Layout
import WebScaffold.Proofs.RenderedLines

/-!
# Imports between the files of a project

A page module reaches the fixtures and the database client by as many steps up as it lies deep in the
app directory. From its own directory these lead to the sources, whatever the page is called, and
what it imports from there is written along with it.
-/

namespace WebScaffold

/-! ## Where an import leads -/

namespace Path

/-- Where a step of an import leads; nothing is above the project. -/
def importStep? (here : List String) (name : String) : Option (List String) :=
  if name = stay then some here
  else if name = up then if here = [] then none else some here.dropLast
  else some (here ++ [name])

/-- The place in the project that a relative import stands for, as seen from a directory. An import
that does not begin with a step to stay or up is not relative. -/
def importedPlace? (directory : List String) (target : String) : Option (List String) :=
  if isAbsolute ⟨target⟩ ∨ (steps ⟨target⟩).head?.all isPlain then none
  else (steps ⟨target⟩).foldlM importStep? directory

variable {names : List String}

theorem foldlM_importStep?_up (top names : List String) :
    (List.replicate names.length up).foldlM importStep? (top ++ names) = some top := by
  induction names using List.reverseRecOn with
  | nil => simp
  | append_singleton names name ih =>
    have hstep : importStep? (top ++ (names ++ [name])) up = some (top ++ names) := by
      simp [importStep?, up, stay, ← List.append_assoc]
    rw [List.length_append, List.length_singleton, List.replicate_succ, List.foldlM_cons, hstep]
    exact ih

theorem foldlM_importStep?_of_isPlain (h : ∀ name ∈ names, isPlain name) (here : List String) :
    names.foldlM importStep? here = some (here ++ names) := by
  induction names generalizing here with
  | nil => simp
  | cons name names ih =>
    obtain ⟨hname, hnames⟩ := List.forall_mem_cons.1 h
    obtain ⟨hstay, hup⟩ := isPlain_iff.1 hname
    have hstep : importStep? here name = some (here ++ [name]) := by
      rw [importStep?, if_neg hstay, if_neg hup]
    rw [List.foldlM_cons, hstep]
    simpa using ih hnames (here ++ [name])

end Path

theorem Route.steps_pathToSources (route : Route) (inner : String) :
    Path.steps ⟨route.pathToSources ++ "/" ++ inner⟩ =
      List.replicate (route.segments.length + 1) Path.up ++ Path.steps ⟨inner⟩ := by
  have hup : ∀ name ∈ List.replicate (route.segments.length + 1) "..", Path.IsStep name := by
    intro name hname
    obtain ⟨-, rfl⟩ := List.mem_replicate.1 hname
    decide
  rw [Path.steps_append_slash, pathToSources, Path.steps_intercalate hup]
  rfl

/-- From the directory of its module the way up of a page leads to the sources. -/
theorem Route.importedPlace?_sources (route : Route) {inner : String}
    (hinner : ∀ name ∈ Path.steps ⟨inner⟩, Path.isPlain name) :
    Path.importedPlace? (["src", "app"] ++ route.segments)
      (route.pathToSources ++ "/" ++ inner) = some (["src"] ++ Path.steps ⟨inner⟩) := by
  have hsteps := route.steps_pathToSources inner
  have hrelative : ¬(Path.isAbsolute ⟨route.pathToSources ++ "/" ++ inner⟩ ∨
      (Path.steps ⟨route.pathToSources ++ "/" ++ inner⟩).head?.all Path.isPlain) := by
    have habsolute : Path.isAbsolute ⟨route.pathToSources ++ "/" ++ inner⟩ = false := by
      unfold pathToSources
      cases route.segments.length <;> simp [Path.isAbsolute, List.replicate_succ]
    rw [habsolute, hsteps, List.replicate_succ, List.cons_append, List.head?_cons]
    decide
  have hdepth := Path.foldlM_importStep?_up ["src"] ("app" :: route.segments)
  calc Path.importedPlace? (["src", "app"] ++ route.segments)
        (route.pathToSources ++ "/" ++ inner)
    _ = ((List.replicate (route.segments.length + 1) Path.up).foldlM Path.importStep?
          (["src"] ++ "app" :: route.segments)).bind
            ((Path.steps ⟨inner⟩).foldlM Path.importStep?) := by
        rw [Path.importedPlace?, if_neg hrelative, hsteps, List.foldlM_append]
        rfl
    _ = (Path.steps ⟨inner⟩).foldlM Path.importStep? ["src"] := by
        rw [← List.length_cons, hdepth, Option.bind_some]
    _ = some (["src"] ++ Path.steps ⟨inner⟩) := Path.foldlM_importStep?_of_isPlain hinner ["src"]

/-! ## The pages of a plan -/

namespace AppSpec

open Template

variable {spec : AppSpec} {file : PlannedFile} {route : Route}

theorem mem_tokenNames_of_mem_commonTokens {entry : String × String}
    (h : entry ∈ spec.commonTokens) : entry.1 ∈ tokenNames := by
  have hkeys : ∀ key ∈ [Plan.Token.appName, Plan.Token.subhead, Plan.Token.primaryHref,
      Plan.Token.primaryLabel], key ∈ tokenNames := by
    decide
  have hfeatures : ∀ key ∈ Plan.Token.features, key ∈ tokenNames := by decide
  rcases List.mem_append.1 (Table.mem_ofList h) with h | h
  · exact hkeys _ (List.mem_map_of_mem (f := Prod.fst) h)
  · exact hfeatures _ (List.of_mem_zip h).1

theorem mem_tokenNames_of_mem_pageFile {entry : String × String}
    (h : entry ∈ (pageFile spec.commonTokens route).tokens) : entry.1 ∈ tokenNames := by
  have hkeys : ∀ key ∈ [Plan.Token.collection, Plan.Token.singular], key ∈ tokenNames := by
    decide
  rcases Table.mem_insertAll h with h | h
  · exact hkeys _ (List.mem_map_of_mem (f := Prod.fst) h)
  · exact mem_tokenNames_of_mem_commonTokens h

theorem isToken_of_mem_pageFile {entry : String × String}
    (h : entry ∈ (pageFile spec.commonTokens route).tokens) : IsToken entry.1 :=
  isToken_of_mem_tokenNames _ (mem_tokenNames_of_mem_pageFile h)

/-- The page files of a plan are those of its routes. -/
theorem eq_pageFile_of_mem (hfile : file ∈ spec.plan.files) (hpage : file.source = .page route) :
    route ∈ spec.routes ∧ file = pageFile spec.commonTokens route := by
  rcases mem_plan_files_iff.1 hfile with ⟨_, _, -, rfl⟩ | ⟨_, hroute, rfl⟩
  · cases hpage
  · obtain rfl := FileSource.page.inj hpage
    exact ⟨hroute, rfl⟩

/-- The directory of a page's module. -/
theorem dropLast_components_modulePath (hrules : spec.checkRules = .ok ())
    (hroute : route ∈ spec.routes) :
    (Path.mk route.modulePath).components.dropLast = ["src", "app"] ++ route.segments := by
  rw [Route.components_modulePath (isStep_of_mem_segments hroute)
    (stay_notMem_segments hrules hroute), Route.modulePlace, ← List.append_assoc,
    List.dropLast_concat]

end AppSpec

namespace Artifact

/-- A line is the import of names from the module at a place, as seen from a directory. -/
def ImportsFrom (directory : List String) (line : List Char) (names : String)
    (place : List String) : Prop :=
  ∃ target, Literal.parts .code line =
      ["import " ++ names ++ " from ", target, ";"].map String.toList ∧
    Path.importedPlace? directory target = some place

theorem importsFrom_importLine (route : Route) (names inner : String)
    (hnames : '"' ∉ names.toList) (hquote : '"' ∉ inner.toList) (hbackslash : '\\' ∉ inner.toList)
    (hinner : ∀ name ∈ Path.steps ⟨inner⟩, Path.isPlain name) :
    ImportsFrom (["src", "app"] ++ route.segments)
      (importLine names (route.pathToSources ++ "/" ++ inner)).toList names
      (["src"] ++ Path.steps ⟨inner⟩) := by
  have hup {c : Char} (hc : ¬(c = '.' ∨ c = '/')) : c ∉ route.pathToSources.toList :=
    fun hmem ↦ hc (route.dot_or_slash_of_mem_pathToSources c hmem)
  refine ⟨route.pathToSources ++ "/" ++ inner, parts_importLine hnames ?_ ?_,
    route.importedPlace?_sources hinner⟩
  · simp [hup, hquote]
  · simp [hup, hbackslash]

theorem importsFrom_fixtures (route : Route) :
    ImportsFrom (["src", "app"] ++ route.segments)
      (importLine "fixtures" (route.pathToSources ++ "/lib/fixtures.json")).toList "fixtures"
      (Path.mk "src/lib/fixtures.json").components := by
  have himport := importsFrom_importLine route "fixtures" "lib/fixtures.json"
    (by decide) (by decide) (by decide) (by decide +kernel)
  rw [String.append_assoc] at himport
  exact himport

theorem importsFrom_database (route : Route) :
    ImportsFrom (["src", "app"] ++ route.segments)
      (importLine "{ db }" (route.pathToSources ++ "/lib/db")).toList "{ db }"
      (Path.mk "src/lib/db").components := by
  have himport := importsFrom_importLine route "{ db }" "lib/db"
    (by decide) (by decide) (by decide) (by decide +kernel)
  rw [String.append_assoc] at himport
  exact himport

end Artifact

/-! ## What is imported is written -/

namespace AppSpec

open Artifact Scaffold

variable {spec : AppSpec} {destination : Path} {disk last : Disk} {written : WrittenProject}
variable {file : PlannedFile} {route : Route}

theorem database_mem_writtenPaths (spec : AppSpec) :
    "src/lib/db" ++ ".ts" ∈ writtenPaths spec spec.plan.available := by
  apply (mem_writtenPaths_available_iff (by decide)).2
  exact .inl ⟨"web_app/src/lib/db.ts", by decide +kernel, by decide +kernel⟩

/-- Every import of a page module leads to a file that is written along with it, and the fixtures are
imported just when they are written. -/
theorem page_imports_written (hrules : spec.checkRules = .ok ())
    (hrun : ((scaffold spec spec.plan.available destination).outcome disk).value =
      (.ok written, last))
    (hfile : file ∈ spec.plan.available.files) (hpage : file.source = .page route) :
    ∃ text, plannedContent spec.plan.available file = .ok (textBytes text) ∧
      let directory := (Path.mk file.path).components.dropLast
      (∀ line ∈ importLines text.toList,
        ImportsFrom directory line "fixtures" (Path.mk "src/lib/fixtures.json").components ∧
            "src/lib/fixtures.json" ∈ written.paths ∨
          ImportsFrom directory line "{ db }" (Path.mk "src/lib/db").components ∧
            "src/lib/db" ++ ".ts" ∈ written.paths) ∧
      ((∃ line ∈ importLines text.toList,
        ImportsFrom directory line "fixtures" (Path.mk "src/lib/fixtures.json").components) ↔
          "src/lib/fixtures.json" ∈ written.paths) := by
  obtain ⟨-, rfl, -⟩ := scaffold_eq_ok_iff.1 hrun
  obtain ⟨hroute, rfl⟩ := eq_pageFile_of_mem (List.mem_filter.1 hfile).1 hpage
  refine ⟨_, plannedContent_of_page _ hpage, ?_⟩
  dsimp only
  rw [importLines_pageModule (fun _ ↦ isToken_of_mem_pageFile), pageFile,
    dropLast_components_modulePath hrules hroute, fixtures_mem_writtenPaths_iff]
  have hfixtures := importsFrom_fixtures route
  have hdatabase := importsFrom_database route
  constructor
  · intro line hline
    rcases mem_pageImports_iff.1 hline with ⟨hsamples, rfl⟩ | ⟨-, rfl⟩
    · exact .inl ⟨hfixtures, hsamples⟩
    · exact .inr ⟨hdatabase, database_mem_writtenPaths spec⟩
  · constructor
    · rintro ⟨line, hline, target, hparts, -⟩
      rcases mem_pageImports_iff.1 hline with ⟨hsamples, -⟩ | ⟨-, rfl⟩
      · exact hsamples
      · obtain ⟨_, hparts', -⟩ := hdatabase
        rw [hparts'] at hparts
        have hhead := Option.some.inj (congrArg List.head? hparts)
        exact absurd (String.toList_inj.1 hhead) (by decide +kernel)
    · intro hsamples
      exact ⟨_, mem_pageImports_iff.2 (.inl ⟨hsamples, rfl⟩), hfixtures⟩

/-- A page of several segments with empty ones between them, for an app on a server without a
database. -/
theorem cookbook_page_imports_written :
    let spec := AppSpec.cookbook [.path "/recipes//new/[...id]"]
    let route : Route := ⟨"/recipes//new/[...id]", ["recipes", "new", "[...id]"], .detail, "recipes",
      "recipe", some ⟨"id", true⟩⟩
    let file := pageFile spec.commonTokens route
    ∃ written last text, ((scaffold spec spec.plan.available ⟨"out"⟩).outcome ⟨.empty, []⟩).value =
        (.ok written, last) ∧
      plannedContent spec.plan.available file = .ok (textBytes text) ∧
      let directory := ["src", "app", "recipes", "new", "[...id]"]
      (∀ line ∈ importLines text.toList,
        ImportsFrom directory line "fixtures" ["src", "lib", "fixtures.json"] ∧
            "src/lib/fixtures.json" ∈ written.paths ∨
          ImportsFrom directory line "{ db }" ["src", "lib", "db"] ∧
            "src/lib/db.ts" ∈ written.paths) ∧
      ((∃ line ∈ importLines text.toList,
        ImportsFrom directory line "fixtures" ["src", "lib", "fixtures.json"]) ↔
          "src/lib/fixtures.json" ∈ written.paths) := by
  intro spec route file
  obtain ⟨written, last, hrun⟩ := Run.exists_eq_ok (scaffold spec spec.plan.available ⟨"out"⟩)
    ⟨.empty, []⟩ (by decide +kernel)
  have hroute : route ∈ spec.routes := by decide +kernel
  have hfile : file ∈ spec.plan.available.files :=
    List.mem_filter.2 ⟨mem_plan_files_iff.2 (.inr ⟨route, hroute, rfl⟩), rfl⟩
  obtain ⟨text, hcontent, himports⟩ := page_imports_written (by decide +kernel) hrun hfile rfl
  have hdirectory : (Path.mk file.path).components.dropLast =
      ["src", "app", "recipes", "new", "[...id]"] := by
    decide +kernel
  have hfixtures : (Path.mk "src/lib/fixtures.json").components =
      ["src", "lib", "fixtures.json"] := by
    decide +kernel
  have hdatabase : (Path.mk "src/lib/db").components = ["src", "lib", "db"] := by decide +kernel
  rw [hdirectory, hfixtures, hdatabase] at himports
  exact ⟨written, last, text, hrun, hcontent, himports⟩

end AppSpec

end WebScaffold

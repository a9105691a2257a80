import Mathlib.Data.List.Nodup
import Mathlib.Data.List.Pairwise
import WebScaffold.Proofs.Path
import WebScaffold.Proofs.Scaffold
import WebScaffold.Spec.Validate

/-!
# Where the files of a project stand

The modules of the pages share the app directory with files that every project has. Their places are
apart exactly when no two pages have the same segments, no page lies below the module of another one
as if that were a directory, and none takes a place that is taken. The rules of a specification do
not see to any of this.
-/

namespace WebScaffold

/-! ## Paths that are apart -/

/-- Neither place is the other one or lies below it. -/
def Apart (a b : List String) : Prop :=
  ¬a <+: b ∧ ¬b <+: a

instance (a b : List String) : Decidable (Apart a b) :=
  inferInstanceAs (Decidable (¬a <+: b ∧ ¬b <+: a))

theorem Apart.symm {a b : List String} (h : Apart a b) : Apart b a :=
  ⟨h.2, h.1⟩

/-- No path comes twice, and none goes through another one as if that were a directory. -/
def NoClobber (paths : List String) : Prop :=
  paths.Nodup ∧
    ∀ a ∈ paths, ∀ b ∈ paths, (Path.mk a).components <+: (Path.mk b).components → a = b

theorem noClobber_iff_pairwise {paths : List String} :
    NoClobber paths ↔ (paths.map fun path ↦ (Path.mk path).components).Pairwise Apart := by
  rw [List.pairwise_map]
  constructor
  · intro hpaths
    apply hpaths.1.pairwise_of_forall_ne
    intro a ha b hb hne
    constructor
    · intro hbelow
      exact hne (hpaths.2 a ha b hb hbelow)
    · intro habove
      exact hne (hpaths.2 b hb a ha habove).symm
  · intro hapart
    have hsymm : Std.Symm fun a b ↦ Apart (Path.mk a).components (Path.mk b).components :=
      ⟨fun _ _ h ↦ h.symm⟩
    constructor
    · apply hapart.imp
      intro a b hab heq
      subst heq
      exact hab.1 List.prefix_rfl
    · intro a ha b hb hbelow
      by_contra hne
      exact (hapart.forall ha hb hne).1 hbelow

theorem Apart.below {a a' b : List String} (hbelow : a <+: a') (h : Apart a b) :
    Apart a' b := by
  constructor
  · intro hleft
    exact h.1 (hbelow.trans hleft)
  · intro hright
    -- two beginnings of one list are comparable
    rcases List.prefix_or_prefix_of_prefix hbelow hright with hab | hba
    · exact h.1 hab
    · exact h.2 hba

theorem apart_append_iff {front a b : List String} :
    Apart (front ++ a) (front ++ b) ↔ Apart a b := by
  simp only [Apart, List.prefix_append_right_inj]

/-- Seen from a directory, only those of some places matter that are not apart from it. -/
theorem forall_apart_append_iff {front a : List String} {places inside : List (List String)}
    (h : places.filter (fun place ↦ ¬Apart front place) = inside.map (front ++ ·)) :
    (∀ place ∈ places, Apart (front ++ a) place) ↔ ∀ place ∈ inside, Apart a place := by
  constructor
  · intro hapart place hplace
    have hmem : front ++ place ∈ inside.map (front ++ ·) := List.mem_map_of_mem hplace
    rw [← h] at hmem
    exact apart_append_iff.1 (hapart _ (List.mem_filter.1 hmem).1)
  · intro hapart place hplace
    by_cases hfar : Apart front place
    · exact hfar.below (List.prefix_append _ _)
    · have hmem : place ∈ places.filter (fun place ↦ ¬Apart front place) :=
        List.mem_filter.2 ⟨hplace, decide_eq_true hfar⟩
      rw [h] at hmem
      obtain ⟨rest, hrest, rfl⟩ := List.mem_map.1 hmem
      exact apart_append_iff.2 (hapart rest hrest)

/-- A file meets a place in two ways: it is there, or it is below. It is not above, as its own name
stands at the end of the place only. -/
theorem apart_concat_iff {front place : List String} {name : String} (h : name ∉ place.dropLast) :
    Apart (front ++ [name]) place ↔ front ++ [name] ≠ place ∧ ¬place <+: front := by
  rcases List.eq_nil_or_concat' place with rfl | ⟨rest, last, rfl⟩
  · simp [Apart]
  · rw [List.dropLast_concat] at h
    have hrest : ¬front ++ [name] <+: rest := fun hbelow ↦ h (hbelow.subset (by simp))
    simp only [Apart, List.prefix_concat_iff, hrest, or_false, not_or, ne_eq]
    constructor
    · intro hapart
      exact ⟨hapart.1, hapart.2.2⟩
    · intro hbeside
      exact ⟨hbeside.1, fun heq ↦ hbeside.1 heq.symm, hbeside.2⟩

/-! ## Places of pages -/

namespace Route

/-- The place of a page's module in the app directory. -/
def modulePlace (route : Route) : List String :=
  route.segments ++ ["page.tsx"]

theorem components_modulePath {route : Route}
    (hsegments : ∀ name ∈ route.segments, Path.IsStep name)
    (hstay : Path.stay ∉ route.segments) :
    (Path.mk route.modulePath).components = ["src", "app"] ++ route.modulePlace := by
  have htext : route.modulePath =
      "src" ++ "/" ++ ("app" ++ "/" ++ ("/".intercalate route.segments ++ "/" ++ "page.tsx")) := by
    apply String.toList_inj.1
    simp [modulePath]
  have hsteps : Path.steps ⟨route.modulePath⟩ = ["src", "app"] ++ route.modulePlace := by
    rw [htext, Path.steps_append_slash, Path.steps_append_slash, Path.steps_append_slash,
      Path.steps_intercalate hsegments]
    rfl
  rw [Path.components_eq_steps, hsteps]
  rw [hsteps]
  simpa [modulePlace, Path.stay] using hstay

end Route

namespace AppSpec

variable {spec : AppSpec} {route : Route}

theorem checkRules_eq_ok_iff : spec.checkRules = .ok () ↔ spec.ruleIssues = [] := by
  unfold checkRules
  cases spec.ruleIssues <;> simp

/-- What the rules say of a page's path. -/
theorem pathProblem?_eq_none (h : spec.checkRules = .ok ()) {page : PageDescriptor}
    (hpage : page ∈ spec.features.pages) : Route.pathProblem? page.pagePath = none := by
  obtain ⟨hpages, -⟩ := List.append_eq_nil_iff.1 (checkRules_eq_ok_iff.1 h)
  obtain ⟨place, hplace⟩ := List.mem_iff_getElem?.1 hpage
  have hquiet := List.flatMap_eq_nil_iff.1 hpages (page, place)
    (List.mk_mem_zipIdx_iff_getElem?.2 hplace)
  cases hproblem : Route.pathProblem? page.pagePath with
  | none => rfl
  | some problem => simp [pagePathIssues, hproblem] at hquiet

theorem segments_of_mem_routes (h : route ∈ spec.routes) :
    ∃ page ∈ spec.features.pages, route.segments = (Path.mk page.pagePath).steps := by
  obtain ⟨page, hpage, hroute⟩ := List.mem_filterMap.1 h
  obtain ⟨last, -, rfl⟩ := Option.map_eq_some_iff.1 hroute
  exact ⟨page, hpage, rfl⟩

theorem isStep_of_mem_segments (h : route ∈ spec.routes) :
    ∀ name ∈ route.segments, Path.IsStep name := by
  obtain ⟨page, -, hsegments⟩ := segments_of_mem_routes h
  rw [hsegments]
  exact fun name ↦ Path.isStep_of_mem_steps

theorem stay_notMem_segments (hrules : spec.checkRules = .ok ()) (h : route ∈ spec.routes) :
    Path.stay ∉ route.segments := by
  obtain ⟨page, hpage, hsegments⟩ := segments_of_mem_routes h
  have hproblem := pathProblem?_eq_none hrules hpage
  unfold Route.pathProblem? at hproblem
  dsimp only at hproblem
  split_ifs at hproblem
  rw [hsegments]
  intro hstay
  obtain ⟨segment, hsegment, hname⟩ := List.mem_map.1 hstay
  have hquiet := List.findSome?_eq_none_iff.1 hproblem segment hsegment
  have hdot : segment = ['.'] := by simpa [Path.stay] using congrArg String.toList hname
  rw [hdot] at hquiet
  cases hquiet

/-! ## All files of a project -/

/-- Whether a project has a route for signing in. -/
def HasSignIn (spec : AppSpec) : Prop :=
  spec.runtime.renderMode = .server ∧ spec.features.auth ≠ .none

instance (spec : AppSpec) : Decidable spec.HasSignIn :=
  inferInstanceAs (Decidable (_ ∧ _))

/-- The places in the app directory that are taken by other files than the modules of pages. -/
def takenPlaces (spec : AppSpec) : List (List String) :=
  [["layout.tsx"], ["(marketing)", "page.tsx"], ["(app)", "layout.tsx"]] ++
    if spec.HasSignIn then [["api", "auth", "[...nextauth]", "route.ts"]] else []

/-- The paths of all files but the modules of pages. -/
def standingPaths (spec : AppSpec) : List String :=
  Plan.projectFiles.map (·.1) ++ Scaffold.generatedPaths spec spec.plan

open scoped List in
theorem perm_writtenPaths (spec : AppSpec) :
    Scaffold.writtenPaths spec spec.plan ~
      spec.routes.map (·.modulePath) ++ spec.standingPaths := by
  have hfiles : spec.plan.files.map (·.path) =
      Plan.projectFiles.map (·.1) ++ spec.routes.map (·.modulePath) := by
    simp [plan, projectFile, pageFile, Function.comp_def]
  calc Scaffold.writtenPaths spec spec.plan
    _ = Plan.projectFiles.map (·.1) ++ spec.routes.map (·.modulePath) ++
        Scaffold.generatedPaths spec spec.plan := by rw [Scaffold.writtenPaths, hfiles]
    _ ~ spec.routes.map (·.modulePath) ++ Plan.projectFiles.map (·.1) ++
        Scaffold.generatedPaths spec spec.plan := List.perm_append_comm.append_right _
    _ = spec.routes.map (·.modulePath) ++ spec.standingPaths := List.append_assoc _ _ _

theorem mem_plan_files_iff {file : PlannedFile} :
    file ∈ spec.plan.files ↔
      (∃ path id, (path, id) ∈ Plan.projectFiles ∧
        file = projectFile spec.commonTokens path id) ∨
      ∃ route ∈ spec.routes, file = pageFile spec.commonTokens route := by
  simp only [plan, List.mem_append, List.mem_map, Prod.exists, eq_comm]

theorem tokens_projectFile (tokens : Table String) (path id : String) :
    (projectFile tokens path id).tokens = tokens :=
  rfl

/-- Apart from the modules of pages, the paths of a plan without missing templates are fixed. -/
theorem mem_writtenPaths_available_iff {path : String}
    (hpath : path.toList.getLast? ≠ some 'x') :
    path ∈ Scaffold.writtenPaths spec spec.plan.available ↔
      (∃ id, (path, id) ∈ Plan.projectFiles ∧ (Template.find? id).isSome) ∨
        path ∈ Scaffold.generatedPaths spec spec.plan := by
  have hmodule (route : Route) : route.modulePath.toList.getLast? = some 'x' := by
    rw [Route.modulePath, String.toList_append, List.getLast?_append]
    rfl
  rw [Scaffold.writtenPaths, List.mem_append]
  refine or_congr ?_ Iff.rfl
  constructor
  · intro hmem
    obtain ⟨file, hfile, rfl⟩ := List.mem_map.1 hmem
    obtain ⟨hplanned, havailable⟩ := List.mem_filter.1 hfile
    rcases mem_plan_files_iff.1 hplanned with ⟨path, id, hproject, rfl⟩ | ⟨route, -, rfl⟩
    · exact ⟨id, hproject, havailable⟩
    · exact absurd (hmodule route) hpath
  · rintro ⟨id, hproject, havailable⟩
    apply List.mem_map.2
    refine ⟨projectFile spec.commonTokens path id, ?_, rfl⟩
    exact List.mem_filter.2 ⟨mem_plan_files_iff.2 (.inl ⟨path, id, hproject, rfl⟩), havailable⟩

theorem mem_writtenPaths_iff_mem_generatedPaths {path : String}
    (hpath : path.toList.getLast? ≠ some 'x') (hproject : path ∉ Plan.projectFiles.map (·.1)) :
    path ∈ Scaffold.writtenPaths spec spec.plan.available ↔
      path ∈ Scaffold.generatedPaths spec spec.plan := by
  rw [mem_writtenPaths_available_iff hpath, or_iff_right]
  rintro ⟨id, hmem, -⟩
  exact hproject (List.mem_map_of_mem hmem)

/-- Fixtures are written just when pages read them. -/
theorem fixtures_mem_writtenPaths_iff :
    "src/lib/fixtures.json" ∈ Scaffold.writtenPaths spec spec.plan.available ↔
      spec.plan.needsSamples := by
  rw [mem_writtenPaths_iff_mem_generatedPaths (by decide) (by decide)]
  unfold Scaffold.generatedPaths
  cases spec.plan.target <;> simp [Artifact.hostingFile, Artifact.signInPath]

theorem forall_mem_ite_iff {α : Type} {c : Prop} [Decidable c] {a : α} {p : α → Prop} :
    (∀ x ∈ if c then [a] else [], p x) ↔ (c → p a) := by
  split_ifs with h <;> simp [h]

theorem forall_mem_generatedPaths_iff {p : String → Prop} :
    (∀ path ∈ Scaffold.generatedPaths spec spec.plan, p path) ↔
      (spec.plan.needsDatabase → p "prisma/schema.prisma") ∧
      (spec.plan.needsSamples → p "src/lib/fixtures.json") ∧ p ".env.example" ∧
      p (Artifact.hostingFile spec.deploy.target).1 ∧ (spec.HasSignIn → p Artifact.signInPath) ∧
      p "package.json" := by
  have hsignIn : (spec.plan.rendersOnServer ∧ spec.features.auth ≠ .none) ↔ spec.HasSignIn := by
    simp [plan, HasSignIn]
  have htarget : spec.plan.target = spec.deploy.target := rfl
  simp only [Scaffold.generatedPaths, List.forall_mem_append, forall_mem_ite_iff, hsignIn, htarget,
    List.forall_mem_cons, List.not_mem_nil, false_implies, implies_true, and_true, and_assoc]

theorem components_projectFiles :
    ((Plan.projectFiles.map (·.1)).map fun path ↦ (Path.mk path).components) =
      [["next.config.mjs"], ["tsconfig.json"], ["next-env.d.ts"], ["src", "app", "layout.tsx"],
        ["src", "app", "(marketing)", "page.tsx"], ["src", "app", "(app)", "layout.tsx"],
        ["src", "components", "ui", "Button.tsx"], ["public", "favicon.ico"],
        ["src", "lib", "db.ts"], ["prisma", "seed.ts"], [".github", "workflows", "ci.yml"]] := by
  decide +kernel

theorem standingPaths_pairwise (spec : AppSpec) :
    spec.standingPaths.Pairwise fun a b ↦ Apart (Path.mk a).components (Path.mk b).components := by
  have hgenerated : ((["prisma/schema.prisma"] ++ ["src/lib/fixtures.json"] ++
      [".env.example", "vercel.json", ".github/workflows/gh-pages.yml"] ++ [Artifact.signInPath] ++
      ["package.json"]).map fun path ↦ (Path.mk path).components) =
        [["prisma", "schema.prisma"], ["src", "lib", "fixtures.json"], [".env.example"],
          ["vercel.json"], [".github", "workflows", "gh-pages.yml"],
          ["src", "app", "api", "auth", "[...nextauth]", "route.ts"], ["package.json"]] := by
    decide +kernel
  -- no project has all of these files, but each has some of them
  have hall : (Plan.projectFiles.map (·.1) ++
      (["prisma/schema.prisma"] ++ ["src/lib/fixtures.json"] ++
      [".env.example", "vercel.json", ".github/workflows/gh-pages.yml"] ++ [Artifact.signInPath] ++
      ["package.json"])).Pairwise
        fun a b ↦ Apart (Path.mk a).components (Path.mk b).components := by
    rw [← List.pairwise_map, List.map_append, components_projectFiles, hgenerated]
    decide +kernel
  have hite {c : Prop} [Decidable c] (path : String) :
      (if c then [path] else []).Sublist [path] := by
    split_ifs <;> simp
  have hhosting : [".env.example", (Artifact.hostingFile spec.plan.target).1].Sublist
      [".env.example", "vercel.json", ".github/workflows/gh-pages.yml"] := by
    cases spec.plan.target <;> simp [Artifact.hostingFile]
  refine hall.sublist ((List.Sublist.refl _).append ?_)
  exact ((((hite _).append (hite _)).append hhosting).append (hite _)).append (List.Sublist.refl _)

/-- Of the standing files only those in the app directory can be met by the module of a page. -/
theorem apart_standingPaths_iff (spec : AppSpec) (place : List String) :
    (∀ path ∈ spec.standingPaths, Apart (["src", "app"] ++ place) (Path.mk path).components) ↔
      ∀ taken ∈ spec.takenPlaces, Apart place taken := by
  have hinside : ((Plan.projectFiles.map (·.1)).map fun path ↦ (Path.mk path).components).filter
        (fun place ↦ ¬Apart ["src", "app"] place) =
      [["layout.tsx"], ["(marketing)", "page.tsx"], ["(app)", "layout.tsx"]].map
        (["src", "app"] ++ ·) := by
    rw [components_projectFiles]
    decide +kernel
  have hproject := forall_apart_append_iff (a := place) hinside
  have hfar (path : String) (h : Apart ["src", "app"] (Path.mk path).components) :
      Apart (["src", "app"] ++ place) (Path.mk path).components :=
    h.below (List.prefix_append _ _)
  have hschema := hfar "prisma/schema.prisma" (by decide +kernel)
  have hfixtures := hfar "src/lib/fixtures.json" (by decide +kernel)
  have henvironment := hfar ".env.example" (by decide +kernel)
  have hpackage := hfar "package.json" (by decide +kernel)
  have hhosting : Apart (["src", "app"] ++ place)
      (Path.mk (Artifact.hostingFile spec.deploy.target).1).components := by
    cases spec.deploy.target <;> exact hfar _ (by decide +kernel)
  have hsignIn : (Path.mk Artifact.signInPath).components =
      ["src", "app"] ++ ["api", "auth", "[...nextauth]", "route.ts"] := by
    decide +kernel
  rw [List.forall_mem_map] at hproject
  rw [standingPaths, List.forall_mem_append, hproject, forall_mem_generatedPaths_iff, takenPlaces,
    List.forall_mem_append, forall_mem_ite_iff, hsignIn, apart_append_iff]
  simp only [hschema, hfixtures, henvironment, hhosting, hpackage, implies_true, true_and, and_true]

theorem apart_takenPlaces_iff (spec : AppSpec) (route : Route) :
    (∀ place ∈ spec.takenPlaces, Apart route.modulePlace place) ↔
      route.modulePlace ∉ spec.takenPlaces ∧
        ∀ place ∈ spec.takenPlaces, ¬place <+: route.segments := by
  have hname : ∀ place ∈ spec.takenPlaces, "page.tsx" ∉ place.dropLast := by
    unfold takenPlaces
    by_cases h : spec.HasSignIn <;> simp only [h, if_true, if_false] <;> decide +kernel
  constructor
  · intro hapart
    constructor
    · intro hmem
      exact (hapart _ hmem).1 List.prefix_rfl
    · intro place hplace
      exact ((apart_concat_iff (hname place hplace)).1 (hapart place hplace)).2
  · intro hbeside place hplace
    apply (apart_concat_iff (hname place hplace)).2
    constructor
    · intro heq
      rw [← heq] at hplace
      exact hbeside.1 hplace
    · exact hbeside.2 place hplace

theorem apart_modulePlaces_iff {a b : Route} :
    Apart a.modulePlace b.modulePlace ↔
      a.segments ≠ b.segments ∧ ¬a.modulePlace <+: b.segments ∧ ¬b.modulePlace <+: a.segments := by
  simp only [Apart, Route.modulePlace, List.prefix_concat_iff, List.append_left_inj, not_or]
  constructor
  · intro hapart
    exact ⟨hapart.1.1, hapart.1.2, hapart.2.2⟩
  · intro hbeside
    exact ⟨⟨hbeside.1, hbeside.2.1⟩, hbeside.1.symm, hbeside.2.2⟩

/-- The files of a project are apart exactly when its pages are, from each other and from the files
that are in the app directory anyway. -/
theorem noClobber_writtenPaths_iff (hrules : spec.checkRules = .ok ()) :
    NoClobber (Scaffold.writtenPaths spec spec.plan) ↔
      (spec.routes.Pairwise fun a b ↦ a.segments ≠ b.segments ∧
        ¬a.modulePlace <+: b.segments ∧ ¬b.modulePlace <+: a.segments) ∧
      ∀ route ∈ spec.routes, route.modulePlace ∉ spec.takenPlaces ∧
        ∀ place ∈ spec.takenPlaces, ¬place <+: route.segments := by
  have hcomponents : ((spec.routes.map (·.modulePath)).map fun path ↦ (Path.mk path).components) =
      spec.routes.map fun route ↦ ["src", "app"] ++ route.modulePlace := by
    rw [List.map_map]
    exact List.map_congr_left fun _ hroute ↦ Route.components_modulePath
      (isStep_of_mem_segments hroute) (stay_notMem_segments hrules hroute)
  rw [noClobber_iff_pairwise, ((perm_writtenPaths spec).map _).pairwise_iff Apart.symm,
    List.map_append, hcomponents, List.pairwise_append, List.pairwise_map, List.pairwise_map,
    List.forall_mem_map]
  simp only [List.forall_mem_map, apart_append_iff, apart_modulePlaces_iff, apart_standingPaths_iff,
    apart_takenPlaces_iff, standingPaths_pairwise, true_and]

/-- An app of recipes for a server host, with the given pages. -/
def cookbook (pages : List PageDescriptor) : AppSpec where
  blueprint := .webApp
  app := { name := "Recipes", purpose := "Share recipes", roles := ["cook"], entities := [] }
  features := { auth := .none, pages := pages, integrations := [] }
  runtime := { renderMode := .server, database := .none }
  deploy := { target := .vercel }

theorem cookbook_noClobber :
    let spec := cookbook [.path "/", .path "/recipes", .path "/recipes/[id]"]
    spec.checkRules = .ok () ∧ NoClobber (Scaffold.writtenPaths spec spec.plan) := by
  intro spec
  have hrules : spec.checkRules = .ok () := by decide +kernel
  exact ⟨hrules, (noClobber_writtenPaths_iff hrules).2 (by decide +kernel)⟩

/-- A page that is listed twice is written twice, and a page below a standing file needs a directory
in its place. Neither stage of validation objects. -/
theorem cookbook_clobber :
    let twice := cookbook [.path "/", .path "/recipes", .path "/recipes"]
    let below := cookbook [.path "/", .path "/layout.tsx"]
    (validate twice.encode = .ok twice ∧ ¬NoClobber (Scaffold.writtenPaths twice twice.plan)) ∧
      validate below.encode = .ok below ∧
        ¬NoClobber (Scaffold.writtenPaths below below.plan) := by
  intro twice below
  refine ⟨⟨by decide +kernel, fun h ↦ ?_⟩, by decide +kernel, fun h ↦ ?_⟩
  · have hrepeated : ¬(Scaffold.writtenPaths twice twice.plan).Nodup := by decide +kernel
    exact hrepeated h.1
  · have hsame := h.2 "src/app/layout.tsx" (by decide +kernel) "src/app/layout.tsx/page.tsx"
      (by decide +kernel) (by decide +kernel)
    exact absurd hsame (by decide)

end AppSpec

end WebScaffold

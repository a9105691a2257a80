import WebScaffold.Proofs.Layout
import WebScaffold.Proofs.Override

/-!
# Bullets of the landing page

The three feature tokens of a file are filled one by one, with a default text for each bullet that
is not there. That bullets and default texts still never stand side by side is due to the schema,
which wants three bullets or none at all.
-/

namespace WebScaffold

/-! ## The first features section -/

/-- Whether a page brings no features section to the landing pages. -/
def PageDescriptor.LacksFeatures (page : PageDescriptor) : Prop :=
  ∀ detailed : PageSpec, page = .detailed detailed → detailed.purpose = .landing →
    ∀ part ∈ detailed.sections.getD [], part.kind ≠ .features

/-- The features section that comes first on the landing pages, taken page by page. -/
inductive FirstFeatures : List PageDescriptor → PageSection → Prop where
  | here {page : PageSpec} {pages : List PageDescriptor} {front back : List PageSection}
      {part : PageSection} (hpurpose : page.purpose = .landing)
      (hsections : page.sections = some (front ++ part :: back))
      (hfront : ∀ other ∈ front, other.kind ≠ .features) (hkind : part.kind = .features) :
      FirstFeatures (.detailed page :: pages) part
  | later {page : PageDescriptor} {pages : List PageDescriptor} {part : PageSection}
      (hlacks : page.LacksFeatures) (hpages : FirstFeatures pages part) :
      FirstFeatures (page :: pages) part

namespace PageDescriptor

/-- The sections of a page, if it is a landing page. -/
def landingParts : PageDescriptor → List PageSection
  | .detailed page => if page.purpose = .landing then page.sections.getD [] else []
  | .path _ => []

theorem find?_landingParts_eq_none_iff (page : PageDescriptor) :
    page.landingParts.find? (·.kind == .features) = none ↔ page.LacksFeatures := by
  cases page with
  | path p => simp [landingParts, LacksFeatures]
  | detailed page =>
    by_cases hpurpose : page.purpose = .landing <;> simp [landingParts, LacksFeatures, hpurpose]

theorem find?_landingParts_eq_some_iff {page : PageDescriptor} {part : PageSection} :
    page.landingParts.find? (·.kind == .features) = some part ↔
      ∃ detailed front back, page = .detailed detailed ∧ detailed.purpose = .landing ∧
        detailed.sections = some (front ++ part :: back) ∧
        (∀ other ∈ front, other.kind ≠ .features) ∧ part.kind = .features := by
  rw [List.find?_eq_some_iff_append]
  constructor
  · rintro ⟨hkind, front, back, hparts, hfront⟩
    cases page with
    | path p => simp [landingParts] at hparts
    | detailed page =>
      by_cases hpurpose : page.purpose = .landing
      · cases hsections : page.sections with
        | none => simp [landingParts, hpurpose, hsections] at hparts
        | some parts =>
          obtain rfl : parts = front ++ part :: back := by
            simpa [landingParts, hpurpose, hsections] using hparts
          exact ⟨page, front, back, rfl, hpurpose, hsections, by simpa using hfront,
            by simpa using hkind⟩
      · simp [landingParts, hpurpose] at hparts
  · rintro ⟨detailed, front, back, rfl, hpurpose, hsections, hfront, hkind⟩
    refine ⟨by simpa using hkind, front, back, ?_, by simpa using hfront⟩
    simp [landingParts, hpurpose, hsections]

theorem find?_features_eq_some_iff {pages : List PageDescriptor} {part : PageSection} :
    (pages.flatMap landingParts).find? (·.kind == .features) = some part ↔
      FirstFeatures pages part := by
  constructor
  · intro h
    induction pages with
    | nil => simp at h
    | cons page pages ih =>
      rw [List.flatMap_cons, List.find?_append] at h
      cases hpage : page.landingParts.find? (·.kind == .features) with
      | none =>
        rw [hpage, Option.none_or] at h
        exact .later (page.find?_landingParts_eq_none_iff.1 hpage) (ih h)
      | some first =>
        obtain rfl : first = part := by simpa [hpage] using h
        obtain ⟨detailed, front, back, rfl, hpurpose, hsections, hfront, hkind⟩ :=
          find?_landingParts_eq_some_iff.1 hpage
        exact .here hpurpose hsections hfront hkind
  · intro h
    induction h with
    | here hpurpose hsections hfront hkind =>
      have hpage := find?_landingParts_eq_some_iff.2
        ⟨_, _, _, rfl, hpurpose, hsections, hfront, hkind⟩
      rw [List.flatMap_cons, List.find?_append, hpage, Option.some_or]
    | later hlacks _ ih =>
      have hpage := (find?_landingParts_eq_none_iff _).2 hlacks
      rw [List.flatMap_cons, List.find?_append, hpage, Option.none_or, ih]

end PageDescriptor

/-- Only one section comes first. -/
theorem FirstFeatures.unique {pages : List PageDescriptor} {part other : PageSection}
    (hpart : FirstFeatures pages part) (hother : FirstFeatures pages other) : part = other := by
  have hfound := PageDescriptor.find?_features_eq_some_iff.2 hpart
  rw [PageDescriptor.find?_features_eq_some_iff.2 hother] at hfound
  exact (Option.some.inj hfound).symm

namespace AppSpec

open Plan Schema

variable {spec : AppSpec}

theorem landingSections_eq (spec : AppSpec) :
    spec.landingSections = spec.features.pages.flatMap PageDescriptor.landingParts := by
  refine congrArg (spec.features.pages.flatMap ·) (funext fun page ↦ ?_)
  cases page <;> rfl

/-- The features section that is found first is the one whose bullets are taken. -/
theorem featureBullets_of_firstFeatures {part : PageSection}
    (h : FirstFeatures spec.features.pages part) : spec.featureBullets = part.bullets.getD [] := by
  rw [featureBullets, landingSections_eq, PageDescriptor.find?_features_eq_some_iff.2 h]

theorem featureBullets_of_forall_not (h : ∀ part, ¬FirstFeatures spec.features.pages part) :
    spec.featureBullets = [] := by
  have hnone : spec.landingSections.find? (·.kind == .features) = none := by
    apply Option.eq_none_iff_forall_not_mem.2
    intro part hpart
    rw [landingSections_eq] at hpart
    exact h part (PageDescriptor.find?_features_eq_some_iff.1 hpart)
  rw [featureBullets, hnone]

/-! ## Bullets that the schema accepts -/

theorem length_of_accepts {part : PageSection} {bullets : List String}
    (hpart : Accepts part.encode sectionSchema) (hbullets : part.bullets = some bullets) :
    bulletsMinimum ≤ bullets.length := by
  have hwritten : Accepts (Json.ofStrings bullets) (.list (some bulletsMinimum) anyText) :=
    hpart.of_written "bullets" rfl
      (by simp [Table.lookup_cons, List.lookup_append, hbullets])
  obtain ⟨items, heq, -, hlength⟩ := hwritten
  obtain rfl : bullets.map Json.string = items := Json.array.inj heq
  simpa using hlength _ rfl

theorem accepts_of_firstFeatures {pages : List PageDescriptor} {part : PageSection}
    (h : FirstFeatures pages part) (hpages : ∀ page ∈ pages, Accepts page.encode pageSchema) :
    Accepts part.encode sectionSchema := by
  induction h with
  | here _ hsections _ _ =>
    have hpage := accepts_encode_of_detailed (List.forall_mem_cons.1 hpages).1
    exact forall_mem_getD_sections hpage _ (by simp [hsections])
  | later _ _ ih => exact ih (List.forall_mem_cons.1 hpages).2

/-- The section whose bullets are taken has enough of them for all tokens, or none. -/
theorem Conforms.bulletsMinimum_le_length (h : spec.Conforms) {part : PageSection}
    (hpart : FirstFeatures spec.features.pages part) {bullets : List String}
    (hbullets : part.bullets = some bullets) : bulletsMinimum ≤ bullets.length := by
  obtain ⟨items, heq, hitems, -⟩ := h.pages
  obtain rfl : spec.features.pages.map PageDescriptor.encode = items := Json.array.inj heq
  have haccepts := accepts_of_firstFeatures hpart (List.forall_mem_map.1 hitems)
  exact length_of_accepts haccepts hbullets

/-! ## The tokens of features -/

theorem fillBullets_nil : fillBullets [] = usualBullets := rfl

theorem fillBullets_of_length_le {bullets : List String} (h : bulletsMinimum ≤ bullets.length) :
    fillBullets bullets = bullets := by
  rw [fillBullets, List.drop_eq_nil_of_le h, List.append_nil]

theorem bulletsMinimum_le_length_fillBullets (bullets : List String) :
    bulletsMinimum ≤ (fillBullets bullets).length := by
  have husual : usualBullets.length = bulletsMinimum := rfl
  rw [fillBullets, List.length_append, List.length_drop, husual]
  omega

/-- A list of at least three texts gives the tokens its first three, in their order. -/
theorem lookup_commonTokens_features (spec : AppSpec) :
    Token.features.map (spec.commonTokens.lookup ·) =
      ((fillBullets spec.featureBullets).take bulletsMinimum).map some := by
  obtain ⟨a, b, c, more, hbullets⟩ : ∃ a b c more, fillBullets spec.featureBullets =
      a :: b :: c :: more := by
    have hlength := bulletsMinimum_le_length_fillBullets spec.featureBullets
    match hbullets : fillBullets spec.featureBullets, hlength with
    | a :: b :: c :: more, _ => exact ⟨a, b, c, more, rfl⟩
  rw [commonTokens, hbullets]
  simp only [Table.lookup_ofList, Token.features]
  rfl

end AppSpec

/-- The texts that the feature tokens of a file stand for. -/
def PlannedFile.featureTexts (file : PlannedFile) : List (Option String) :=
  Plan.Token.features.map (file.tokens.lookup ·)

namespace AppSpec

open Plan

variable {spec : AppSpec}

theorem featureTexts_of_mem_plan {file : PlannedFile} (h : file ∈ spec.plan.files) :
    file.featureTexts = ((fillBullets spec.featureBullets).take bulletsMinimum).map some := by
  rw [← lookup_commonTokens_features]
  rcases mem_plan_files_iff.1 h with ⟨path, id, -, rfl⟩ | ⟨route, -, rfl⟩
  · rw [PlannedFile.featureTexts, tokens_projectFile]
  · refine List.map_congr_left fun token htoken ↦ ?_
    have hcollection : token ≠ Token.collection := fun hsame ↦ absurd (hsame ▸ htoken) (by decide)
    have hsingular : token ≠ Token.singular := fun hsame ↦ absurd (hsame ▸ htoken) (by decide)
    simp [pageFile, Table.lookup_insertAll, Table.lookup_cons, hcollection, hsingular]

end AppSpec

/-! ## Planned specifications -/

namespace Project

open AppSpec

theorem Plannable.conforms {target? : Option DeployTarget} {spec : AppSpec}
    (h : Plannable target? spec) : spec.Conforms :=
  .of_ofDocument (validate_eq_ok_iff.1 h.validate_encode).1

/-- In every file of a plan the feature tokens stand for the first three bullets of the features
section that comes first on the landing pages, or for the three usual texts if this section has no
bullets or if there is none. -/
theorem plannedSpec_featureTexts {setup : Setup} {order : ProjectOrder} {disk last : Disk}
    {spec : AppSpec} (h : ((plannedSpec setup order).outcome disk).value = (.ok spec, last)) :
    (∃ part bullets, FirstFeatures spec.features.pages part ∧ part.bullets = some bullets ∧
      3 ≤ bullets.length ∧
      ∀ file ∈ spec.plan.files, file.featureTexts = (bullets.take 3).map some) ∨
    (∀ part, FirstFeatures spec.features.pages part → part.bullets = none) ∧
      ∀ file ∈ spec.plan.files, file.featureTexts = usualBullets.map some := by
  have hconforms := (plannedSpec_plannable h).conforms
  have husual (hbullets : spec.featureBullets = []) (file : PlannedFile)
      (hfile : file ∈ spec.plan.files) : file.featureTexts = usualBullets.map some := by
    rw [featureTexts_of_mem_plan hfile, hbullets, fillBullets_nil]
    rfl
  by_cases hfirst : ∃ part, FirstFeatures spec.features.pages part
  · obtain ⟨part, hpart⟩ := hfirst
    have hpartBullets := featureBullets_of_firstFeatures hpart
    cases hbullets : part.bullets with
    | none =>
      rw [hbullets] at hpartBullets
      refine .inr ⟨fun other hother ↦ ?_, husual hpartBullets⟩
      rw [hother.unique hpart, hbullets]
    | some bullets =>
      have hlength := hconforms.bulletsMinimum_le_length hpart hbullets
      refine .inl ⟨part, bullets, hpart, hbullets, hlength, fun file hfile ↦ ?_⟩
      rw [featureTexts_of_mem_plan hfile, hpartBullets, hbullets, Option.getD_some,
        fillBullets_of_length_le hlength]
      rfl
  · have hnone : ∀ part, ¬FirstFeatures spec.features.pages part := not_exists.1 hfirst
    exact .inr ⟨fun part hpart ↦ absurd hpart (hnone part),
      husual (featureBullets_of_forall_not hnone)⟩

/-- The recipes with two landing pages, both with features of their own. -/
def tourDraft : Json :=
  let features (bullets : List String) : Json :=
    .array [.object [("bullets", .array (bullets.map .string)), ("kind", .string "features")]]
  let landing (path : String) (bullets : List String) : Json :=
    .object [("path", .string path), ("purpose", .string "landing"), ("sections", features bullets)]
  Json.put
    (.array [.string "/recipes",
      landing "/" ["Scan a recipe", "Plan a week", "Share a meal", "Print"],
      landing "/tour" ["Look", "Taste", "Cook"]])
    ["features", "pages"] Draft.misplacedDraft

/-- What is planned of it. -/
def tourSpec : AppSpec :=
  let hero : PageSection := { kind := .hero, headline := some "Welcome to Recipes" }
  let landing (path : String) (bullets : List String) : PageDescriptor :=
    .detailed
      { path := path, purpose := .landing,
        sections := some [hero, { kind := .features, bullets := some bullets }] }
  { Draft.misplacedSpec.withRenderMode .static with
    features :=
      { auth := .none, integrations := []
        pages :=
          [.path "/recipes", landing "/" ["Scan a recipe", "Plan a week", "Share a meal", "Print"],
            landing "/tour" ["Look", "Taste", "Cook"]] } }

theorem plannedSpec_tourDraft :
    ((plannedSpec trailsSetup ⟨.document ⟨"trails"⟩, ⟨"out"⟩, none, false⟩).outcome
      (diskWith tourDraft.print)).value = (.ok tourSpec, diskWith tourDraft.print) := by
  have hread : (validateDocument tourDraft).value = .ok _ := rfl
  rw [plannedSpec_document_outcome (loadDocument_diskWith_print (by decide +kernel)) hread rfl]
  rfl

theorem tourSpec_featureTexts :
    ((plannedSpec trailsSetup ⟨.document ⟨"trails"⟩, ⟨"out"⟩, none, false⟩).outcome
      (diskWith tourDraft.print)).value = (.ok tourSpec, diskWith tourDraft.print) ∧
    ∀ file ∈ tourSpec.plan.files,
      file.featureTexts = [some "Scan a recipe", some "Plan a week", some "Share a meal"] := by
  refine ⟨plannedSpec_tourDraft, ?_⟩
  have hfirst : FirstFeatures tourSpec.features.pages
      { kind := .features
        bullets := some ["Scan a recipe", "Plan a week", "Share a meal", "Print"] } := by
    refine .later (fun _ hpath ↦ by cases hpath) (@FirstFeatures.here _ _ [_] [] _ rfl rfl ?_ rfl)
    simp
  obtain ⟨part, bullets, hpart, hbullets, -, htexts⟩ | ⟨hnone, -⟩ :=
    plannedSpec_featureTexts plannedSpec_tourDraft
  · obtain rfl := hpart.unique hfirst
    obtain rfl := Option.some.inj hbullets
    exact htexts
  · cases hnone _ hfirst

end Project

end WebScaffold

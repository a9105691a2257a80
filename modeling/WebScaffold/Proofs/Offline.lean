import WebScaffold.Generator.Offline
import WebScaffold.Plan.Basic
import WebScaffold.Proofs.Planned

/-!
# What the offline generator drafts

The draft for an idea holds two texts that depend on it, the purpose and the name, and neither can
come out empty. Everything else in it is fixed. So the schema accepts every draft, and what is read
of it needs no repair and keeps the rules: the first answer is always taken.
-/

namespace WebScaffold

/-! ## Pages of a plan -/

/-- The routes of the pages that a plan has a module for, in order. -/
def ProjectPlan.pageRoutes (plan : ProjectPlan) : List Route :=
  plan.files.filterMap fun file ↦
    match file.source with
    | .page route => some route
    | .template _ => none

theorem AppSpec.pageRoutes_plan (spec : AppSpec) : spec.plan.pageRoutes = spec.routes := by
  unfold ProjectPlan.pageRoutes plan
  rw [List.filterMap_append, List.filterMap_map, List.filterMap_map]
  calc
    -- the files that every project has are made of templates, the others of their pages
    _ = [] ++ spec.routes :=
      congrArg₂ (· ++ ·) (List.filterMap_eq_nil_iff.2 fun _ _ ↦ rfl) List.filterMap_some
    _ = spec.routes := List.nil_append _

namespace Offline

open Json Schema AppSpec

/-! ## Purposes and names -/

/-- The purpose of the app that is drafted for an idea. -/
def purposeOf (idea : String) : String :=
  if Text.trim idea = "" then usualIdea else Text.trim idea

theorem purposeOf_ne_empty (idea : String) : purposeOf idea ≠ "" := by
  unfold purposeOf
  split_ifs with hblank
  · decide
  · exact hblank

theorem nameFrom_ne_empty (idea : List Char) : nameFrom idea ≠ "" := by
  unfold nameFrom
  split
  · decide
  · rename_i name hname
    rw [Ne, ← String.toList_inj, String.toList_ofList]
    exact hname

/-- A name is made of ASCII letters and digits, also where the usual one takes its place. -/
theorem isAlphanum_of_mem_nameFrom (idea : List Char) {c : Char}
    (hc : c ∈ (nameFrom idea).toList) : c.isAlphanum = true := by
  unfold nameFrom at hc
  split at hc
  · have husual : ∀ c ∈ usualIdea.toList, c.isAlphanum = true := by simp [usualIdea]
    exact husual c hc
  · rw [String.toList_ofList] at hc
    obtain ⟨word, -, hmem⟩ := List.mem_flatMap.mp hc
    exact (List.mem_filter.mp hmem).2

/-! ## Drafts -/

/-- The draft with a name and a purpose. -/
def draft (name purpose : String) : Json :=
  ofMembers
    [("blueprint", .string "web_app"), ("app", App.encode ⟨name, purpose, ["user"], []⟩),
      ("features", ofMembers
        [("auth", .string "none"), ("pages", ofStrings ["/", "/items", "/items/[id]"]),
          ("integrations", .array [])]),
      ("runtime", ofMembers [("renderMode", .string "ssg"), ("database", .string "none")]),
      ("deploy", ofMembers [("target", .string "github_pages"), ("domain", .null)])]

/-- What is read of the draft with a name and a purpose. -/
def spec (name purpose : String) : AppSpec where
  blueprint := .webApp
  app := ⟨name, purpose, ["user"], []⟩
  features :=
    { auth := .none
      pages := [.path "/", .path "/items", .path "/items/[id]"]
      integrations := [] }
  runtime := ⟨.static, .none⟩
  deploy := ⟨.githubPages, none⟩

theorem draftOf_eq (idea : String) :
    draftOf idea = draft (nameFrom (purposeOf idea).toList) (purposeOf idea) := by
  unfold draftOf draft App.encode purposeOf
  dsimp only
  rfl

section

variable {name purpose : String}

theorem accepts_filledText {text : String} (h : text ≠ "") : Accepts (.string text) filledText := by
  refine ⟨text, rfl, fun least hleast ↦ ?_⟩
  obtain rfl : 1 = least := Option.some.inj hleast
  exact Nat.pos_of_ne_zero fun hlength ↦ h (String.length_eq_zero_iff.mp hlength)

theorem accepts_app (hname : name ≠ "") (hpurpose : purpose ≠ "") :
    Accepts (App.encode ⟨name, purpose, ["user"], []⟩) appSchema := by
  have hroles : Accepts (ofStrings ["user"]) (.list (some 1) filledText) :=
    (issues_eq_nil_iff "" _ _).mp rfl
  refine accepts_ofMembers ?_ (by simp)
  simp only [List.forall_mem_cons]
  exact ⟨acceptsMember_iff.2 ⟨_, rfl, accepts_filledText hname⟩,
    acceptsMember_iff.2 ⟨_, rfl, accepts_filledText hpurpose⟩,
    acceptsMember_iff.2 ⟨_, rfl, hroles⟩, acceptsMember_iff.2 ⟨_, rfl, accepts_nil_list _⟩, by simp⟩

theorem accepts_draft (hname : name ≠ "") (hpurpose : purpose ≠ "") :
    Accepts (draft name purpose) schema := by
  refine accepts_ofMembers ?_ (by simp)
  simp only [List.forall_mem_cons]
  refine ⟨acceptsMember_iff.2 ⟨_, rfl, ?_⟩,
    acceptsMember_iff.2 ⟨_, rfl, accepts_app hname hpurpose⟩, acceptsMember_iff.2 ⟨_, rfl, ?_⟩,
    acceptsMember_iff.2 ⟨_, rfl, ?_⟩, acceptsMember_iff.2 ⟨_, rfl, ?_⟩, by simp⟩
  all_goals exact (issues_eq_nil_iff "" _ _).mp rfl

theorem decode_draft (name purpose : String) :
    decode (draft name purpose) = .ok (spec name purpose) := by
  refine decode_object_eq_ok_iff.2 ⟨⟨_, rfl, ?_⟩, ⟨_, rfl, App.describes.decode_encode _⟩,
    ⟨_, rfl, ?_⟩, ⟨_, rfl, ?_⟩, ⟨_, rfl, ?_⟩⟩
  all_goals
    dsimp only [spec]
    rfl

theorem repair_draft (name purpose : String) :
    Draft.repair (draft name purpose) = pure (draft name purpose) := rfl

theorem repair_spec (name purpose : String) :
    (spec name purpose).repair = pure (spec name purpose) := rfl

theorem checkRules_spec (name purpose : String) : (spec name purpose).checkRules = .ok () := by
  have hpages : ((spec "" "").features.pages.zipIdx.flatMap
      fun entry ↦ pagePathIssues entry.2 entry.1) = [] := rfl
  have hissues : (spec name purpose).ruleIssues = [] := hpages
  rw [checkRules, hissues]

theorem ofDocument_draft (hname : name ≠ "") (hpurpose : purpose ≠ "") :
    ofDocument (draft name purpose) = .ok (spec name purpose) :=
  ofDocument_eq_ok_iff.2 ⟨accepts_draft hname hpurpose, decode_draft name purpose⟩

theorem routes_spec (name purpose : String) :
    (spec name purpose).routes =
      [⟨"/items", ["items"], .list, "items", "item", none⟩,
        ⟨"/items/[id]", ["items", "[id]"], .detail, "items", "item", some ⟨"id", false⟩⟩] := by
  have hsame : (spec name purpose).routes = (spec "" "").routes := rfl
  rw [hsame]
  rfl

/-- A draft is accepted as it is when its name and purpose are there. -/
theorem accept_draft (hname : name ≠ "") (hpurpose : purpose ≠ "") :
    Synthesis.accept (draft name purpose) = pure (.ok (spec name purpose)) := by
  have hopen : Synthesis.openEnvelope (draft name purpose) = draft name purpose := rfl
  unfold Synthesis.accept
  rw [hopen, repair_draft, pure_bind, ofDocument_draft hname hpurpose]
  simp only [repair_spec, pure_bind, checkRules_spec]

end

/-! ## The whole synthesis -/

/-- The generator answers with a draft whose name and purpose are there. -/
theorem exists_draft_of_idea (idea : String) :
    ∃ name purpose, draftOf idea = draft name purpose ∧ name ≠ "" ∧
      (∀ c ∈ name.toList, c.isAlphanum = true) ∧ purpose ≠ "" :=
  ⟨_, _, draftOf_eq idea, nameFrom_ne_empty _, fun _ ↦ isAlphanum_of_mem_nameFrom _,
    purposeOf_ne_empty idea⟩

theorem tryOnce_generator (limits : SynthesisLimits) (earlier : List CompletionRequest)
    (request : CompletionRequest) :
    Synthesis.tryOnce generator limits earlier request = do
      let result ← Synthesis.accept (draftOf (ideaIn request.user))
      return ⟨earlier ++ [request], result⟩ := by
  have hanswer : generator.complete earlier request =
      pure (.answer (draftOf (ideaIn request.user))) := by unfold generator; rfl
  unfold Synthesis.tryOnce
  rw [hanswer, pure_bind]
  rfl

/-- Whatever the idea and the hints are, the first draft is taken without a warning. It is for the
idea that the generator finds in the prompt, it needs no repair, and its app is a static one that
lists items and shows each by its id. -/
theorem specFromIdea_succeeds (limits : SynthesisLimits) (idea : String) (hints : Table Json) :
    let prompt := Synthesis.promptFor idea hints schemaDocument
    ∃ spec, specFromIdea generator limits idea hints =
        ⟨⟨[Synthesis.draftRequest prompt], .ok spec⟩, []⟩ ∧
      ofDocument (draftOf (ideaIn prompt.user)) = .ok spec ∧ spec.repair = pure spec ∧
      spec.app.purpose ≠ "" ∧ spec.app.name ≠ "" ∧
      (∀ c ∈ spec.app.name.toList, c.isAlphanum = true) ∧
      spec.runtime.renderMode = .static ∧ spec.deploy.target = .githubPages ∧
      spec.plan.pageRoutes =
        [⟨"/items", ["items"], .list, "items", "item", none⟩,
          ⟨"/items/[id]", ["items", "[id]"], .detail, "items", "item", some ⟨"id", false⟩⟩] := by
  intro prompt
  obtain ⟨name, purpose, hdraft, hname, hletters, hpurpose⟩ :=
    exists_draft_of_idea (ideaIn prompt.user)
  have haccept : Synthesis.accept (draftOf (ideaIn prompt.user)) = pure (.ok (spec name purpose)) :=
    (congrArg Synthesis.accept hdraft).trans (accept_draft hname hpurpose)
  have htry : Synthesis.tryOnce generator limits [] (Synthesis.draftRequest prompt) =
      pure ⟨[Synthesis.draftRequest prompt], .ok (spec name purpose)⟩ := by
    have hprompt : (Synthesis.draftRequest prompt).user = prompt.user := rfl
    rw [tryOnce_generator, hprompt, haccept, pure_bind]
    rfl
  refine ⟨spec name purpose, ?_, ?_, repair_spec name purpose, hpurpose, hname, hletters, rfl, rfl,
    ?_⟩
  · change Synthesis.tryOnce generator limits [] (Synthesis.draftRequest prompt) >>= _ = _
    rw [htry, pure_bind]
    rfl
  · rw [hdraft]
    exact ofDocument_draft hname hpurpose
  · rw [pageRoutes_plan]
    exact routes_spec name purpose

end Offline

end WebScaffold

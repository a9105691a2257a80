import WebScaffold.Project
import WebScaffold.Proofs.Conformance
import WebScaffold.Proofs.Run

/-!
# Specifications that are planned

What holds of a specification when it is planned, wherever it came from and whichever target was
asked for. A generator's draft is repaired before and after it is read, a document's draft before
only, and both once more for the target; the steps do not undo each other's work. For the same value
both ways end alike.
-/

namespace WebScaffold

open Json Schema

/-! ## Validated specifications -/

namespace AppSpec

variable {spec : AppSpec}

theorem checkRules_repair (spec : AppSpec) : spec.repair.value.checkRules = spec.checkRules := by
  unfold checkRules
  rw [ruleIssues_repair]

theorem validate_of_error {document : Json} {error : ValidationError}
    (h : ofDocument document = .error error) : validate document = .error error := by
  unfold validate
  rw [h]
  rfl

theorem validate_of_ok {document : Json} (h : ofDocument document = .ok spec) :
    validate document = spec.checkRules.map fun _ ↦ spec := by
  unfold validate
  rw [h]
  cases hrules : spec.checkRules <;> simp [bind, Except.bind, hrules, pure, Except.pure, Except.map]

theorem validate_eq_ok_iff {document : Json} :
    validate document = .ok spec ↔ ofDocument document = .ok spec ∧ spec.checkRules = .ok () := by
  cases hread : ofDocument document with
  | error error => simp [validate_of_error hread]
  | ok read =>
    rw [validate_of_ok hread, Except.ok.injEq]
    constructor
    · intro h
      cases hrules : read.checkRules with
      | error error => simp [hrules, Except.map] at h
      | ok rules =>
        obtain rfl : read = spec := by simpa [hrules, Except.map] using h
        exact ⟨rfl, hrules⟩
    · rintro ⟨rfl, hrules⟩
      rw [hrules]
      rfl

/-- A specification that fits the schema and violates no rule between its parts. -/
structure Valid (spec : AppSpec) : Prop where
  conforms : spec.Conforms
  checkRules : spec.checkRules = .ok ()

theorem Valid.validate_encode (h : spec.Valid) : validate spec.encode = .ok spec :=
  validate_eq_ok_iff.2 ⟨h.conforms.ofDocument_encode, h.checkRules⟩

theorem Valid.of_validate {document : Json} (h : validate document = .ok spec) : spec.Valid := by
  obtain ⟨hread, hrules⟩ := validate_eq_ok_iff.1 h
  exact ⟨.of_ofDocument hread, hrules⟩

theorem Valid.repair (h : spec.Valid) : spec.repair.value.Valid :=
  ⟨h.conforms.repair, (checkRules_repair spec).trans h.checkRules⟩

theorem Valid.withTarget (h : spec.Valid) (target? : Option DeployTarget) :
    (spec.withTarget target?).Valid :=
  ⟨h.conforms.withTarget target?, h.checkRules⟩

end AppSpec

/-! ## Answers of generators -/

namespace Synthesis

open AppSpec

/-- An answer is repaired before its rules are checked, which makes no difference. -/
theorem accept_value (answer : Json) :
    (accept answer).value =
      ((validate (Draft.repair (openEnvelope answer)).value).map fun spec ↦ spec.repair.value).mapError
        ValidationError.message := by
  unfold accept
  rw [Noted.bind_value]
  cases hread : ofDocument (Draft.repair (openEnvelope answer)).value with
  | error error =>
    rw [validate_of_error hread]
    rfl
  | ok read =>
    rw [validate_of_ok hread, Noted.bind_value, checkRules_repair]
    cases read.checkRules <;> rfl

variable {generator : Generator} {limits : SynthesisLimits}

theorem tryOnce_value (generator : Generator) (limits : SynthesisLimits)
    (earlier : List CompletionRequest) (request : CompletionRequest) :
    (tryOnce generator limits earlier request).value =
      ⟨earlier ++ [request], (judge limits (generator.complete earlier request).value).value⟩ := rfl

theorem tryOnce_result_of_answer {earlier : List CompletionRequest} {request : CompletionRequest}
    {answer : Json} (h : (generator.complete earlier request).value = .answer answer) :
    (tryOnce generator limits earlier request).value.result = (accept answer).value := by
  rw [tryOnce_value, h]
  rfl

/-- An attempt succeeds with an answer only. -/
theorem exists_answer_of_tryOnce {earlier : List CompletionRequest} {request : CompletionRequest}
    {spec : AppSpec} (h : (tryOnce generator limits earlier request).value.result = .ok spec) :
    ∃ answer, (accept answer).value = .ok spec := by
  rw [tryOnce_value] at h
  cases hcompletion : (generator.complete earlier request).value with
  | answer answer =>
    rw [hcompletion] at h
    exact ⟨answer, h⟩
  | failure error => simp [hcompletion, judge] at h
  | timeout => simp [hcompletion, judge] at h

section

variable {idea : String} {hints : Table Json}

/-- A good draft is taken. -/
theorem specFromIdea_of_draft {spec : AppSpec}
    (h : (tryOnce generator limits []
      (draftRequest (promptFor idea hints schemaDocument))).value.result = .ok spec) :
    (specFromIdea generator limits idea hints).value =
      ⟨[draftRequest (promptFor idea hints schemaDocument)], .ok spec⟩ := by
  unfold specFromIdea
  simp only [Noted.bind_value, h, Noted.pure_value]
  rw [← h]
  rfl

/-- After a draft that is no good the correction decides. -/
theorem specFromIdea_of_rejected {error : String}
    (h : (tryOnce generator limits []
      (draftRequest (promptFor idea hints schemaDocument))).value.result = .error error) :
    (specFromIdea generator limits idea hints).value =
      let draft := draftRequest (promptFor idea hints schemaDocument)
      let correction := correctionRequest (promptFor idea hints schemaDocument) error
      ⟨[draft, correction], (tryOnce generator limits [draft] correction).value.result⟩ := by
  have hrequests : (tryOnce generator limits []
      (draftRequest (promptFor idea hints schemaDocument))).value.requests =
        [draftRequest (promptFor idea hints schemaDocument)] := rfl
  unfold specFromIdea
  simp only [Noted.bind_value, h, hrequests]
  cases hcorrection : (tryOnce generator limits [draftRequest (promptFor idea hints schemaDocument)]
      (correctionRequest (promptFor idea hints schemaDocument) error)).value.result with
  | ok spec =>
    rw [Noted.pure_value, ← hcorrection]
    rfl
  | error error =>
    rw [Noted.bind_value, Noted.pure_value, ← hcorrection]
    rfl

end

theorem valid_of_accept {answer : Json} {spec : AppSpec} (h : (accept answer).value = .ok spec) :
    spec.Valid := by
  rw [accept_value, mapError_eq_ok_iff] at h
  cases hread : validate (Draft.repair (openEnvelope answer)).value with
  | error error => simp [hread, Except.map] at h
  | ok read =>
    obtain rfl : read.repair.value = spec := by simpa [hread, Except.map] using h
    exact (Valid.of_validate hread).repair

theorem valid_of_specFromIdea {idea : String} {hints : Table Json} {spec : AppSpec}
    (h : (specFromIdea generator limits idea hints).value.result = .ok spec) : spec.Valid := by
  cases hdraft : (tryOnce generator limits []
      (draftRequest (promptFor idea hints schemaDocument))).value.result with
  | ok found =>
    rw [specFromIdea_of_draft hdraft] at h
    obtain rfl : found = spec := Except.ok.inj h
    obtain ⟨answer, haccept⟩ := exists_answer_of_tryOnce hdraft
    exact valid_of_accept haccept
  | error error =>
    rw [specFromIdea_of_rejected hdraft] at h
    obtain ⟨answer, haccept⟩ := exists_answer_of_tryOnce h
    exact valid_of_accept haccept

end Synthesis

/-! ## The specification that is planned -/

namespace Project

open AppSpec

variable {target? : Option DeployTarget} {disk last : Disk} {spec : AppSpec}

theorem finishSpec_value (target? : Option DeployTarget) (spec : AppSpec) :
    (finishSpec target? spec).value = (spec.withTarget target?).repair.value := by
  rw [finishSpec, Noted.bind_value, overrideTarget_value]

theorem prepare_outcome (target? : Option DeployTarget) (spec : AppSpec) (disk : Disk) :
    ((prepare target? spec).outcome disk).value =
      if spec.blueprint = .webApp then (.ok (spec.withTarget target?).repair.value, disk)
      else (.error (.scaffold (.unsupportedBlueprint spec.blueprint)), disk) := by
  have hsame : (spec.withTarget target?).repair.value.blueprint = spec.blueprint :=
    blueprint_repair (spec.withTarget target?)
  have hcheck : ((Run.ofExcept ((Scaffold.checkBlueprint (spec.withTarget target?).repair.value.blueprint
      ).mapError RunError.scaffold)).outcome disk).value =
        if spec.blueprint = .webApp then (.ok (), disk)
        else (.error (.scaffold (.unsupportedBlueprint spec.blueprint)), disk) := by
    rw [hsame, Run.outcome_ofExcept, Scaffold.checkBlueprint]
    split_ifs <;> rfl
  unfold prepare
  rw [Run.outcome_bind_of_ok (Run.outcome_noting_value _), finishSpec_value]
  split_ifs at hcheck ⊢
  · rw [Run.outcome_bind_of_ok hcheck]
    rfl
  · rw [Run.outcome_bind_of_error hcheck]

section

variable {generator : Generator} {limits : SynthesisLimits}

theorem specOf_idea_outcome (idea : String) (hints : Table Json) :
    ((specOf (some generator) limits (.idea idea hints)).outcome disk).value =
      ((specFromIdea generator limits idea hints).value.result.mapError
        (.synthesis Synthesis.maximumAttempts), disk) := by
  unfold specOf specOfIdea
  rw [Run.outcome_bind_of_ok (Run.outcome_noting_value _)]
  rfl

theorem specOf_document_outcome {generator? : Option Generator} {path : Path} {document : Json}
    (h : loadDocument path disk = .ok document) :
    ((specOf generator? limits (.document path)).outcome disk).value =
      ((validateDocument document).value.mapError .validation, disk) := by
  unfold specOf
  rw [Run.outcome_bind_of_ok (Run.outcome_reading_of_ok h),
    Run.outcome_bind_of_ok (Run.outcome_noting_value _)]
  rfl

theorem valid_of_specOf {generator? : Option Generator} {source : ProjectSource}
    (h : ((specOf generator? limits source).outcome disk).value = (.ok spec, last)) : spec.Valid := by
  cases source with
  | idea idea hints =>
    cases generator? with
    | none => simp [specOf, specOfIdea] at h
    | some generator =>
      rw [specOf_idea_outcome] at h
      exact Synthesis.valid_of_specFromIdea (mapError_eq_ok_iff.1 (Prod.mk.inj h).1)
  | document path =>
    obtain ⟨document, mid, hload, -⟩ := Run.outcome_bind_eq_ok_iff.1 h
    rw [Run.outcome_reading] at hload
    have hdocument : loadDocument path disk = .ok document := (Prod.mk.inj hload).1
    rw [specOf_document_outcome hdocument] at h
    exact .of_validate (mapError_eq_ok_iff.1 (Prod.mk.inj h).1)

end

/-- What is promised of a specification that is planned. -/
structure Plannable (target? : Option DeployTarget) (spec : AppSpec) : Prop where
  blueprint : spec.blueprint = .webApp
  target : ∀ target ∈ target?, spec.deploy.target = target
  renderMode : ∀ mode ∈ spec.forcedMode?, spec.runtime.renderMode = mode
  hasLandingSections : spec.HasLandingSections
  checkRules : spec.checkRules = .ok ()
  repair : spec.repair = pure spec
  validate_encode : validate spec.encode = .ok spec

theorem plannable_repair_withTarget (h : spec.Valid) (hblueprint : spec.blueprint = .webApp) :
    Plannable target? (spec.withTarget target?).repair.value where
  blueprint := (blueprint_repair _).trans hblueprint
  target target htarget := by
    rw [deploy_repair]
    simp [withTarget, Option.mem_def.mp htarget]
  renderMode _ hmode := renderMode_settleRenderMode hmode
  hasLandingSections := hasLandingSections_ensureSections _
  checkRules := (h.withTarget target?).repair.checkRules
  repair := repair_repair _
  validate_encode := (h.withTarget target?).repair.validate_encode

/-- What becomes of a specification that is planned: the project of its plan is scaffolded and, where
it is to be installed, has to pass the build gate. -/
inductive Makes (tools : Tools) (conditions : Scaffold.Conditions) (outDirectory : Path)
    (install : Bool) (spec : AppSpec) (disk : Disk) : Except RunError Project → Disk → Prop where
  | unwritten {cause : ScaffoldError} {last : Disk}
    (hrun : ((scaffold spec spec.plan outDirectory conditions).outcome disk).value =
      (.error cause, last)) :
    Makes tools conditions outDirectory install spec disk (.error (.scaffold cause)) last
  | unbuilt {written : WrittenProject} {cause : ToolError} {last : Disk} (hinstall : install)
    (hrun : ((scaffold spec spec.plan outDirectory conditions).outcome disk).value =
      (.ok written, last))
    (hgate : (BuildGate.pass tools outDirectory).result = .error cause) :
    Makes tools conditions outDirectory install spec disk (.error (.tool cause)) last
  | made {written : WrittenProject} {last : Disk}
    (hrun : ((scaffold spec spec.plan outDirectory conditions).outcome disk).value =
      (.ok written, last))
    (hgate : install → (BuildGate.pass tools outDirectory).result = .ok ()) :
    Makes tools conditions outDirectory install spec disk (.ok ⟨spec, spec.plan, written⟩) last

theorem makes_of_plannedSpec {setup : Setup} {order : ProjectOrder}
    (h : ((plannedSpec setup order).outcome disk).value = (.ok spec, mid))
    (conditions : Scaffold.Conditions) :
    let run := ((make setup order conditions).outcome disk).value
    Makes setup.tools conditions order.outDirectory order.install spec mid run.1 run.2 := by
  intro run
  have hwritten (result : Except ScaffoldError WrittenProject) (last : Disk)
      (hrun : ((scaffold spec spec.plan order.outDirectory conditions).outcome mid).value =
        (result, last)) :
      ((Run.mapError RunError.scaffold
        (scaffold spec spec.plan order.outDirectory conditions)).outcome mid).value =
          (result.mapError .scaffold, last) := by
    rw [Run.outcome_mapError_value, hrun]
  have hmake : run = _ := Run.outcome_bind_of_ok h
  rcases hrun : ((scaffold spec spec.plan order.outDirectory conditions).outcome mid).value with
    ⟨cause | written, last⟩
  · rw [hmake, Run.outcome_bind_of_error (hwritten _ _ hrun)]
    exact .unwritten hrun
  · rw [hmake, Run.outcome_bind_of_ok (hwritten _ _ hrun)]
    cases hinstall : order.install with
    | false => exact .made hrun (by simp)
    | true =>
      rw [if_pos rfl]
      cases hgate : (BuildGate.pass setup.tools order.outDirectory).result with
      | ok _ => exact .made hrun fun _ ↦ hgate
      | error cause => exact .unbuilt rfl hrun hgate

/-- Whatever the source, the answers of the generator and the target that is asked for, only a
specification that keeps all promises is planned. -/
theorem plannedSpec_plannable {setup : Setup} {order : ProjectOrder}
    (h : ((plannedSpec setup order).outcome disk).value = (.ok spec, last)) :
    Plannable order.target spec := by
  obtain ⟨read, mid, hread, hprepare⟩ := Run.outcome_bind_eq_ok_iff.1 h
  have hvalid := valid_of_specOf hread
  rw [prepare_outcome] at hprepare
  split_ifs at hprepare with hblueprint
  · obtain rfl : (read.withTarget order.target).repair.value = spec :=
      Except.ok.inj (Prod.mk.inj hprepare).1
    exact plannable_repair_withTarget hvalid hblueprint
  · simp at hprepare

/-- A draft without a render mode, with an empty landing page, for a server host. -/
def trailsDraft : Json :=
  .object
    [("app", .object
        [("name", .string "Mountain Trails"), ("purpose", .string "Find a trail"),
          ("roles", .array [.string "hiker"])]),
      ("blueprint", .string "web_app"),
      ("deploy", .object [("target", .string "vercel")]),
      ("features", .object
        [("auth", .string "email_magic"),
          ("pages", .array [.object [("path", .string "/"), ("purpose", .string "landing")]])]),
      ("runtime", .object [("database", .string "none")])]

def trailsGenerator : Generator where
  name := "constant"
  complete _ _ := pure (.answer trailsDraft)

def trailsSetup : Setup where
  limits := {}
  generator := some trailsGenerator
  tools := ⟨fun _ ↦ false, fun _ _ ↦ 1⟩

def trailsOrder (source : ProjectSource) : ProjectOrder where
  source := source
  outDirectory := ⟨"out"⟩
  target := some .githubPages

/-- The specification of the draft on a static host. -/
def trailsSpec : AppSpec where
  blueprint := .webApp
  app := ⟨"Mountain Trails", "Find a trail", ["hiker"], []⟩
  features :=
    { auth := .emailMagic
      pages := [.detailed
        { path := "/"
          purpose := .landing
          sections := some
            [{ kind := .hero, headline := some "Welcome to Mountain Trails" }, usualFeatures] }]
      integrations := [] }
  runtime := ⟨.static, .none⟩
  deploy := ⟨.githubPages, none⟩

theorem trailsSpec_plannable : Plannable (some .githubPages) trailsSpec := by
  have hplanned : ((plannedSpec trailsSetup (trailsOrder (.idea "trails" []))).outcome default).value =
      (.ok trailsSpec, default) := rfl
  exact plannedSpec_plannable hplanned

/-! ## Both sources -/

section

variable {generator : Generator} {limits : SynthesisLimits} {v : Json}

/-- A value without an envelope is taken as it is. -/
theorem openEnvelope_eq_self
    (h : ∀ members, v = .object members → (members.lookup "blueprint").isSome) :
    Synthesis.openEnvelope v = v := by
  cases v with
  | object members => simp [Synthesis.openEnvelope, h members rfl]
  | _ => rfl

/-- A generator that always gives the same answer gets no further with its correction. -/
theorem specFromIdea_of_constant
    (hanswer : ∀ earlier request, (generator.complete earlier request).value = .answer v)
    (limits : SynthesisLimits) (idea : String) (hints : Table Json) :
    (specFromIdea generator limits idea hints).value.result = (Synthesis.accept v).value ∧
      ∀ error, (Synthesis.accept v).value = .error error →
        (specFromIdea generator limits idea hints).value.requests.length = 2 := by
  have hattempt (earlier : List CompletionRequest) (request : CompletionRequest) :
      (Synthesis.tryOnce generator limits earlier request).value.result =
        (Synthesis.accept v).value :=
    Synthesis.tryOnce_result_of_answer (hanswer earlier request)
  cases haccept : (Synthesis.accept v).value with
  | ok spec =>
    rw [Synthesis.specFromIdea_of_draft ((hattempt _ _).trans haccept)]
    simp
  | error error =>
    rw [Synthesis.specFromIdea_of_rejected ((hattempt _ _).trans haccept)]
    simp [hattempt, haccept]

/-- A document and a generator that keeps answering with its value come to the same: the same
specification, of whose plan a project is made then; a blueprint that nothing can be made of; or a
refusal, which the generator gets to hear twice. -/
theorem sources_agree {setup : Setup} (hgenerator : setup.generator = some generator)
    (hanswer : ∀ earlier request, (generator.complete earlier request).value = .answer v)
    (hopen : ∀ members, v = .object members → (members.lookup "blueprint").isSome)
    {path : Path} (hdocument : loadDocument path disk = .ok v) (idea : String) (hints : Table Json)
    (outDirectory : Path) (target? : Option DeployTarget) (install : Bool)
    (conditions : Scaffold.Conditions) :
    let fromDocument : ProjectOrder := ⟨.document path, outDirectory, target?, install⟩
    let fromIdea : ProjectOrder := ⟨.idea idea hints, outDirectory, target?, install⟩
    let documentRun := ((make setup fromDocument conditions).outcome disk).value
    let ideaRun := ((make setup fromIdea conditions).outcome disk).value
    (∃ spec, ((plannedSpec setup fromDocument).outcome disk).value = (.ok spec, disk) ∧
      ((plannedSpec setup fromIdea).outcome disk).value = (.ok spec, disk) ∧
      documentRun = ideaRun ∧
      Makes setup.tools conditions outDirectory install spec disk ideaRun.1 ideaRun.2) ∨
    (∃ blueprint, documentRun = (.error (.scaffold (.unsupportedBlueprint blueprint)), disk) ∧
      ideaRun = (.error (.scaffold (.unsupportedBlueprint blueprint)), disk)) ∨
    ∃ cause lastError, documentRun = (.error (.validation cause), disk) ∧
      ideaRun = (.error (.synthesis 2 lastError), disk) ∧
      (specFromIdea generator setup.limits idea hints).value.requests.length = 2 := by
  intro fromDocument fromIdea documentRun ideaRun
  obtain ⟨hresult, hrequests⟩ := specFromIdea_of_constant hanswer setup.limits idea hints
  rw [Synthesis.accept_value, openEnvelope_eq_self hopen] at hresult hrequests
  have hreadDocument : ((specOf setup.generator setup.limits fromDocument.source).outcome disk).value =
      ((validate (Draft.repair v).value).mapError .validation, disk) :=
    specOf_document_outcome hdocument
  have hreadIdea : ((specOf setup.generator setup.limits fromIdea.source).outcome disk).value =
      ((specFromIdea generator setup.limits idea hints).value.result.mapError (.synthesis 2), disk) := by
    rw [hgenerator]
    exact specOf_idea_outcome idea hints
  rw [hresult] at hreadIdea
  cases hread : validate (Draft.repair v).value with
  | error cause =>
    rw [hread] at hreadDocument hreadIdea hrequests
    refine .inr (.inr ⟨cause, cause.message, ?_, ?_, hrequests cause.message rfl⟩)
    · exact Run.outcome_bind_of_error (Run.outcome_bind_of_error hreadDocument)
    · exact Run.outcome_bind_of_error (Run.outcome_bind_of_error hreadIdea)
  | ok read =>
    rw [hread] at hreadDocument hreadIdea
    -- the draft's repair found the right mode, so repairing the answer leaves no trace of it
    have hmode : read.settleRenderMode.value = read :=
      congrArg Noted.value
        (Draft.settleRenderMode_of_ofDocument_repair (validate_eq_ok_iff.1 hread).1)
    have hplannedDocument : ((plannedSpec setup fromDocument).outcome disk).value =
        ((prepare target? read).outcome disk).value :=
      Run.outcome_bind_of_ok hreadDocument
    have hplannedIdea : ((plannedSpec setup fromIdea).outcome disk).value =
        ((prepare target? read.repair.value).outcome disk).value :=
      Run.outcome_bind_of_ok hreadIdea
    rw [prepare_outcome] at hplannedDocument
    rw [prepare_outcome, blueprint_repair, repair_withTarget_repair hmode] at hplannedIdea
    by_cases hweb : read.blueprint = .webApp
    · rw [if_pos hweb] at hplannedDocument hplannedIdea
      have hmakes := makes_of_plannedSpec hplannedIdea conditions
      refine .inl ⟨_, hplannedDocument, hplannedIdea, ?_, hmakes⟩
      simp only [documentRun, ideaRun, make]
      rw [Run.outcome_bind_of_ok hplannedDocument, Run.outcome_bind_of_ok hplannedIdea]
    · rw [if_neg hweb] at hplannedDocument hplannedIdea
      exact .inr (.inl ⟨read.blueprint, Run.outcome_bind_of_error hplannedDocument,
        Run.outcome_bind_of_error hplannedIdea⟩)

end

/-- A disk with one file, which holds a text. -/
def diskWith (text : String) : Disk :=
  ⟨.directory [("trails", .file text.toByteArray.data.toList)], []⟩

theorem loadDocument_diskWith {text : String} {document : Json} (h : Json.parse text = .ok document) :
    loadDocument ⟨"trails"⟩ (diskWith text) = .ok document := by
  have hread : (diskWith text).read ⟨"trails"⟩ = .ok text.toByteArray.data.toList := rfl
  have hdecode : String.fromUTF8? ⟨text.toByteArray.data.toList.toArray⟩ = some text := by
    simp only [String.fromUTF8?, Array.toArray_toList, Option.dite_none_right_eq_some]
    exact ⟨text.isValidUTF8, rfl⟩
  have htext : (diskWith text).readText ⟨"trails"⟩ = .ok text := by
    rw [Disk.readText, hread]
    simp only [bind, Except.bind, hdecode, pure, Except.pure]
  have hformat : isYaml ⟨"trails"⟩ = false := by decide +kernel
  rw [loadDocument, htext]
  simp [bind, Except.bind, Except.mapError, parseDocument, hformat, h]

theorem parse_print_trailsDraft : Json.parse trailsDraft.print = .ok trailsDraft := by
  have hread : readAll (printChars trailsDraft) = .ok trailsDraft := by decide +kernel
  rw [Json.parse, Json.print, String.toList_ofList, hread]
  rfl

theorem trailsDraft_sources_agree :
    let fromDocument := trailsOrder (.document ⟨"trails"⟩)
    let fromIdea := trailsOrder (.idea "trails" [])
    let disk := diskWith trailsDraft.print
    let documentRun := ((make trailsSetup fromDocument).outcome disk).value
    let ideaRun := ((make trailsSetup fromIdea).outcome disk).value
    (∃ spec, ((plannedSpec trailsSetup fromDocument).outcome disk).value = (.ok spec, disk) ∧
      ((plannedSpec trailsSetup fromIdea).outcome disk).value = (.ok spec, disk) ∧
      documentRun = ideaRun ∧
      Makes trailsSetup.tools .usual ⟨"out"⟩ false spec disk ideaRun.1 ideaRun.2) ∨
    (∃ blueprint, documentRun = (.error (.scaffold (.unsupportedBlueprint blueprint)), disk) ∧
      ideaRun = (.error (.scaffold (.unsupportedBlueprint blueprint)), disk)) ∨
    ∃ cause lastError, documentRun = (.error (.validation cause), disk) ∧
      ideaRun = (.error (.synthesis 2 lastError), disk) ∧
      (specFromIdea trailsGenerator trailsSetup.limits "trails" []).value.requests.length = 2 := by
  have hanswer (earlier : List CompletionRequest) (request : CompletionRequest) :
      (trailsGenerator.complete earlier request).value = .answer trailsDraft := rfl
  have hopen : ∀ members, trailsDraft = .object members → (members.lookup "blueprint").isSome := by
    rintro members hmembers
    obtain rfl := Json.object.inj hmembers
    decide
  exact sources_agree rfl hanswer hopen (loadDocument_diskWith parse_print_trailsDraft) "trails" []
    ⟨"out"⟩ (some .githubPages) false .usual

end Project

end WebScaffold

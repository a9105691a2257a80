import WebScaffold.Proofs.Planned
import WebScaffold.Proofs.Reading

/-!
# Another target

A target that is asked for and a target that the document names come to the same specification but
for the render mode. The draft is repaired before the target that was asked for is known, so what
the document's own target required stays where the new one leaves the choice: the specifications
differ exactly when the draft had to be repaired and the new target does not force a mode.
-/

namespace WebScaffold

open Json Schema

theorem Deploy.decode_insert_target {members : List (String × Json)} {deploy : Deploy}
    (h : Deploy.decode (.object members) = .ok deploy) (target : DeployTarget) :
    Deploy.decode (.object (Table.insert "target" (.string (Variant.name target)) members)) =
      .ok { deploy with target := target } := by
  have hread : decodeVariant (.string (Variant.name target)) = .ok target :=
    (Describes.choice DeployTarget).decode_encode target
  cases deploy
  simp only [Deploy.decode, decodeRecord_object_eq_ok_iff, Fields.and_eq_value_iff,
    Fields.map_eq_value_iff, requiredField_eq_value_iff, optionalField_eq_value_iff] at h ⊢
  simp_all [Table.lookup_insert]

namespace Draft

open AppSpec

variable {draft : Json} {spec spec' : AppSpec} {target : DeployTarget}

/-! ## Assignments to drafts -/

/-- The draft with another target in it. -/
def withTarget (target : DeployTarget) (draft : Json) : Json :=
  put (.string (Variant.name target)) ["deploy", "target"] draft

/-- The draft with another render mode in it. -/
def withRenderMode (mode : RenderMode) (draft : Json) : Json :=
  put (.string (Variant.name mode)) ["runtime", "renderMode"] draft

theorem ordered_withTarget (h : draft.Ordered) (target : DeployTarget) :
    (withTarget target draft).Ordered := by
  have hname : (Json.string (Variant.name target)).Ordered := trivial
  exact hname.put h ["deploy", "target"]

theorem withRenderMode_withTarget (h : draft.Ordered) (mode : RenderMode) (target : DeployTarget) :
    withRenderMode mode (withTarget target draft) = withTarget target (withRenderMode mode draft) :=
  put_comm h (by simp) _ _ _ _

theorem ofDocument_withRenderMode (h : ofDocument draft = .ok spec) (mode : RenderMode) :
    ofDocument (withRenderMode mode draft) = .ok (spec.withRenderMode mode) := by
  obtain ⟨members, runtime, rfl, hlookup, -⟩ := exists_runtime_of_ofDocument h
  rw [withRenderMode, put_eq_withRuntime (runtimeMembers?_eq_some_iff.2 (.inl hlookup))]
  exact ofDocument_withRuntime h hlookup mode

theorem ofDocument_withTarget (h : ofDocument draft = .ok spec) (target : DeployTarget) :
    ofDocument (withTarget target draft) = .ok (spec.withTarget (some target)) := by
  obtain ⟨haccepts, hdecode⟩ := ofDocument_eq_ok_iff.1 h
  obtain ⟨members, rfl, -⟩ := id haccepts
  obtain ⟨hblueprint, happ, hfeatures, hruntime, v, hlookup, hdeploy⟩ :=
    decode_object_eq_ok_iff.1 hdecode
  have hfits : Accepts v deploySchema := haccepts.of_lookup hlookup rfl
  obtain ⟨parts, rfl, -⟩ := id hfits
  have hvalue : withTarget target (.object members) = .object (Table.insert "deploy"
      (.object (Table.insert "target" (.string (Variant.name target)) parts)) members) := by
    simp [withTarget, put, hlookup]
  rw [hvalue]
  refine ofDocument_eq_ok_iff.2 ⟨?_, ?_⟩
  · exact haccepts.insert rfl (hfits.insert rfl (accepts_encodeVariant target))
  · refine decode_object_eq_ok_iff.2 ⟨?_, ?_, ?_, ?_,
      ⟨_, Table.lookup_insert_self _ _ _, Deploy.decode_insert_target hdeploy target⟩⟩ <;>
    · rw [Table.lookup_insert_of_ne (by simp)]
      assumption

/-! ## Where the repair leaves a trace -/

theorem repair_of_forcedMode?_eq_none (h : forcedMode? draft = none) :
    repair draft = pure draft := by
  unfold forcedMode? at h
  unfold repair
  cases htarget : target? draft with
  | none => rfl
  | some target =>
    have hmode : forcedRenderMode target (wantsAuth draft) = none := by simpa [htarget] using h
    simp [hmode]

/-- Another assignment of the render mode hides the repair. -/
theorem withRenderMode_repair_value (h : draft.Ordered) (mode : RenderMode) :
    withRenderMode mode (repair draft).value = withRenderMode mode draft := by
  cases hmode : forcedMode? draft with
  | none => rw [repair_of_forcedMode?_eq_none hmode, Noted.pure_value]
  | some forced =>
    rw [repair_value_eq_put h hmode]
    exact put_put_self h _ _ _

/-- Whichever target is in the draft when it is repaired, what is read of it differs in the render
mode at most. -/
theorem withRenderMode_eq_of_ofDocument (hordered : draft.Ordered)
    (hread : ofDocument (repair draft).value = .ok spec)
    (hread' : ofDocument (repair (withTarget target draft)).value = .ok spec') (mode : RenderMode) :
    spec'.withRenderMode mode = (spec.withTarget (some target)).withRenderMode mode := by
  have hsame : withRenderMode mode (repair (withTarget target draft)).value =
      withTarget target (withRenderMode mode (repair draft).value) := by
    rw [withRenderMode_repair_value (ordered_withTarget hordered target),
      withRenderMode_withTarget hordered, withRenderMode_repair_value hordered]
  have hleft := ofDocument_withRenderMode hread' mode
  rw [hsame, ofDocument_withTarget (ofDocument_withRenderMode hread mode) target] at hleft
  exact (Except.ok.inj hleft).symm

theorem forcedMode?_repair_value (draft : Json) :
    forcedMode? (repair draft).value = forcedMode? draft := by
  obtain ⟨hvalue, -⟩ | ⟨mode, runtime, -, -, hvalue⟩ := repair_cases draft
  · rw [hvalue]
  · rw [hvalue, forcedMode?_withRuntime]

/-- Under a target that does not force a mode the draft is read with the mode that stands in it, and
the repair for the target before had found this one exactly when it did nothing. -/
theorem renderMode_eq_iff_repair_eq_pure
    (hread : ofDocument (repair draft).value = .ok spec)
    (hread' : ofDocument (withTarget target draft) = .ok spec') :
    spec.runtime.renderMode = spec'.runtime.renderMode ↔ repair draft = pure draft := by
  constructor
  · intro hsame
    cases hmode : forcedMode? draft with
    | none => exact repair_of_forcedMode?_eq_none hmode
    | some mode =>
      have hforced : mode ∈ spec.forcedMode? := by
        rw [← forcedMode?_of_ofDocument hread, forcedMode?_repair_value, hmode]
        exact Option.mem_some_self mode
      have hspec : spec.runtime.renderMode = mode :=
        settleRenderMode_eq_pure_iff.1 (settleRenderMode_of_ofDocument_repair hread) mode hforced
      obtain ⟨members, rfl⟩ := exists_object_of_forcedMode? hmode
      obtain ⟨members', runtime, hmembers, hruntime, hset⟩ := exists_runtime_of_ofDocument hread'
      obtain rfl := Json.object.inj hmembers
      -- the target stands outside the runtime, which is therefore the draft's own
      rw [Table.lookup_insert_of_ne (by simp)] at hruntime
      rw [← hsame, hspec] at hset
      exact repair_eq_self hmode (runtimeMembers?_eq_some_iff.2 (.inl hruntime)) hset
  · intro hpure
    rw [hpure, Noted.pure_value] at hread
    rw [ofDocument_withTarget hread target] at hread'
    rw [← Except.ok.inj hread']
    rfl

end Draft

/-! ## The specifications that are planned -/

namespace AppSpec

variable {spec : AppSpec}

/-- A settled specification that gets another mode is repaired to itself again where a mode is
forced, and keeps the other one elsewhere. -/
theorem repair_withRenderMode (hsettled : spec.settleRenderMode = pure spec) (mode : RenderMode) :
    (spec.withRenderMode mode).repair.value =
      spec.repair.value.withRenderMode (spec.forcedMode?.getD mode) := by
  have hforced : forcedMode? (spec.withRenderMode mode) = spec.forcedMode? := rfl
  rw [repair_value, repair_value, hsettled, settleRenderMode_value, hforced]
  cases spec.forcedMode? <;> rfl

theorem renderMode_repair (hsettled : spec.settleRenderMode = pure spec) :
    spec.repair.value.runtime.renderMode = spec.runtime.renderMode := by
  rw [repair_value, hsettled]
  rfl

theorem withRenderMode_eq_self_iff {mode : RenderMode} :
    spec.withRenderMode mode = spec ↔ mode = spec.runtime.renderMode := by
  constructor
  · intro hsame
    exact congrArg (fun other ↦ other.runtime.renderMode) hsame
  · rintro rfl
    rfl

end AppSpec

namespace Project

open AppSpec

variable {setup : Setup} {path path' : Path} {disk disk' : Disk} {document : Json}
variable {target : DeployTarget} {spec spec' : AppSpec}

theorem plannedSpec_document_outcome (hload : loadDocument path disk = .ok document)
    (hread : (validateDocument document).value = .ok spec) (hweb : spec.blueprint = .webApp)
    (outDirectory : Path) (target? : Option DeployTarget) (install : Bool) :
    ((plannedSpec setup ⟨.document path, outDirectory, target?, install⟩).outcome disk).value =
      (.ok (spec.withTarget target?).repair.value, disk) := by
  have hspec :
      ((specOf setup.generator setup.limits (.document path)).outcome disk).value = (.ok spec, disk) := by
    rw [specOf_document_outcome hload, hread]
    rfl
  rw [plannedSpec, Run.outcome_bind_of_ok hspec, prepare_outcome, if_pos hweb]

/-- A document is planned for a target that is asked for as if it named that target, but for the
render mode: where the target leaves the choice, the mode may be the one that the document's own
target required. -/
theorem plannedSpec_override_eq_iff (setup : Setup) (target : DeployTarget)
    (hload : loadDocument path disk = .ok document)
    (hload' : loadDocument path' disk' =
      .ok (put (.string (Variant.name target)) ["deploy", "target"] document))
    (hread : (validateDocument document).value = .ok spec)
    (hread' : (validateDocument
      (put (.string (Variant.name target)) ["deploy", "target"] document)).value = .ok spec')
    (hweb : spec.blueprint = .webApp) (outDirectory outDirectory' : Path) (install install' : Bool) :
    ∃ planned planned',
      ((plannedSpec setup ⟨.document path, outDirectory, some target, install⟩).outcome disk).value =
        (.ok planned, disk) ∧
      ((plannedSpec setup ⟨.document path', outDirectory', none, install'⟩).outcome disk').value =
        (.ok planned', disk') ∧
      planned = planned'.withRenderMode planned.runtime.renderMode ∧
      (planned = planned' ↔
        (forcedRenderMode target spec.requiresAuth = none → Draft.repair document = pure document)) := by
  have hdocument : ofDocument (Draft.repair document).value = .ok spec :=
    (validate_eq_ok_iff.1 hread).1
  have hnamed : ofDocument (Draft.repair (Draft.withTarget target document)).value = .ok spec' :=
    (validate_eq_ok_iff.1 hread').1
  have hagree :=
    Draft.withRenderMode_eq_of_ofDocument (ordered_of_loadDocument hload) hdocument hnamed
  have hwritten : spec.withTarget (some target) = spec'.withRenderMode spec.runtime.renderMode :=
    (hagree spec.runtime.renderMode).symm
  have hforced : spec'.forcedMode? = forcedRenderMode target spec.requiresAuth :=
    congrArg AppSpec.forcedMode? hwritten.symm
  have hweb' : spec'.blueprint = .webApp :=
    (congrArg AppSpec.blueprint hwritten.symm).trans hweb
  have hsettled : spec'.settleRenderMode = pure spec' :=
    Draft.settleRenderMode_of_ofDocument_repair hnamed
  have hplanned : (spec.withTarget (some target)).repair.value =
      spec'.repair.value.withRenderMode (spec'.forcedMode?.getD spec.runtime.renderMode) := by
    rw [hwritten, repair_withRenderMode hsettled]
  refine ⟨_, _, plannedSpec_document_outcome hload hread hweb _ _ _,
    plannedSpec_document_outcome hload' hread' hweb' _ _ _, ?_, ?_⟩
  · rw [hplanned]
    rfl
  · have hnone : spec'.withTarget none = spec' := rfl
    rw [hplanned, hnone, withRenderMode_eq_self_iff, renderMode_repair hsettled, ← hforced]
    cases hmode : spec'.forcedMode? with
    | some mode =>
      have hset := settleRenderMode_eq_pure_iff.1 hsettled mode hmode
      simp [hset]
    | none =>
      have hunforced : Draft.forcedMode? (Draft.withTarget target document) = none := by
        rw [← Draft.forcedMode?_repair_value, Draft.forcedMode?_of_ofDocument hnamed, hmode]
      rw [Draft.repair_of_forcedMode?_eq_none hunforced] at hnamed
      simpa using Draft.renderMode_eq_iff_repair_eq_pure hdocument hnamed

/-- The recipes for a server host, with pages from the server. -/
def servedDraft : Json :=
  Draft.withTarget .vercel Draft.misplacedDraft

def servedSpec : AppSpec :=
  Draft.misplacedSpec.withTarget (some .vercel)

theorem loadDocument_diskWith_print {document : Json}
    (h : readAll (printChars document) = .ok document) :
    loadDocument ⟨"trails"⟩ (diskWith document.print) = .ok document := by
  refine loadDocument_diskWith ?_
  rw [Json.parse, Json.print, String.toList_ofList, h]
  rfl

theorem loadDocument_servedDraft :
    loadDocument ⟨"trails"⟩ (diskWith servedDraft.print) = .ok servedDraft :=
  loadDocument_diskWith_print (by decide +kernel)

theorem validateDocument_servedDraft : (validateDocument servedDraft).value = .ok servedSpec :=
  rfl

theorem servedDraft_override_eq :
    let named := put (.string "github_pages") ["deploy", "target"] servedDraft
    ∃ planned planned',
      ((plannedSpec trailsSetup ⟨.document ⟨"trails"⟩, ⟨"out"⟩, some .githubPages, false⟩).outcome
        (diskWith servedDraft.print)).value = (.ok planned, diskWith servedDraft.print) ∧
      ((plannedSpec trailsSetup ⟨.document ⟨"trails"⟩, ⟨"out"⟩, none, false⟩).outcome
        (diskWith named.print)).value = (.ok planned', diskWith named.print) ∧
      planned = planned' := by
  intro named
  have hread' : (validateDocument named).value = .ok (Draft.misplacedSpec.withRenderMode .static) :=
    rfl
  obtain ⟨planned, planned', hplanned, hplanned', -, hsame⟩ :=
    plannedSpec_override_eq_iff trailsSetup .githubPages
      loadDocument_servedDraft (loadDocument_diskWith_print (by decide +kernel))
      validateDocument_servedDraft hread' rfl ⟨"out"⟩ ⟨"out"⟩ false false
  refine ⟨planned, planned', hplanned, hplanned', hsame.2 fun hfree ↦ ?_⟩
  simp [forcedRenderMode] at hfree

/-- A document for a static host that asks for pages from a server gets static ones on a server host
if that one is asked for, and pages from the server if the document names it. -/
theorem misplacedDraft_override_ne :
    ((plannedSpec trailsSetup ⟨.document ⟨"trails"⟩, ⟨"out"⟩, some .vercel, false⟩).outcome
      (diskWith Draft.misplacedDraft.print)).value =
        (.ok (servedSpec.withRenderMode .static), diskWith Draft.misplacedDraft.print) ∧
    ((plannedSpec trailsSetup ⟨.document ⟨"trails"⟩, ⟨"out"⟩, none, false⟩).outcome
      (diskWith (put (.string "vercel") ["deploy", "target"] Draft.misplacedDraft).print)).value =
        (.ok servedSpec,
          diskWith (put (.string "vercel") ["deploy", "target"] Draft.misplacedDraft).print) ∧
    servedSpec.withRenderMode .static ≠ servedSpec := by
  have hread : (validateDocument Draft.misplacedDraft).value =
      .ok (Draft.misplacedSpec.withRenderMode .static) := rfl
  refine ⟨?_, ?_, by decide⟩
  · rw [plannedSpec_document_outcome (loadDocument_diskWith_print (by decide +kernel)) hread rfl]
    rfl
  · exact plannedSpec_document_outcome loadDocument_servedDraft validateDocument_servedDraft rfl _ _ _

end Project

end WebScaffold

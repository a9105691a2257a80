import WebScaffold.Proofs.Containment

/-!
# Files of pages

The path of a page that the rules accept leads to a file below the app directory, at the names that
stand between its slashes. The rules look at the path as a text and the check before a file is
written looks at the components of the file's path, so the two have to take a path apart in the same
way. They do: no file of a specification that keeps the rules is ever refused for its path.
-/

namespace WebScaffold

namespace Text

theorem pieces_eq_splitOnP (p : Char → Bool) (cs : List Char) : pieces p cs = cs.splitOnP p := by
  induction cs with
  | nil => rfl
  | cons c cs ih =>
    rw [List.splitOnP_cons_eq_if_modifyHead]
    split_ifs with hc
    · rw [pieces_cons_of_sep hc, ih]
    · obtain ⟨piece, rest, hpieces⟩ := exists_pieces_eq_cons p cs
      rw [pieces_cons_of_not_sep (by simpa using hc) hpieces, ← ih, hpieces, List.modifyHead_cons]

end Text

namespace Path

variable {names : List String} {name : String}

/-! ## Lexical normalisation -/

/-- The names of a path, the last one first, after a step up: it undoes the last name, and stays where
there is none in a relative path. -/
def climbUp (absolute : Bool) : List String → List String
  | [] => if absolute then [] else [up]
  | last :: above => if last = up then up :: last :: above else above

/-- The names of a path, the last one first, after one step more. -/
def climb (absolute : Bool) (above : List String) (name : String) : List String :=
  if name = stay then above
  else if name = up then climbUp absolute above
  else name :: above

/-- The shortest path that leads to the same place, as far as the text of the path tells. -/
def normalize (path : Path) : Path :=
  let names := (path.steps.foldl (climb path.isAbsolute) []).reverse
  if names = [] ∧ ¬path.isAbsolute then ⟨stay⟩ else ofComponents path.isAbsolute names

theorem foldl_climb_eq (h : ∀ name ∈ names, isPlain name) (absolute : Bool) (above : List String) :
    names.foldl (climb absolute) above = names.reverse ++ above := by
  induction names generalizing above with
  | nil => rfl
  | cons name names ih =>
    obtain ⟨hstay, hup⟩ := isPlain_iff.1 (h name List.mem_cons_self)
    rw [List.foldl_cons, ih fun other hother ↦ h other (List.mem_cons_of_mem _ hother), climb,
      if_neg hstay, if_neg hup, List.reverse_cons, List.append_assoc, List.singleton_append]

theorem areComponents_of_isPlain (h : ∀ name ∈ names, IsStep name ∧ isPlain name)
    (absolute : Bool) : AreComponents absolute names := by
  have hstay : stay ∉ names := fun hmem ↦ absurd (h stay hmem).2 (by decide)
  refine ⟨fun name hname ↦ (h name hname).1, fun hmem ↦ hstay (List.mem_of_mem_tail hmem), ?_⟩
  exact fun _ hhead ↦ hstay (List.mem_of_mem_head? hhead)

theorem normalize_ofComponents (h : ∀ name ∈ names, IsStep name ∧ isPlain name) (hne : names ≠ [])
    (absolute : Bool) : normalize (ofComponents absolute names) = ofComponents absolute names := by
  have hcomponents := areComponents_of_isPlain h absolute
  rw [normalize, hcomponents.steps, hcomponents.isAbsolute,
    foldl_climb_eq fun name hname ↦ (h name hname).2]
  simp [hne]

theorem leadsInward_ofComponents (h : ∀ name ∈ names, IsStep name ∧ isPlain name) :
    leadsInward (ofComponents false names) := by
  have hcomponents := areComponents_of_isPlain h false
  rw [leadsInward_iff, hcomponents.isAbsolute, hcomponents.components]
  exact ⟨rfl, fun name hname ↦ (h name hname).2⟩

end Path

namespace Route

variable {path : String} {page : PageDescriptor} {route : Route} {names : List String}

/-! ## Names of a page's path -/

/-- What stands between the slashes of a path, apart from nothing. -/
def namesOf (path : String) : List String :=
  ((path.toList.splitOn '/').filter (· ≠ [])).map String.ofList

theorem namesOf_eq_steps (path : String) : namesOf path = Path.steps ⟨path⟩ := by
  have hempty : (fun segment : List Char ↦ decide (segment ≠ [])) = (!·.isEmpty) := by
    funext segment
    cases segment <;> rfl
  rw [namesOf, List.splitOn, Path.steps, Text.pieces_eq_splitOnP, hempty]

theorem segmentProblem?_eq_none_iff {segment : List Char} :
    segmentProblem? segment = none ↔
      isRelative segment = false ∧ (isDynamic segment → (parseParam segment).isSome) := by
  unfold segmentProblem?
  cases isRelative segment <;> cases isDynamic segment <;> cases parseParam segment <;> simp

theorem segmentProblem?_of_pathProblem? (h : pathProblem? path = none) :
    ∀ segment ∈ segmentsOf path.toList, segmentProblem? segment = none := by
  unfold pathProblem? at h
  dsimp only at h
  split_ifs at h
  exact List.findSome?_eq_none_iff.1 h

/-- The names of a path that the rules accept are proper ones. -/
theorem plain_of_pathProblem? (h : pathProblem? path = none) :
    ∀ name ∈ namesOf path, Path.IsStep name ∧ Path.isPlain name := by
  intro name hname
  rw [namesOf_eq_steps] at hname
  refine ⟨Path.isStep_of_mem_steps hname, Path.isPlain_iff.2 ?_⟩
  obtain ⟨segment, hsegment, rfl⟩ := List.mem_map.1 hname
  have hproper := (segmentProblem?_eq_none_iff.1 (segmentProblem?_of_pathProblem? h _ hsegment)).1
  constructor
  · intro hstay
    obtain rfl : segment = ['.'] := by simpa [Path.stay] using congrArg String.toList hstay
    cases hproper
  · intro hup
    obtain rfl : segment = ['.', '.'] := by simpa [Path.up] using congrArg String.toList hup
    cases hproper

theorem route?_eq_none_iff : page.route? = none ↔ namesOf page.pagePath = [] := by
  rw [namesOf_eq_steps, PageDescriptor.route?, Option.map_eq_none_iff, List.getLast?_eq_none_iff,
    Path.steps, List.map_eq_nil_iff]
  rfl

theorem route?_eq_some (h : page.route? = some route) :
    route.segments = namesOf page.pagePath ∧ ∃ last, last ∈ segmentsOf page.pagePath.toList ∧
      (namesOf page.pagePath).getLast? = some (String.ofList last) ∧
      classify last = (route.kind, route.param) := by
  obtain ⟨last, hlast, rfl⟩ := Option.map_eq_some_iff.1 h
  refine ⟨(namesOf_eq_steps _).symm, last, List.mem_of_mem_getLast? hlast, ?_, rfl⟩
  rw [namesOf_eq_steps, Path.steps, List.getLast?_map]
  exact congrArg (Option.map String.ofList) hlast

/-! ## The file of a page -/

/-- The file of a page stands at the given names below the app directory, where its path leads
straight. The page of one item has the parameter that its last segment names. -/
structure IsWritable (names : List String) (route : Route) : Prop where
  modulePath : route.modulePath = "src/app/" ++ "/".intercalate names ++ "/page.tsx"
  normalize : Path.normalize ⟨route.modulePath⟩ = ⟨route.modulePath⟩
  leadsInward : Path.leadsInward ⟨route.modulePath⟩
  param (h : route.kind = .detail) : ∃ last param, names.getLast? = some last ∧
    parseParam last.toList = some param ∧ route.param = some param

theorem modulePath_eq_ofComponents (hroute : page.route? = some route) :
    (⟨route.modulePath⟩ : Path) =
      Path.ofComponents false (["src", "app"] ++ route.modulePlace) := by
  obtain ⟨hsegments, last, -, hlast, -⟩ := route?_eq_some hroute
  have hne : route.segments ≠ [] := by
    rintro hnil
    simp [← hsegments, hnil] at hlast
  have htext : "/".intercalate (["src", "app"] ++ (route.segments ++ ["page.tsx"])) =
      "src/app" ++ "/" ++ ("/".intercalate route.segments ++ "/" ++ "page.tsx") := by
    rw [String.intercalate_append_of_ne_nil (by simp) (by simp),
      String.intercalate_append_of_ne_nil hne (by simp), String.intercalate_singleton]
    rfl
  rw [Path.ofComponents, modulePlace, htext, modulePath]
  congr 1
  apply String.toList_inj.1
  simp

section

variable (hproblem : pathProblem? page.pagePath = none) (hroute : page.route? = some route)

include hproblem hroute

theorem plain_of_route? :
    ∀ name ∈ ["src", "app"] ++ route.modulePlace, Path.IsStep name ∧ Path.isPlain name := by
  have hfront : ∀ name ∈ ["src", "app"], Path.IsStep name ∧ Path.isPlain name := by decide
  have hfile : ∀ name ∈ ["page.tsx"], Path.IsStep name ∧ Path.isPlain name := by decide
  rw [modulePlace, (route?_eq_some hroute).1, List.forall_mem_append, List.forall_mem_append]
  exact ⟨hfront, plain_of_pathProblem? hproblem, hfile⟩

theorem isWritable_of_route? : route.IsWritable (namesOf page.pagePath) := by
  obtain ⟨hsegments, last, hmem, hlast, hclass⟩ := route?_eq_some hroute
  have hplain := plain_of_route? hproblem hroute
  have hpath := modulePath_eq_ofComponents hroute
  refine ⟨by rw [← hsegments, modulePath], ?_, ?_, fun hdetail ↦ ?_⟩
  · rw [hpath]
    exact Path.normalize_ofComponents hplain (by simp) false
  · rw [hpath]
    exact Path.leadsInward_ofComponents hplain
  · have hparam := (segmentProblem?_eq_none_iff.1
      (segmentProblem?_of_pathProblem? hproblem last hmem)).2
    unfold classify at hclass
    split_ifs at hclass with hdynamic
    · obtain ⟨param, hparse⟩ := Option.isSome_iff_exists.1 (hparam hdynamic)
      refine ⟨_, param, hlast, ?_, ?_⟩
      · rwa [String.toList_ofList]
      · rw [← (Prod.mk.inj hclass).2, hparse, Option.getD_some]
    · rw [← (Prod.mk.inj hclass).1] at hdetail
      cases hdetail

/-- Pages have one file just if their paths have the same names. -/
theorem modulePath_eq_iff {other : PageDescriptor} {route' : Route}
    (hproblem' : pathProblem? other.pagePath = none) (hroute' : other.route? = some route') :
    route.modulePath = route'.modulePath ↔ namesOf page.pagePath = namesOf other.pagePath := by
  have hsteps (h : route.modulePath = route'.modulePath) :
      ["src", "app"] ++ route.modulePlace = ["src", "app"] ++ route'.modulePlace := by
    have hsame := congrArg (Path.steps ∘ Path.mk) h
    simpa only [Function.comp_apply, modulePath_eq_ofComponents hroute,
      modulePath_eq_ofComponents hroute',
      (Path.areComponents_of_isPlain (plain_of_route? hproblem hroute) false).steps,
      (Path.areComponents_of_isPlain (plain_of_route? hproblem' hroute') false).steps] using hsame
  rw [← (route?_eq_some hroute).1, ← (route?_eq_some hroute').1]
  constructor
  · intro h
    simpa [modulePlace] using hsteps h
  · intro h
    rw [modulePath, modulePath, h]

end

end Route

/-! ## Errors of file operations -/

namespace Disk

variable {disk : Disk} {path : Path} {here names : List String} {name : String}

theorem lookIn_ne_outside : disk.lookIn here name ≠ .error .outside := by
  unfold lookIn
  split
  · split_ifs <;> simp
  · simp
  · simp

theorem step_ne_outside : disk.step here name ≠ .error .outside := by
  have hlook : disk.lookIn here name ≠ .error .outside := lookIn_ne_outside
  unfold step
  split
  · next reason hreason =>
    rw [hreason] at hlook
    simpa using hlook
  · split_ifs <;> simp

theorem walk_ne_outside : disk.walk here names ≠ .error .outside := by
  induction names generalizing here with
  | nil => simp [walk, pure, Except.pure]
  | cons name names ih =>
    rw [walk, List.foldlM_cons]
    exact bind_ne_error step_ne_outside fun _ ↦ ih

theorem checkPath_ne_outside : checkPath path ≠ .error .outside := by
  unfold checkPath
  split_ifs <;> simp

theorem newEntry_ne_outside {special : FileError} (hspecial : special ≠ .outside) :
    disk.newEntry path special ≠ .error .outside := by
  have hthrow {α : Type} : (throw special : Except FileError α) ≠ .error .outside := by
    simpa [throw, throwThe, MonadExceptOf.throw] using hspecial
  unfold newEntry
  split
  · exact hthrow
  · refine bind_ne_error walk_ne_outside fun _ ↦ ?_
    refine bind_ne_error lookIn_ne_outside fun _ ↦ ?_
    split_ifs
    · simp [pure, Except.pure]
    · exact hthrow

theorem makeDirectory_ne_outside : disk.makeDirectory path ≠ .error .outside := by
  refine guard_ne_error (by decide) (bind_ne_error checkPath_ne_outside fun _ ↦ ?_)
  refine bind_ne_error (newEntry_ne_outside (by decide)) fun _ ↦ guard_ne_error (by decide) ?_
  simp [pure, Except.pure]

theorem replaceFile_ne_outside {bytes : List UInt8} :
    disk.replaceFile path bytes ≠ .error .outside := by
  refine guard_ne_error (by decide) (bind_ne_error checkPath_ne_outside fun _ ↦ ?_)
  refine bind_ne_error (newEntry_ne_outside (by decide)) fun _ ↦ guard_ne_error (by decide) ?_
  refine guard_ne_error (by decide) ?_
  simp [pure, Except.pure]

theorem moveFile_ne_outside {place : List String} : disk.moveFile place path ≠ .error .outside := by
  unfold moveFile
  split
  · exact replaceFile_ne_outside
  · simp
  · simp

theorem freePlace_ne_outside {nameBeside : List String → String} :
    disk.freePlace path nameBeside ≠ .error .outside := by
  refine bind_ne_error walk_ne_outside fun _ ↦ ?_
  split
  · refine guard_ne_error (by decide) (guard_ne_error (by decide) ?_)
    simp [pure, Except.pure]
  · simp [throw, throwThe, MonadExceptOf.throw]
  · simp [throw, throwThe, MonadExceptOf.throw]

end Disk

/-- The system itself never fails because a path leads outside. -/
structure Staging.StaysInside (staging : Staging) : Prop where
  parentsError : staging.parentsError.map (·.2) ≠ some .outside
  openError : staging.openError ≠ some .outside
  fillError : staging.fillError.map (·.2) ≠ some .outside
  moveError : staging.moveError ≠ some .outside

theorem Staging.staysInside_usual : Staging.usual.StaysInside := by
  constructor <;> simp [usual]

namespace FileAction

open DiskAction

variable {α β : Type} {x : FileAction α} {path : Path} {staging : Staging}

/-- An operation never fails because a path leads outside. -/
def StaysInside (x : FileAction α) : Prop :=
  ∀ disk, (x.outcome disk).1 ≠ .error .outside

theorem staysInside_pure (a : α) : (pure a : FileAction α).StaysInside :=
  fun _ ↦ by simp

theorem StaysInside.bind {f : α → FileAction β} (hx : x.StaysInside)
    (hf : ∀ a, (f a).StaysInside) : (x >>= f).StaysInside := by
  intro disk
  have hfirst := hx disk
  rcases hrun : x.outcome disk with ⟨reason | a, mid⟩ <;> rw [hrun] at hfirst
  · rw [outcome_bind_of_error hrun]
    simpa using hfirst
  · rw [outcome_bind_of_ok hrun]
    exact hf a mid

theorem staysInside_change {operation : Disk → Except FileError Disk}
    (h : ∀ disk, operation disk ≠ .error .outside) : (change operation).StaysInside := by
  intro disk herror
  exact h disk (outcome_change_eq_error_iff.1 (Prod.ext herror rfl)).1

theorem StaysInside.orRemove {place : List String} {x : FileAction Unit} (hx : x.StaysInside) :
    (orRemove place x).StaysInside := by
  intro disk herror
  obtain ⟨mid, hrun, -⟩ := outcome_orRemove_eq_error_iff.1 (Prod.ext herror rfl)
  exact hx disk (congrArg Prod.fst hrun)

theorem staysInside_makeWith {makeParents : FileAction Unit} (hparents : makeParents.StaysInside) :
    (makeWith path makeParents).StaysInside := by
  -- the directory is made, or the reason that it could not be made is passed on
  have haccept {disk : Disk} {reason : FileError} (h : disk.makeDirectory path = .error reason) :
      ((if disk.isDirectory path then pure () else throw reason : FileAction Unit).outcome
        disk).1 ≠ .error .outside := by
    have hreason : reason ≠ .outside := by
      rintro rfl
      exact Disk.makeDirectory_ne_outside h
    split_ifs <;> simp [hreason]
  intro disk
  unfold makeWith
  rw [outcome_get_bind]
  split
  · simp
  · refine hparents.bind (fun _ mid ↦ ?_) disk
    rw [outcome_get_bind]
    split
    · simp
    · next reason hreason =>
      rw [outcome_get_bind]
      exact haccept hreason
  · next reason _ hreason =>
    rw [outcome_get_bind]
    exact haccept hreason

theorem staysInside_ensureComponents (absolute : Bool) (components : List String) :
    (ensureComponents absolute components).StaysInside := by
  induction components with
  | nil => exact staysInside_pure ()
  | cons name above ih => exact staysInside_makeWith ih

theorem staysInside_ensureDirectory (path : Path) : (ensureDirectory path).StaysInside := by
  unfold ensureDirectory
  split_ifs
  · exact staysInside_pure ()
  · exact staysInside_makeWith (staysInside_ensureComponents _ _)

theorem staysInside_throw {reason : FileError} (h : reason ≠ .outside) :
    (throw reason : FileAction α).StaysInside :=
  fun _ ↦ by simpa using h

theorem staysInside_check {error? : Option FileError} (h : error? ≠ some .outside) :
    (check error?).StaysInside := by
  cases error? with
  | none => exact staysInside_pure ()
  | some reason => exact staysInside_throw fun hreason ↦ h (congrArg some hreason)

theorem staysInside_ensureSome {reason : FileError} (h : reason ≠ .outside) (absolute : Bool)
    (components : List String) (count : Nat) :
    (ensureSome absolute components count reason).StaysInside :=
  (staysInside_ensureDirectory _).bind fun _ ↦ staysInside_throw h

theorem staysInside_makeParents (hstaging : staging.StaysInside) (path : Path) :
    (makeParents staging path).StaysInside := by
  have hparents := hstaging.parentsError
  unfold makeParents
  split
  · next count reason herror =>
    rw [herror] at hparents
    exact staysInside_ensureSome (fun hreason ↦ hparents (congrArg some hreason)) _ _ _
  · exact staysInside_ensureDirectory _

theorem staysInside_openTemporary (hstaging : staging.StaysInside) (directory : Path) :
    (openTemporary staging directory).StaysInside := by
  refine (staysInside_check hstaging.openError).bind fun _ disk ↦ ?_
  rw [outcome_get_bind]
  split
  · rw [outcome_bind_of_ok (outcome_modify _)]
    simp
  · next reason hreason =>
    rintro herror
    obtain rfl : reason = .outside := Except.error.inj herror
    exact Disk.freePlace_ne_outside hreason

theorem staysInside_writeStaged (hstaging : staging.StaysInside) (path : Path)
    (bytes : List UInt8) : (writeStaged staging path bytes).StaysInside := by
  refine (staysInside_makeParents hstaging path).bind fun _ ↦ ?_
  refine (staysInside_openTemporary hstaging _).bind fun place ↦ ?_
  apply StaysInside.orRemove
  have hfill : (fill staging place bytes).StaysInside := fun disk ↦ by
    rw [fill, outcome_bind_of_ok (outcome_modify _)]
    exact staysInside_check hstaging.fillError _
  refine hfill.bind fun _ ↦ (staysInside_check hstaging.moveError).bind fun _ ↦ ?_
  exact staysInside_change fun _ ↦ Disk.moveFile_ne_outside

end FileAction

namespace Scaffold

variable {spec : AppSpec} {plan : ProjectPlan} {destination : Path} {disk : Disk}
variable {conditions : Conditions}

/-- The system itself never fails because a path leads outside. -/
structure Conditions.StaysInside (conditions : Conditions) : Prop where
  destinationError : conditions.destinationError.map (·.2) ≠ some .outside
  staging (place : Nat) : (conditions.staging place).StaysInside

theorem Conditions.staysInside_usual : Conditions.usual.StaysInside :=
  ⟨by simp [usual], fun _ ↦ Staging.staysInside_usual⟩

theorem staysInside_makeDestination (h : conditions.StaysInside) (destination : Path) :
    (makeDestination conditions destination).StaysInside := by
  have hdestination := h.destinationError
  unfold makeDestination
  split
  · next count reason herror =>
    rw [herror] at hdestination
    exact FileAction.staysInside_ensureSome (fun hreason ↦ hdestination (congrArg some hreason)) _
      _ _
  · exact FileAction.staysInside_ensureDirectory _

/-- Only a path that does not lead inward is refused for it. -/
theorem ne_outside_of_leadsInward
    (hpaths : ∀ path ∈ writtenPaths spec plan, Path.leadsInward ⟨path⟩)
    (hconditions : conditions.StaysInside) (path : Path) :
    ((scaffold spec plan destination conditions).outcome disk).value.1 ≠
      .error (.write path .outside) := by
  obtain ⟨heffect, hwanted, -⟩ := effect_scaffold spec plan destination conditions disk
  intro herror
  rw [herror] at heffect
  cases heffect with
  | noDestination hweb hcause hfiles =>
    exact staysInside_makeDestination hconditions destination disk (congrArg Prod.fst hcause)
  | stopped hweb hsplit hmid hrefused hfiles =>
    rename_i refused content rest mid
    cases hrefused with
    | outside bytes hpath =>
      have hmem : refused ∈ writtenPaths spec plan := by
        rw [← hwanted, hsplit]
        simp
      rw [hpaths refused hmem] at hpath
      cases hpath
    | failed hpath hcause =>
      exact FileAction.staysInside_writeStaged (hconditions.staging _) _ _ _
        (congrArg Prod.fst hcause)

theorem leadsInward_of_mem_generatedPaths (spec : AppSpec) (plan : ProjectPlan) :
    ∀ path ∈ generatedPaths spec plan, Path.leadsInward ⟨path⟩ := by
  have hhosting : Path.leadsInward ⟨(Artifact.hostingFile plan.target).1⟩ := by
    cases plan.target <;> decide +kernel
  have hfixed : Path.leadsInward ⟨"prisma/schema.prisma"⟩ ∧
      Path.leadsInward ⟨"src/lib/fixtures.json"⟩ ∧ Path.leadsInward ⟨".env.example"⟩ ∧
      Path.leadsInward ⟨Artifact.signInPath⟩ ∧ Path.leadsInward ⟨"package.json"⟩ := by
    decide +kernel
  simp only [generatedPaths, List.forall_mem_append, AppSpec.forall_mem_ite_iff,
    List.forall_mem_cons, List.not_mem_nil, false_implies, implies_true, and_true, hhosting, hfixed]

end Scaffold

namespace AppSpec

open Route

variable {spec : AppSpec} {plan : ProjectPlan}

/-- The paths of a project lead inward. -/
theorem leadsInward_of_mem_writtenPaths (hrules : spec.checkRules = .ok ())
    (hplan : plan.files ⊆ spec.plan.files) :
    ∀ path ∈ Scaffold.writtenPaths spec plan, Path.leadsInward ⟨path⟩ := by
  have hproject : ∀ path ∈ Plan.projectFiles.map (·.1), Path.leadsInward ⟨path⟩ := by
    decide +kernel
  refine List.forall_mem_append.2 ⟨?_, Scaffold.leadsInward_of_mem_generatedPaths spec plan⟩
  rw [List.forall_mem_map]
  intro file hfile
  rcases mem_plan_files_iff.1 (hplan hfile) with ⟨path, id, hmem, rfl⟩ | ⟨route, hroute, rfl⟩
  · exact hproject path (List.mem_map_of_mem hmem)
  · obtain ⟨page, hpage, hroute⟩ := List.mem_filterMap.1 hroute
    exact (isWritable_of_route? (pathProblem?_eq_none hrules hpage) hroute).leadsInward

/-- A page whose path the rules accept has a file unless the path has no names. The file stands at
the names below the app directory, so two pages have one file just if their paths have the same
names. No file of a specification that keeps the rules is refused because its path leads outside,
whatever else fails. -/
theorem routes_writable :
    (∀ page : PageDescriptor, pathProblem? page.pagePath = none →
      (page.route? = none ↔ namesOf page.pagePath = []) ∧
      ∀ route, page.route? = some route → route.IsWritable (namesOf page.pagePath)) ∧
    (∀ page other : PageDescriptor, pathProblem? page.pagePath = none →
      pathProblem? other.pagePath = none → ∀ route route', page.route? = some route →
        other.route? = some route' →
        (route.modulePath = route'.modulePath ↔ namesOf page.pagePath = namesOf other.pagePath)) ∧
    ∀ spec : AppSpec, spec.checkRules = .ok () → ∀ plan : ProjectPlan,
      plan.files ⊆ spec.plan.files → ∀ conditions : Scaffold.Conditions,
      conditions.StaysInside → ∀ destination disk path,
        ((scaffold spec plan destination conditions).outcome disk).value.1 ≠
          .error (.write path .outside) := by
  refine ⟨fun page hproblem ↦ ⟨route?_eq_none_iff, fun route ↦ isWritable_of_route? hproblem⟩,
    fun page other hproblem hproblem' route route' hroute ↦
      modulePath_eq_iff hproblem hroute hproblem', ?_⟩
  intro spec hrules plan hplan conditions hconditions destination disk path
  exact Scaffold.ne_outside_of_leadsInward (leadsInward_of_mem_writtenPaths hrules hplan)
    hconditions path

/-- Slashes may be doubled, and names may have dots and brackets in them. -/
theorem cookbook_routes_writable :
    let page : PageDescriptor := .path "/cakes//v1..0/x[y]/[...id]"
    let spec := cookbook [.path "/", page]
    (∃ route, page.route? = some route ∧
      route.modulePath = "src/app/cakes/v1..0/x[y]/[...id]/page.tsx" ∧
      route.param = some ⟨"id", true⟩) ∧
    ∀ disk path, ((scaffold spec spec.plan ⟨"out"⟩).outcome disk).value.1 ≠
      .error (.write path .outside) := by
  intro page spec
  have hproblem : pathProblem? page.pagePath = none := by decide +kernel
  have hrules : spec.checkRules = .ok () := by decide +kernel
  have hnames : namesOf page.pagePath = ["cakes", "v1..0", "x[y]", "[...id]"] := by
    decide +kernel
  have hkind : page.route?.map Route.kind = some .detail := by decide +kernel
  obtain ⟨hpages, -, hspecs⟩ := routes_writable
  obtain ⟨-, hwritable⟩ := hpages page hproblem
  obtain ⟨route, hroute, hdetail⟩ := Option.map_eq_some_iff.1 hkind
  have hroute' := hwritable route hroute
  rw [hnames] at hroute'
  obtain ⟨last, param, hlast, hparse, hparam⟩ := hroute'.param hdetail
  obtain rfl : "[...id]" = last := Option.some.inj hlast
  obtain rfl : ⟨"id", true⟩ = param := Option.some.inj (by rw [← hparse]; decide +kernel)
  refine ⟨⟨route, hroute, ?_, hparam⟩, fun disk path ↦ ?_⟩
  · rw [hroute'.modulePath]
    decide +kernel
  · exact hspecs spec hrules spec.plan (List.Subset.refl _) .usual
      Scaffold.Conditions.staysInside_usual ⟨"out"⟩ disk path

end AppSpec

end WebScaffold

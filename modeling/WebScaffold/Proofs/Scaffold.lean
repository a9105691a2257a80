import WebScaffold.Proofs.Run
import WebScaffold.Proofs.Staging
import WebScaffold.Scaffold

/-!
# What scaffolding leaves on the disk

The files of a project are written one after the other, so a run that fails has written the files in
front of the one that it names, and no others. Directories may have been made in any case; the
regular files are those from before the run, overlaid by the written ones in their order.
-/

namespace WebScaffold.Scaffold

open DiskAction

variable {spec : AppSpec} {plan : ProjectPlan} {destination : Path} {disk mid last : Disk}
variable {path : String} {content : Except ScaffoldError (List UInt8)}
variable {conditions : Conditions} {staging : Staging}

/-! ## The files of a project -/

/-- The files of a project in the order of writing, each with its content, or with the reason why it
has none. -/
def wanted (spec : AppSpec) (plan : ProjectPlan) :
    List (String × Except ScaffoldError (List UInt8)) :=
  plan.files.map (fun file ↦ (file.path, plannedContent plan file)) ++
    (generatedFiles spec plan).value.map fun (path, text) ↦ (path, .ok (textBytes text))

/-- The paths of the files that are generated from the whole specification. -/
def generatedPaths (spec : AppSpec) (plan : ProjectPlan) : List String :=
  (if plan.needsDatabase then ["prisma/schema.prisma"] else []) ++
    (if plan.needsSamples then ["src/lib/fixtures.json"] else []) ++
    [".env.example", (Artifact.hostingFile plan.target).1] ++
    (if plan.rendersOnServer ∧ spec.features.auth ≠ .none then [Artifact.signInPath] else []) ++
    ["package.json"]

/-- The paths of the files of a project in the order of writing. -/
def writtenPaths (spec : AppSpec) (plan : ProjectPlan) : List String :=
  plan.files.map (·.path) ++ generatedPaths spec plan

theorem signInRoute?_isSome_iff {auth : AuthMode} {onServer : Bool} :
    (Artifact.signInRoute? auth onServer).isSome ↔ onServer ∧ auth ≠ .none := by
  cases auth <;> cases onServer <;> simp [Artifact.signInRoute?]

theorem value_generatedFiles (spec : AppSpec) (plan : ProjectPlan) :
    (generatedFiles spec plan).value =
      (if plan.needsDatabase then
        [("prisma/schema.prisma", (Artifact.databaseSchema spec.app.entities).value)] else []) ++
      (if plan.needsSamples then
        [("src/lib/fixtures.json", Artifact.sampleFile spec.app.entities)] else []) ++
      [(".env.example", Artifact.environmentExample spec.features.auth plan),
        Artifact.hostingFile plan.target] ++
      (Artifact.signInRoute? spec.features.auth plan.rendersOnServer).toList.map
        (Artifact.signInPath, ·) ++
      [("package.json", Artifact.manifestFile spec.app.name plan)] := by
  unfold generatedFiles
  cases plan.needsDatabase <;>
    cases Artifact.signInRoute? spec.features.auth plan.rendersOnServer <;> rfl

theorem map_fst_generatedFiles (spec : AppSpec) (plan : ProjectPlan) :
    (generatedFiles spec plan).value.map (·.1) = generatedPaths spec plan := by
  have hroute : (Artifact.signInRoute? spec.features.auth plan.rendersOnServer).toList.map
      (fun _ ↦ Artifact.signInPath) =
        if plan.rendersOnServer ∧ spec.features.auth ≠ .none then [Artifact.signInPath] else [] := by
    simp only [← signInRoute?_isSome_iff]
    cases Artifact.signInRoute? spec.features.auth plan.rendersOnServer <;> rfl
  rw [value_generatedFiles, generatedPaths, ← hroute]
  cases plan.needsDatabase <;> cases plan.needsSamples <;> simp [Function.comp_def]

theorem map_fst_wanted (spec : AppSpec) (plan : ProjectPlan) :
    (wanted spec plan).map (·.1) = writtenPaths spec plan := by
  rw [writtenPaths, ← map_fst_generatedFiles, wanted, List.map_append, List.map_map, List.map_map]
  rfl

/-- What is to be in a planned file: the module of its page, its template with the tokens filled in,
or the bytes of its template as they are. -/
inductive Holds (plan : ProjectPlan) (file : PlannedFile) :
    Except ScaffoldError (List UInt8) → Prop where
  | page {route : Route} (hsource : file.source = .page route) :
    Holds plan file (.ok (textBytes
      (Artifact.pageModule route file.tokens plan.rendersOnServer plan.needsSamples)))
  | text {id text : String} (hsource : file.source = .template id)
    (htemplate : Template.find? id = some (.text text)) :
    Holds plan file (.ok (textBytes (Template.render file.tokens text)))
  | binary {id : String} {bytes : List UInt8} (hsource : file.source = .template id)
    (htemplate : Template.find? id = some (.binary bytes)) : Holds plan file (.ok bytes)
  | missing {id : String} (hsource : file.source = .template id)
    (htemplate : Template.find? id = none) : Holds plan file (.error (.missingTemplate id))

/-- The text at a path that is made from the whole specification. -/
inductive Generated (spec : AppSpec) (plan : ProjectPlan) : String → String → Prop where
  | schema (hdatabase : plan.needsDatabase) :
    Generated spec plan "prisma/schema.prisma" (Artifact.databaseSchema spec.app.entities).value
  | fixtures (hsamples : plan.needsSamples) :
    Generated spec plan "src/lib/fixtures.json" (Artifact.sampleFile spec.app.entities)
  | environment :
    Generated spec plan ".env.example" (Artifact.environmentExample spec.features.auth plan)
  | hosting : Generated spec plan (Artifact.hostingFile plan.target).1
    (Artifact.hostingFile plan.target).2
  | signIn {text : String}
    (hroute : Artifact.signInRoute? spec.features.auth plan.rendersOnServer = some text) :
    Generated spec plan Artifact.signInPath text
  | manifest : Generated spec plan "package.json" (Artifact.manifestFile spec.app.name plan)

theorem holds_plannedContent (plan : ProjectPlan) (file : PlannedFile) :
    Holds plan file (plannedContent plan file) := by
  unfold plannedContent
  cases hsource : file.source with
  | page route => exact .page hsource
  | template id =>
    dsimp only
    cases htemplate : Template.find? id with
    | none => exact .missing hsource htemplate
    | some template =>
      cases template with
      | text text => exact .text hsource htemplate
      | binary bytes => exact .binary hsource htemplate

theorem generated_of_mem (spec : AppSpec) (plan : ProjectPlan) :
    ∀ file ∈ (generatedFiles spec plan).value, Generated spec plan file.1 file.2 := by
  intro file hfile
  rw [value_generatedFiles] at hfile
  simp only [List.mem_append, List.mem_cons, List.not_mem_nil, or_false, List.mem_map,
    Option.mem_toList, List.mem_ite_nil_right] at hfile
  rcases hfile with (((⟨hdatabase, rfl⟩ | ⟨hsamples, rfl⟩) | rfl | rfl) | ⟨text, hroute, rfl⟩) | rfl
  · exact .schema hdatabase
  · exact .fixtures hsamples
  · exact .environment
  · exact .hosting
  · exact .signIn hroute
  · exact .manifest

/-- The files that are wanted, with what is to be in them. -/
theorem exists_wanted_eq_zip (spec : AppSpec) (plan : ProjectPlan) :
    ∃ contents texts, List.Forall₂ (Holds plan) plan.files contents ∧
      List.Forall₂ (Generated spec plan) (generatedPaths spec plan) texts ∧
      wanted spec plan = (writtenPaths spec plan).zip
        (contents ++ texts.map fun text ↦ .ok (textBytes text)) := by
  refine ⟨plan.files.map (plannedContent plan), (generatedFiles spec plan).value.map (·.2), ?_, ?_,
    ?_⟩
  · rw [List.forall₂_map_right_iff, List.forall₂_same]
    exact fun file _ ↦ holds_plannedContent plan file
  · rw [← map_fst_generatedFiles, List.forall₂_map_left_iff, List.forall₂_map_right_iff,
      List.forall₂_same]
    exact generated_of_mem spec plan
  · rw [writtenPaths, ← map_fst_generatedFiles, List.zip_append (by simp), List.map_map,
      List.zip_map', List.zip_map', wanted]
    rfl

/-- A content is missing for want of its template at most. -/
def OnlyMissesTemplate (content : Except ScaffoldError (List UInt8)) : Prop :=
  ∀ error, content = .error error → ∃ id, Template.find? id = none ∧ error = .missingTemplate id

theorem plannedContent_of_page {file : PlannedFile} {route : Route} (plan : ProjectPlan)
    (hpage : file.source = .page route) :
    plannedContent plan file = .ok (textBytes
      (Artifact.pageModule route file.tokens plan.rendersOnServer plan.needsSamples)) := by
  rw [plannedContent, hpage]

theorem Holds.onlyMissesTemplate {file : PlannedFile} (h : Holds plan file content) :
    OnlyMissesTemplate content := by
  rintro error rfl
  cases h with
  | missing hsource htemplate => exact ⟨_, htemplate, rfl⟩

theorem onlyMissesTemplate_wanted (spec : AppSpec) (plan : ProjectPlan) :
    ∀ file ∈ wanted spec plan, OnlyMissesTemplate file.2 := by
  intro file h
  rcases List.mem_append.1 h with h | h
  · obtain ⟨planned, -, rfl⟩ := List.mem_map.1 h
    exact (holds_plannedContent plan planned).onlyMissesTemplate
  · obtain ⟨generated, -, rfl⟩ := List.mem_map.1 h
    intro error herror
    cases herror

/-- The file that was asked for, once its content is known. -/
def asWanted (entry : String × List UInt8) : String × Except ScaffoldError (List UInt8) :=
  (entry.1, .ok entry.2)

/-- Regular files with one more under a destination. -/
def lay (disk : Disk) (destination : Path) (files : List String → Option (List UInt8))
    (entry : String × List UInt8) : List String → Option (List UInt8) :=
  Function.update files (disk.resolve (destination.join entry.1)) (some entry.2)

/-- The regular files of a disk, overlaid by files under a destination. -/
def overlay (disk : Disk) (destination : Path) (written : List (String × List UInt8)) :
    List String → Option (List UInt8) :=
  written.foldl (lay disk destination) disk.files

theorem lay_congr (h : mid.workingDirectory = disk.workingDirectory) (destination : Path) :
    lay mid destination = lay disk destination := by
  funext files entry
  rw [lay, lay, Disk.resolve_congr h]

theorem overlay_congr (hworking : mid.workingDirectory = disk.workingDirectory)
    (hfiles : mid.files = disk.files) (written : List (String × List UInt8)) :
    overlay mid destination written = overlay disk destination written := by
  rw [overlay, overlay, hfiles, lay_congr hworking]

theorem overlay_cons {bytes : List UInt8} (hworking : mid.workingDirectory = disk.workingDirectory)
    (hfiles : mid.files =
      Function.update disk.files (disk.resolve (destination.join path)) (some bytes))
    (written : List (String × List UInt8)) :
    overlay disk destination ((path, bytes) :: written) = overlay mid destination written := by
  rw [overlay, overlay, List.foldl_cons, hfiles, lay_congr hworking, lay]

/-! ## One file -/

/-- Writes a file that is wanted at a place in the order of writing. -/
def writeWanted (conditions : Conditions) (destination : Path)
    (entry : (String × Except ScaffoldError (List UInt8)) × Nat) :
    DiskAction ScaffoldError Unit := do
  let bytes ← DiskAction.ofExcept entry.1.2
  write (conditions.staging entry.2) destination entry.1.1 bytes

/-- Why a wanted file is not written. -/
inductive Refused (staging : Staging) (destination : Path) (disk : Disk) (path : String) :
    Except ScaffoldError (List UInt8) → ScaffoldError → Disk → Prop where
  | missing {id : String} (hid : Template.find? id = none) :
    Refused staging destination disk path (.error (.missingTemplate id)) (.missingTemplate id) disk
  | outside (bytes : List UInt8) (hpath : Path.leadsInward ⟨path⟩ = false) :
    Refused staging destination disk path (.ok bytes) (.write (destination.join path) .outside) disk
  | failed {bytes : List UInt8} {cause : FileError} {last : Disk}
    (hpath : Path.leadsInward ⟨path⟩ = true)
    (hcause : (FileAction.writeStaged staging (destination.join path) bytes).outcome disk =
      (.error cause, last)) :
    Refused staging destination disk path (.ok bytes) (.write (destination.join path) cause) last

theorem Refused.files_eq {error : ScaffoldError}
    (h : Refused staging destination disk path content error last) : last.files = disk.files := by
  cases h with
  | missing => rfl
  | outside => rfl
  | failed hpath hcause => exact (FileAction.gains_of_writeStaged_eq_error hcause).files_eq

/-- A file is written with its content, or it is refused. -/
theorem writeWanted_effect (hcontent : OnlyMissesTemplate content) (conditions : Conditions)
    (destination : Path) (path : String) (place : Nat) (disk : Disk) :
    match (writeWanted conditions destination ((path, content), place)).outcome disk with
    | (.ok _, last) =>
      last.workingDirectory = disk.workingDirectory ∧
        ∃ bytes, content = .ok bytes ∧ last.files =
          Function.update disk.files (disk.resolve (destination.join path)) (some bytes)
    | (.error error, last) =>
      Refused (conditions.staging place) destination disk path content error last := by
  cases content with
  | error error =>
    obtain ⟨id, hid, rfl⟩ := hcontent error rfl
    exact .missing hid
  | ok bytes =>
    have hwrite : (writeWanted conditions destination ((path, .ok bytes), place)).outcome disk =
        (write (conditions.staging place) destination path bytes).outcome disk := rfl
    rw [hwrite, write]
    cases hpath : Path.leadsInward ⟨path⟩ with
    | false => exact .outside bytes hpath
    | true =>
      rw [if_pos rfl, outcome_mapError]
      rcases hrun : (FileAction.writeStaged (conditions.staging place) (destination.join path)
        bytes).outcome disk with ⟨cause | _, last⟩
      · exact .failed hpath hrun
      · obtain ⟨hworking, hfiles⟩ := FileAction.writeStaged_files hrun
        exact ⟨hworking, bytes, rfl, hfiles⟩

/-! ## One file after the other -/

/-- Either all of the wanted files are written, or those in front of one that is refused. -/
theorem forM_writeWanted_effect {files : List (String × Except ScaffoldError (List UInt8))}
    (hcontents : ∀ file ∈ files, OnlyMissesTemplate file.2) (conditions : Conditions)
    (destination : Path) (place : Nat) (disk : Disk) :
    match (forM (files.zipIdx place) (writeWanted conditions destination)).outcome disk with
    | (.ok _, last) =>
      ∃ written, files = written.map asWanted ∧ last.files = overlay disk destination written
    | (.error error, last) =>
      ∃ written path content rest mid, files = written.map asWanted ++ (path, content) :: rest ∧
        mid.files = overlay disk destination written ∧
        Refused (conditions.staging (place + written.length)) destination mid path content error
          last := by
  -- on the files, from any disk: each file that is written is laid over those before it
  induction files generalizing disk place with
  | nil => exact ⟨[], rfl, rfl⟩
  | cons file files ih =>
    obtain ⟨path, content⟩ := file
    have hfirst := writeWanted_effect (hcontents _ List.mem_cons_self) conditions destination path
      place disk
    rw [List.zipIdx_cons, List.forM_cons]
    rcases hrun : (writeWanted conditions destination ((path, content), place)).outcome disk with
      ⟨error | _, mid⟩ <;> rw [hrun] at hfirst
    · rw [outcome_bind_of_error hrun]
      exact ⟨[], path, content, files, disk, rfl, rfl, hfirst⟩
    · rw [outcome_bind_of_ok hrun]
      obtain ⟨hworking, bytes, rfl, hfiles⟩ := hfirst
      have hrest := ih (fun file hfile ↦ hcontents file (List.mem_cons_of_mem _ hfile)) (place + 1)
        mid
      rcases hlast : (forM (files.zipIdx (place + 1)) (writeWanted conditions destination)).outcome
        mid with ⟨error | _, last⟩ <;> rw [hlast] at hrest <;> dsimp only at hrest ⊢
      · obtain ⟨written, path', content', rest, mid', hsplit, hmid', hrefused⟩ := hrest
        refine ⟨(path, bytes) :: written, path', content', rest, mid', ?_, ?_, ?_⟩
        · rw [hsplit]
          rfl
        · rw [hmid', overlay_cons hworking hfiles]
        · rwa [List.length_cons, Nat.add_comm written.length, ← Nat.add_assoc]
      · obtain ⟨written, hall, hfiles'⟩ := hrest
        refine ⟨(path, bytes) :: written, ?_, ?_⟩
        · rw [hall]
          rfl
        · rw [hfiles', overlay_cons hworking hfiles]

/-! ## A whole run -/

/-- All that a run of scaffolding does to the disk. -/
def writeAll (conditions : Conditions) (spec : AppSpec) (plan : ProjectPlan)
    (destination : Path) : DiskAction ScaffoldError Unit := do
  writeFirst conditions spec plan destination plan.files
  writeGenerated conditions destination plan.files.length (generatedFiles spec plan).value

/-- A run of scaffolding comes to what it does to the disk, and reports all of its files if that
succeeds. -/
theorem outcome_scaffold (conditions : Conditions) (spec : AppSpec) (plan : ProjectPlan)
    (destination : Path) (disk : Disk) :
    ((scaffold spec plan destination conditions).outcome disk).value =
      (((writeAll conditions spec plan destination).outcome disk).1.map
          fun _ ↦ ⟨destination, writtenPaths spec plan⟩,
        ((writeAll conditions spec plan destination).outcome disk).2) := by
  rw [writeAll, scaffold]
  rcases hfirst : (writeFirst conditions spec plan destination plan.files).outcome disk with
    ⟨error | _, mid⟩
  · rw [outcome_bind_of_error hfirst, Run.outcome_bind_of_error (Run.outcome_ofDisk_value _ ▸ hfirst)]
    rfl
  · rw [outcome_bind_of_ok hfirst, Run.outcome_bind_of_ok (Run.outcome_ofDisk_value _ ▸ hfirst),
      Run.outcome_bind_of_ok (Run.outcome_noting_value (generatedFiles spec plan)),
      map_fst_generatedFiles]
    rcases hlast : (writeGenerated conditions destination plan.files.length
      (generatedFiles spec plan).value).outcome mid with ⟨error | _, last⟩
    · rw [Run.outcome_bind_of_error (Run.outcome_ofDisk_value _ ▸ hlast)]
      rfl
    · rw [Run.outcome_bind_of_ok (Run.outcome_ofDisk_value _ ▸ hlast)]
      rfl

/-- Planned and generated files are written by one loop. -/
theorem writeAll_eq (conditions : Conditions) (spec : AppSpec) (plan : ProjectPlan)
    (destination : Path) :
    writeAll conditions spec plan destination = (do
      DiskAction.ofExcept (checkBlueprint spec.blueprint)
      (makeDestination conditions destination).mapError (.write destination)
      forM (wanted spec plan).zipIdx (writeWanted conditions destination)) := by
  have hplanned : writePlannedFiles conditions plan destination 0 plan.files =
      forM (plan.files.map fun file ↦ (file.path, plannedContent plan file)).zipIdx
        (writeWanted conditions destination) := by
    rw [writePlannedFiles, List.zipIdx_map, List.forM_map]
    rfl
  have hgenerated (files : List (String × String)) (place : Nat) :
      writeGenerated conditions destination place files =
        forM ((files.map fun (path, text) ↦ (path, .ok (textBytes text))).zipIdx place)
          (writeWanted conditions destination) := by
    rw [List.zipIdx_map, List.forM_map]
    rfl
  rw [writeAll, writeFirst, hplanned, hgenerated, wanted, List.zipIdx_append, List.forM_append,
    List.length_map]
  simp only [bind_assoc, Nat.zero_add]

theorem gains_makeDestination (conditions : Conditions) (destination : Path) :
    (makeDestination conditions destination).Respects Disk.GainsDirectories := by
  unfold makeDestination
  split
  · exact FileAction.gains_ensureSome _ _ _ _
  · exact FileAction.gains_ensureDirectory _

theorem passes_gains_makeDestination (conditions : Conditions) (destination : Path) :
    (makeDestination conditions destination).Passes Disk.GainsDirectories := by
  unfold makeDestination
  split
  · exact FileAction.passes_gains_ensureSome _ _ _ _
  · exact FileAction.passes_gains_ensureDirectory _

theorem checkBlueprint_eq_ok_iff {blueprint : Blueprint} :
    checkBlueprint blueprint = .ok () ↔ blueprint = .webApp := by
  unfold checkBlueprint
  split_ifs with hweb <;> simp [hweb]

/-- What a run of scaffolding comes to, and the disk that it leaves. -/
inductive Effect (conditions : Conditions) (spec : AppSpec) (plan : ProjectPlan)
    (destination : Path) (disk : Disk) : Except ScaffoldError WrittenProject → Disk → Prop where
  /-- All files are written, each over what was at its place. -/
  | done {written : List (String × List UInt8)} {last : Disk}
    (hweb : spec.blueprint = .webApp)
    (hall : wanted spec plan = written.map asWanted)
    (hfiles : last.files = overlay disk destination written) :
    Effect conditions spec plan destination disk (.ok ⟨destination, writtenPaths spec plan⟩) last
  | unsupported (hother : spec.blueprint ≠ .webApp) :
    Effect conditions spec plan destination disk (.error (.unsupportedBlueprint spec.blueprint)) disk
  | noDestination {cause : FileError} {last : Disk}
    (hweb : spec.blueprint = .webApp)
    (hcause : (makeDestination conditions destination).outcome disk = (.error cause, last))
    (hfiles : last.files = disk.files) :
    Effect conditions spec plan destination disk (.error (.write destination cause)) last
  /-- The files in front of one that is refused are written, and nothing else. -/
  | stopped {written : List (String × List UInt8)} {path : String}
    {content : Except ScaffoldError (List UInt8)}
    {rest : List (String × Except ScaffoldError (List UInt8))} {error : ScaffoldError}
    {mid last : Disk}
    (hweb : spec.blueprint = .webApp)
    (hsplit : wanted spec plan = written.map asWanted ++ (path, content) :: rest)
    (hmid : mid.files = overlay disk destination written)
    (hrefused : Refused (conditions.staging written.length) destination mid path content error last)
    (hfiles : last.files = overlay disk destination written) :
    Effect conditions spec plan destination disk (.error error) last

/-- A run succeeds exactly when all of its parts do, and then it reports all of its files. -/
theorem scaffold_eq_ok_iff {written : WrittenProject} :
    ((scaffold spec plan destination conditions).outcome disk).value = (.ok written, last) ↔
      spec.blueprint = .webApp ∧ written = ⟨destination, writtenPaths spec plan⟩ ∧
        ∃ mid, (makeDestination conditions destination).outcome disk = (.ok (), mid) ∧
          (forM (wanted spec plan).zipIdx (writeWanted conditions destination)).outcome mid =
            (.ok (), last) := by
  have hall : (writeAll conditions spec plan destination).outcome disk = (.ok (), last) ↔
      spec.blueprint = .webApp ∧
        ∃ mid, (makeDestination conditions destination).outcome disk = (.ok (), mid) ∧
          (forM (wanted spec plan).zipIdx (writeWanted conditions destination)).outcome mid =
            (.ok (), last) := by
    rw [writeAll_eq, outcome_bind_eq_ok_iff]
    constructor
    · rintro ⟨_, start, hcheck, hrest⟩
      obtain ⟨hweb, rfl⟩ : checkBlueprint spec.blueprint = .ok () ∧ disk = start := by
        simpa using hcheck
      obtain ⟨_, mid, hmake, hloop⟩ := outcome_bind_eq_ok_iff.1 hrest
      exact ⟨checkBlueprint_eq_ok_iff.1 hweb, mid, outcome_mapError_eq_ok_iff.1 hmake, hloop⟩
    · rintro ⟨hweb, mid, hmake, hloop⟩
      refine ⟨(), disk, congrArg (·, disk) (checkBlueprint_eq_ok_iff.2 hweb), ?_⟩
      exact outcome_bind_eq_ok_iff.2 ⟨(), mid, outcome_mapError_eq_ok_iff.2 hmake, hloop⟩
  rw [and_left_comm, ← hall, outcome_scaffold]
  rcases (writeAll conditions spec plan destination).outcome disk with ⟨error | _, end'⟩
  · simp [Except.map]
  · simp [Except.map, eq_comm]

/-- The report, the disk and the error stay in step, wherever a run ends and whatever makes it end,
for any plan and over anything that is at the destination already. What is written are the files of
the plan, each with the module of its page, its rendered text or the bytes of its template, and
behind them the files made from the whole specification, the manifest last. -/
theorem effect_scaffold (spec : AppSpec) (plan : ProjectPlan) (destination : Path)
    (conditions : Conditions) (disk : Disk) :
    let run := ((scaffold spec plan destination conditions).outcome disk).value
    Effect conditions spec plan destination disk run.1 run.2 ∧
      (wanted spec plan).map (·.1) = writtenPaths spec plan ∧
      ∃ contents texts, List.Forall₂ (Holds plan) plan.files contents ∧
        List.Forall₂ (Generated spec plan) (generatedPaths spec plan) texts ∧
        wanted spec plan = (writtenPaths spec plan).zip
          (contents ++ texts.map fun text ↦ .ok (textBytes text)) := by
  refine ⟨?_, map_fst_wanted spec plan, exists_wanted_eq_zip spec plan⟩
  rw [outcome_scaffold, writeAll_eq]
  by_cases hweb : spec.blueprint = .webApp
  · have hcheck : checkBlueprint spec.blueprint = .ok () := if_pos hweb
    rw [hcheck, outcome_bind_of_ok (outcome_ofExcept _)]
    have hgains := gains_makeDestination conditions destination disk
    rcases hmake : (makeDestination conditions destination).outcome disk with ⟨cause | _, mid⟩ <;>
      rw [hmake] at hgains
    · rw [outcome_bind_of_error (by rw [outcome_mapError, hmake]; rfl)]
      exact .noDestination hweb hmake hgains.files_eq
    · rw [outcome_bind_of_ok (by rw [outcome_mapError, hmake]; rfl)]
      have hloop := forM_writeWanted_effect (onlyMissesTemplate_wanted spec plan) conditions
        destination 0 mid
      rcases hforM : (forM (wanted spec plan).zipIdx (writeWanted conditions destination)).outcome
        mid with ⟨error | _, last⟩ <;> rw [hforM] at hloop
      · obtain ⟨written, path, content, rest, mid', hsplit, hmid', hrefused⟩ := hloop
        rw [overlay_congr hgains.workingDirectory hgains.files_eq] at hmid'
        rw [Nat.zero_add] at hrefused
        exact .stopped hweb hsplit hmid' hrefused (hrefused.files_eq.trans hmid')
      · obtain ⟨written, hall, hfiles⟩ := hloop
        rw [overlay_congr hgains.workingDirectory hgains.files_eq] at hfiles
        exact .done hweb hall hfiles
  · have hcheck : checkBlueprint spec.blueprint = .error (.unsupportedBlueprint spec.blueprint) :=
      if_neg hweb
    rw [hcheck, outcome_bind_of_error (outcome_ofExcept _)]
    exact .unsupported hweb

end WebScaffold.Scaffold

import WebScaffold.Proofs.Layout
import WebScaffold.Proofs.Scaffold

/-!
# Staying inside the destination

Files are only written under paths that lead inward, so a run of scaffolding leaves all regular files
outside its destination as they were, whatever the plan asks for and wherever the run ends. A planned
path that leads anywhere else is refused before anything is done about it. On the way a file is
staged beside its place, which is inside as well, but for the empty path: what is staged for that
one, before it is refused by the system, stands beside the destination.
-/

namespace WebScaffold.Scaffold

open DiskAction

variable {spec : AppSpec} {plan : ProjectPlan} {destination : Path} {disk mid last : Disk}
variable {path : String} {bytes : List UInt8} {conditions : Conditions} {beside : Prop}

/-! ## Places below a place -/

/-- A place is at least one proper name below another. -/
def Under (above place : List String) : Prop :=
  ∃ names, names ≠ [] ∧ (∀ name ∈ names, Path.IsStep name ∧ Path.isPlain name) ∧
    place = above ++ names

/-- Steps that do not go up lead to the names in them. -/
theorem foldl_follow_eq {names : List String} (h : Path.up ∉ names) (here : List String) :
    names.foldl Disk.follow here = here ++ names.filter (· ≠ Path.stay) := by
  induction names generalizing here with
  | nil => simp
  | cons name names ih =>
    have hrest : Path.up ∉ names := fun hmem ↦ h (List.mem_cons_of_mem _ hmem)
    have hup : name ≠ Path.up := fun heq ↦ h (heq ▸ List.mem_cons_self)
    rw [List.foldl_cons, ih hrest, Disk.follow]
    by_cases hstay : name = Path.stay
    · simp [hstay]
    · simp [hstay, hup]

theorem up_notMem_steps (h : Path.leadsInward ⟨path⟩) : Path.up ∉ Path.steps ⟨path⟩ := by
  intro hmem
  have hmem' : Path.up ∈ (Path.mk path).components := by
    rw [Path.components_of_leadsInward h]
    exact List.mem_filter.2 ⟨hmem, by decide⟩
  exact absurd ((Path.leadsInward_iff.1 h).2 _ hmem') (by decide)

/-- A path that leads inward stands for a place below the one it is joined to. -/
theorem resolve_join (h : Path.leadsInward ⟨path⟩) (disk : Disk) (destination : Path) :
    disk.resolve (destination.join path) =
      disk.resolve destination ++ (Path.mk path).components := by
  have habsolute := (Path.leadsInward_iff.1 h).1
  rw [Disk.resolve, Disk.start, Path.isAbsolute_join habsolute, Path.steps_join habsolute,
    List.foldl_append, foldl_follow_eq (up_notMem_steps h), ← Path.components_of_leadsInward h]
  rfl

/-- So does the directory that it is in, one name before its end. -/
theorem resolve_parent_join (h : Path.leadsInward ⟨path⟩) (hne : path ≠ "") (disk : Disk)
    (destination : Path) :
    disk.resolve ((destination.join path).parent?.getD ⟨Path.stay⟩) =
      disk.resolve destination ++ (Path.mk path).components.dropLast := by
  obtain ⟨habsolute, hplain⟩ := Path.leadsInward_iff.1 h
  have hcomponents : (Path.mk path).components ≠ [] := Path.components_ne_nil habsolute hne
  obtain ⟨front, hfront, heq⟩ := Path.exists_components_eq (destination.join path)
  rw [Path.steps_join habsolute, List.filter_append, ← Path.components_of_leadsInward h,
    ← List.append_assoc] at heq
  have hparent := (Path.areComponents_components (destination.join path)).of_front
    (List.dropLast_prefix _)
  have hstays (here : List String) : front.foldl Disk.follow here = here := by
    rw [← Disk.foldl_follow_filter, List.filter_eq_nil_iff.2 (by simpa using hfront),
      List.foldl_nil]
  have hinner (here : List String) : (Path.mk path).components.dropLast.foldl Disk.follow here =
      here ++ (Path.mk path).components.dropLast := by
    have hplain' : ∀ name ∈ (Path.mk path).components.dropLast, name ≠ Path.stay ∧ name ≠ Path.up :=
      fun name hname ↦ Path.isPlain_iff.1 (hplain name (List.dropLast_subset _ hname))
    rw [foldl_follow_eq fun hup ↦ (hplain' _ hup).2 rfl,
      List.filter_eq_self.2 fun name hname ↦ by simpa using (hplain' name hname).1]
  rw [Path.parent?_of_components_ne_nil (by simp [heq, hcomponents]), Option.getD_some,
    Disk.resolve, Disk.start, hparent.isAbsolute, hparent.steps, heq,
    List.dropLast_append_of_ne_nil hcomponents, Path.isAbsolute_join habsolute, List.foldl_append,
    List.foldl_append, hstays, Disk.foldl_follow_filter, hinner]
  rfl

/-! ## One file -/

/-- The place of a file that is staged for the destination itself. -/
def Beside (disk : Disk) (destination : Path) (place : List String) : Prop :=
  ∃ name, place = disk.resolve ((destination.join "").parent?.getD ⟨Path.stay⟩) ++ [name]

/-- All that is different about the regular files is below the destination or, where that is
possible, beside it. -/
structure Confined (beside : Prop) (destination : Path) (disk last : Disk) : Prop where
  workingDirectory : last.workingDirectory = disk.workingDirectory
  under (place : List String) (h : last.files place ≠ disk.files place) :
    Under (disk.resolve destination) place ∨ beside ∧ Beside disk destination place

instance (beside : Prop) (destination : Path) : IsPreorder Disk (Confined beside destination) where
  refl _ := ⟨rfl, fun _ h ↦ absurd rfl h⟩
  trans disk mid last hmid hlast := by
    constructor
    · exact hlast.workingDirectory.trans hmid.workingDirectory
    · intro place h
      by_cases hsame : last.files place = mid.files place
      · exact hmid.under place (hsame ▸ h)
      · have hplace := hlast.under place hsame
        rwa [Beside, Disk.resolve_congr hmid.workingDirectory,
          Disk.resolve_congr hmid.workingDirectory] at hplace

theorem Confined.mono {beside' : Prop} (h : Confined beside destination disk last)
    (himp : beside → beside') : Confined beside' destination disk last :=
  ⟨h.workingDirectory, fun place hplace ↦ (h.under place hplace).imp_right (And.imp_left himp)⟩

theorem confined_of_gains (h : Disk.GainsDirectories disk last) :
    Confined beside destination disk last := by
  constructor
  · exact h.workingDirectory
  · intro place hplace
    rw [h.files_eq] at hplace
    exact absurd rfl hplace

/-- No file can be written in the place of the destination itself. -/
theorem replaceFile_join_empty (disk : Disk) (destination : Path) (bytes : List UInt8) :
    disk.replaceFile (destination.join "") bytes ≠ .ok last := by
  intro h
  simp only [Disk.replaceFile, guard_eq_ok_iff, bind_eq_ok_iff] at h
  obtain ⟨-, _, hcheck, -, -, hslash, -⟩ := h
  rcases Path.join_empty destination with hempty | hends
  · rw [hempty] at hcheck
    cases hcheck
  · exact hslash hends

theorem under_of_replaceFile (h : Path.leadsInward ⟨path⟩)
    (hreplace : mid.replaceFile (destination.join path) bytes = .ok last) (disk : Disk) :
    Under (disk.resolve destination) (disk.resolve (destination.join path)) := by
  have hne : path ≠ "" := by
    rintro rfl
    exact replaceFile_join_empty mid destination bytes hreplace
  obtain ⟨habsolute, hplain⟩ := Path.leadsInward_iff.1 h
  refine ⟨(Path.mk path).components, Path.components_ne_nil habsolute hne, ?_, resolve_join h _ _⟩
  exact fun name hname ↦ ⟨Path.isStep_of_mem_components hname, hplain name hname⟩

theorem under_of_staged (h : Path.leadsInward ⟨path⟩) (hne : path ≠ "") {name : String}
    (hname : Path.isName name) (disk : Disk) :
    Under (disk.resolve destination)
      (disk.resolve ((destination.join path).parent?.getD ⟨Path.stay⟩) ++ [name]) := by
  obtain ⟨-, hplain⟩ := Path.leadsInward_iff.1 h
  refine ⟨(Path.mk path).components.dropLast ++ [name], by simp, ?_, ?_⟩
  · intro other hother
    rcases List.mem_append.1 hother with hother | hother
    · have hmem := List.dropLast_subset _ hother
      exact ⟨Path.isStep_of_mem_components hmem, hplain other hmem⟩
    · rw [List.mem_singleton.1 hother]
      exact Path.isName_iff.1 hname
  · rw [resolve_parent_join h hne, List.append_assoc]

theorem respects_confined_write (staging : Staging) (destination : Path) (path : String)
    (bytes : List UInt8) :
    (write staging destination path bytes).Respects (Confined beside destination) := by
  unfold write
  dsimp only
  split_ifs with hpath
  · intro disk
    rw [outcome_mapError]
    rcases hrun : (FileAction.writeStaged staging (destination.join path) bytes).outcome disk with
      ⟨reason | _, last⟩
    · exact confined_of_gains (FileAction.gains_of_writeStaged_eq_error hrun)
    · obtain ⟨hworking, hfiles⟩ := FileAction.writeStaged_files hrun
      obtain ⟨_, clear, -, -, hreplace⟩ := FileAction.writeStaged_eq_ok hrun
      refine ⟨hworking, fun place hplace ↦ .inl ?_⟩
      rw [hfiles] at hplace
      rw [Disk.eq_of_update_ne hplace]
      exact under_of_replaceFile hpath hreplace disk
  · exact respects_throw _

/-- What is staged for a file is below the destination, but for the file at the empty path. -/
theorem passes_confined_write (staging : Staging) (destination : Path) (path : String)
    (bytes : List UInt8) :
    (write staging destination path bytes).Passes (Confined (path = "") destination) := by
  unfold write
  dsimp only
  split_ifs with hpath
  · intro disk mid hmid
    have hbeside := FileAction.passes_changesBeside_writeStaged staging _ bytes disk mid hmid
    refine ⟨hbeside.workingDirectory, fun place hplace ↦ ?_⟩
    rcases hbeside.files place hplace with ⟨hthere, _, _, hreplace⟩ | ⟨name, hname, hthere⟩
    · rw [hthere]
      exact .inl (under_of_replaceFile hpath hreplace disk)
    · by_cases hempty : path = ""
      · rw [hempty] at hthere
        exact .inr ⟨hempty, name, hthere⟩
      · rw [hthere]
        exact .inl (under_of_staged hpath hempty hname disk)
  · exact passes_throw _

theorem write_of_leadsOutward (h : Path.leadsInward ⟨path⟩ = false) (staging : Staging) :
    write staging destination path bytes = throw (.write (destination.join path) .outside) := by
  unfold write
  simp [h]

/-! ## A whole run -/

theorem respects_confined_writePlanned (conditions : Conditions) (plan : ProjectPlan)
    (destination : Path) (entry : PlannedFile × Nat) :
    (writePlanned (conditions.staging entry.2) plan destination entry.1).Respects
      (Confined beside destination) :=
  (respects_ofExcept _).bind fun bytes ↦ respects_confined_write _ destination entry.1.path bytes

theorem respects_confined_writeFirst (conditions : Conditions) (spec : AppSpec)
    (plan : ProjectPlan) (destination : Path) (files : List PlannedFile) :
    (writeFirst conditions spec plan destination files).Respects (Confined beside destination) := by
  refine (respects_ofExcept _).bind fun _ ↦ Respects.bind (fun disk ↦ ?_) fun _ ↦ ?_
  · exact confined_of_gains (gains_makeDestination conditions destination disk)
  · exact respects_forM (respects_confined_writePlanned conditions plan destination) _

theorem respects_confined_writeAll (conditions : Conditions) (spec : AppSpec) (plan : ProjectPlan)
    (destination : Path) :
    (writeAll conditions spec plan destination).Respects (Confined beside destination) := by
  refine (respects_confined_writeFirst conditions spec plan destination _).bind fun _ ↦ ?_
  refine respects_forM (fun entry ↦ ?_) _
  exact respects_confined_write _ destination entry.1.1 (textBytes entry.1.2)

theorem ne_empty_of_generated {text : String} (h : Generated spec plan path text) : path ≠ "" := by
  cases h with
  | hosting => cases plan.target <;> decide
  | _ => decide

theorem passes_confined_writeAll (conditions : Conditions) (spec : AppSpec) (plan : ProjectPlan)
    (destination : Path) : (writeAll conditions spec plan destination).Passes
      (Confined (∃ file ∈ plan.files, file.path = "") destination) := by
  have hplanned : ∀ entry ∈ plan.files.zipIdx,
      (writePlanned (conditions.staging entry.2) plan destination entry.1).Passes
        (Confined (∃ file ∈ plan.files, file.path = "") destination) := by
    intro entry hentry
    refine (passes_ofExcept _).bind (respects_ofExcept _) fun bytes disk mid hmid ↦ ?_
    refine (passes_confined_write _ destination entry.1.path bytes disk mid hmid).mono fun hempty ↦ ?_
    exact ⟨entry.1, List.fst_mem_of_mem_zipIdx hentry, hempty⟩
  have hgenerated : ∀ entry ∈ (generatedFiles spec plan).value.zipIdx plan.files.length,
      (write (conditions.staging entry.2) destination entry.1.1 (textBytes entry.1.2)).Passes
        (Confined (∃ file ∈ plan.files, file.path = "") destination) := by
    intro entry hentry disk mid hmid
    refine (passes_confined_write _ destination entry.1.1 _ disk mid hmid).mono fun hempty ↦ ?_
    have hmem := List.fst_mem_of_mem_zipIdx hentry
    exact absurd hempty (ne_empty_of_generated (generated_of_mem spec plan entry.1 hmem))
  have hmake : ((makeDestination conditions destination).mapError
      (ScaffoldError.write destination)).Passes
        (Confined (∃ file ∈ plan.files, file.path = "") destination) := fun disk mid hmid ↦
    confined_of_gains (passes_gains_makeDestination conditions destination disk mid hmid)
  have hrespects : ((makeDestination conditions destination).mapError
      (ScaffoldError.write destination)).Respects
        (Confined (∃ file ∈ plan.files, file.path = "") destination) := fun disk ↦
    confined_of_gains (gains_makeDestination conditions destination disk)
  refine Passes.bind ?_ (respects_confined_writeFirst conditions spec plan destination _) fun _ ↦ ?_
  · refine (passes_ofExcept _).bind (respects_ofExcept _) fun _ ↦ hmake.bind hrespects fun _ ↦ ?_
    exact passes_forM hplanned (respects_confined_writePlanned conditions plan destination)
  · exact passes_forM hgenerated fun entry ↦ respects_confined_write _ destination entry.1.1 _

theorem writePlannedFiles_append_cons (conditions : Conditions) (plan : ProjectPlan)
    (destination : Path) (place : Nat) (front back : List PlannedFile) (file : PlannedFile) :
    writePlannedFiles conditions plan destination place (front ++ file :: back) = (do
      writePlannedFiles conditions plan destination place front
      writePlanned (conditions.staging (place + front.length)) plan destination file
      writePlannedFiles conditions plan destination (place + front.length + 1) back) := by
  unfold writePlannedFiles
  rw [List.zipIdx_append, List.zipIdx_cons]
  exact List.forM_append

/-- A planned file that is refused ends the run on the disk that the files in front of it left. -/
theorem writeAll_of_error {front back : List PlannedFile} {file : PlannedFile}
    {error : ScaffoldError} (hfiles : plan.files = front ++ file :: back)
    (hfront : (writeFirst conditions spec plan destination front).outcome disk = (.ok (), mid))
    (hfile : writePlanned (conditions.staging front.length) plan destination file = throw error) :
    (writeAll conditions spec plan destination).outcome disk = (.error error, mid) ∧
      (writeAll conditions spec plan destination).trail disk =
        (writeFirst conditions spec plan destination front).trail disk := by
  have hall : writeAll conditions spec plan destination = (do
      writeFirst conditions spec plan destination front
      throw error
      writePlannedFiles conditions plan destination (front.length + 1) back
      writeGenerated conditions destination plan.files.length (generatedFiles spec plan).value) := by
    rw [writeAll, writeFirst, hfiles, writePlannedFiles_append_cons, Nat.zero_add, hfile, writeFirst]
    simp only [bind_assoc]
  obtain ⟨houtcome, htrail⟩ := run_bind_of_ok hfront
  rw [hall, houtcome, htrail]
  have hthrow : (throw error : DiskAction ScaffoldError Unit).outcome mid = (.error error, mid) :=
    outcome_throw error
  obtain ⟨hend, hnothing⟩ := run_bind_of_error hthrow
  rw [hend, hnothing, trail_throw, List.append_nil]
  exact ⟨rfl, rfl⟩

/-- No regular file is different after a run but below the destination, and none was on the way but
there or, if the empty path is planned, beside the destination. The first planned file whose path
leads anywhere else ends the run with an error that names it, on the disk that the files in front of
it left. -/
theorem scaffold_confined (spec : AppSpec) (plan : ProjectPlan) (destination : Path)
    (conditions : Conditions) (disk : Disk) :
    let run := ((scaffold spec plan destination conditions).outcome disk).value
    run.2 = ((writeAll conditions spec plan destination).outcome disk).2 ∧
      (∀ place, run.2.files place ≠ disk.files place → Under (disk.resolve destination) place) ∧
      (∀ mid ∈ (writeAll conditions spec plan destination).trail disk, ∀ place,
        mid.files place ≠ disk.files place → Under (disk.resolve destination) place ∨
          (∃ file ∈ plan.files, file.path = "") ∧ Beside disk destination place) ∧
      ∀ front file back bytes mid, plan.files = front ++ file :: back →
        plannedContent plan file = .ok bytes →
        ((Path.mk file.path).isAbsolute ∨
          ∃ name ∈ (Path.mk file.path).components, name = Path.stay ∨ name = Path.up) →
        (writeFirst conditions spec plan destination front).outcome disk = (.ok (), mid) →
        run = (.error (.write (destination.join file.path) .outside), mid) ∧
          (writeAll conditions spec plan destination).trail disk =
            (writeFirst conditions spec plan destination front).trail disk := by
  have hlast : Confined False destination disk
      ((writeAll conditions spec plan destination).outcome disk).2 :=
    respects_confined_writeAll conditions spec plan destination disk
  intro run
  have hrun : run = _ := outcome_scaffold conditions spec plan destination disk
  have hsame : run.2 = ((writeAll conditions spec plan destination).outcome disk).2 := by
    rw [hrun]
  refine ⟨hsame, ?_, ?_, ?_⟩
  · rw [hsame]
    intro place hplace
    exact (hlast.under place hplace).resolve_right fun hbeside ↦ hbeside.1
  · intro mid hmid
    exact (passes_confined_writeAll conditions spec plan destination disk mid hmid).under
  · intro front file back bytes mid hfiles hcontent hpath hfront
    have hrefused : writePlanned (conditions.staging front.length) plan destination file =
        throw (.write (destination.join file.path) .outside) := by
      rw [writePlanned, hcontent]
      exact write_of_leadsOutward (Path.not_leadsInward_iff.2 hpath) _
    obtain ⟨houtcome, htrail⟩ := writeAll_of_error hfiles hfront hrefused
    rw [hrun, houtcome]
    exact ⟨rfl, htrail⟩

/-- A path that goes up after it went down is refused like any other, although a file could be
written there. -/
theorem escape_scaffold_confined :
    let spec := AppSpec.cookbook [.path "/"]
    let file (path : String) : PlannedFile := ⟨path, .template "web_app/prisma/seed.ts", []⟩
    let plan : ProjectPlan :=
      { spec.plan with files := [file "docs//notes.txt", file "docs/../../notes.txt", file "a"] }
    let disk : Disk := ⟨.directory [("notes.txt", .file [0x2d])], []⟩
    ∃ mid, (writeFirst .usual spec plan ⟨"out"⟩ [file "docs//notes.txt"]).outcome disk =
        (.ok (), mid) ∧
      ((scaffold spec plan ⟨"out"⟩).outcome disk).value =
        (.error (.write ⟨"out/docs/../../notes.txt"⟩ .outside), mid) ∧
      ∀ place, mid.files place ≠ disk.files place → Under ["out"] place := by
  intro spec file plan disk
  obtain ⟨_, hmid⟩ := exists_eq_ok_of_isSome
    (x := ((writeFirst .usual spec plan ⟨"out"⟩ [file "docs//notes.txt"]).outcome disk).1)
    (by decide +kernel)
  obtain ⟨bytes, hbytes⟩ := exists_eq_ok_of_isSome
    (x := plannedContent plan (file "docs/../../notes.txt")) (by decide +kernel)
  have htarget : Path.join ⟨"out"⟩ "docs/../../notes.txt" = ⟨"out/docs/../../notes.txt"⟩ := by
    decide +kernel
  have hdestination : disk.resolve ⟨"out"⟩ = ["out"] := by decide +kernel
  obtain ⟨-, hunder, -, hescape⟩ := scaffold_confined spec plan ⟨"out"⟩ .usual disk
  obtain ⟨hrun, -⟩ := hescape [file "docs//notes.txt"] (file "docs/../../notes.txt") [file "a"]
    bytes _ rfl hbytes (by decide +kernel) (Prod.ext hmid rfl)
  rw [htarget] at hrun
  rw [hrun, hdestination] at hunder
  exact ⟨_, Prod.ext hmid rfl, hrun, hunder⟩

/-- For the empty path a file is staged beside the destination, and removed again when it cannot take
the place of the destination itself. -/
theorem empty_path_strays :
    let spec := AppSpec.cookbook [.path "/"]
    let plan : ProjectPlan :=
      { spec.plan with files := [⟨"", .template "web_app/prisma/seed.ts", []⟩] }
    let disk : Disk := ⟨.directory [("notes.txt", .file [0x2d])], []⟩
    ((scaffold spec plan ⟨"out"⟩).outcome disk).value.1 =
        .error (.write ⟨"out/"⟩ .notDirectory) ∧
      ∃ mid ∈ (writeAll .usual spec plan ⟨"out"⟩).trail disk, ∃ place,
        mid.files place ≠ disk.files place ∧ ¬Under (disk.resolve ⟨"out"⟩) place := by
  intro spec plan disk
  have hresolve : disk.resolve ⟨"out"⟩ = ["out"] := by decide +kernel
  have hstray : ∃ mid ∈ (writeAll .usual spec plan ⟨"out"⟩).trail disk,
      mid.files [".tmp"] ≠ disk.files [".tmp"] := by
    decide +kernel
  obtain ⟨mid, hmid, hfile⟩ := hstray
  refine ⟨by decide +kernel, mid, hmid, [".tmp"], hfile, ?_⟩
  rintro ⟨names, -, -, hplace⟩
  rw [hresolve, List.singleton_append, List.cons.injEq] at hplace
  exact absurd hplace.1 (by decide)

end WebScaffold.Scaffold

import Mathlib.Data.List.Induction
import WebScaffold.Proofs.Growth
import WebScaffold.Proofs.Layout

/-!
# Scaffolding once more

A project that was scaffolded can be scaffolded again in its place. The first run has made every
directory that the second one asks for, and where it wrote a file no directory can be in the way. In
between a file may be given an earlier content again, but the last of the contents under its path is
the one that stays, as it did before.
-/

namespace WebScaffold.Scaffold

open Disk (Grows)
open DiskAction

variable {spec : AppSpec} {plan : ProjectPlan} {destination : Path} {disk mid last : Disk}
variable {path : String} {content : Except ScaffoldError (List UInt8)}
variable {conditions again : Conditions} {staging : Staging} {place : Nat}

/-- Nothing fails that the disk allows. -/
structure Conditions.Undisturbed (conditions : Conditions) : Prop where
  destinationError : conditions.destinationError = none
  staging (place : Nat) : (conditions.staging place).Undisturbed

theorem Conditions.undisturbed_usual : Conditions.usual.Undisturbed :=
  ⟨rfl, fun _ ↦ Staging.undisturbed_usual⟩

/-! ## One file -/

theorem write_eq_ok_iff {bytes : List UInt8} :
    (write staging destination path bytes).outcome disk = (.ok (), last) ↔
      Path.leadsInward ⟨path⟩ ∧
        (FileAction.writeStaged staging (destination.join path) bytes).outcome disk =
          (.ok (), last) := by
  unfold write
  cases hpath : Path.leadsInward ⟨path⟩ with
  | false => simp
  | true => simp only [if_true, outcome_mapError_eq_ok_iff, true_and]

theorem writeWanted_eq_ok_iff :
    (writeWanted conditions destination ((path, content), place)).outcome disk = (.ok (), last) ↔
      ∃ bytes, content = .ok bytes ∧
        (write (conditions.staging place) destination path bytes).outcome disk =
          (.ok (), last) := by
  unfold writeWanted
  rw [outcome_bind_eq_ok_iff]
  constructor
  · rintro ⟨bytes, mid, hcontent, hwrite⟩
    obtain ⟨rfl, rfl⟩ : content = .ok bytes ∧ disk = mid := by simpa using hcontent
    exact ⟨bytes, rfl, hwrite⟩
  · rintro ⟨bytes, rfl, hwrite⟩
    exact ⟨bytes, disk, rfl, hwrite⟩

theorem respects_grows_write (staging : Staging) (destination : Path) (path : String)
    (bytes : List UInt8) : (write staging destination path bytes).Respects Grows := by
  unfold write
  dsimp only
  split_ifs
  · exact FileAction.grows_writeStaged staging _ bytes
  · exact respects_throw _

theorem respects_grows_writeWanted (conditions : Conditions) (destination : Path)
    (entry : (String × Except ScaffoldError (List UInt8)) × Nat) :
    (writeWanted conditions destination entry).Respects Grows := by
  refine (respects_ofExcept entry.1.2).bind fun bytes ↦ ?_
  exact respects_grows_write _ destination entry.1.1 bytes

theorem writeWanted_again {entry : (String × Except ScaffoldError (List UInt8)) × Nat}
    (h : (writeWanted conditions destination entry).outcome disk = (.ok (), mid))
    (hagain : again.Undisturbed) (hlast : Grows mid last) :
    ∃ next, (writeWanted again destination entry).outcome last = (.ok (), next) ∧
      Grows last next ∧ Grows next last := by
  obtain ⟨bytes, hcontent, hwrite⟩ := writeWanted_eq_ok_iff.1 h
  obtain ⟨hpath, hfile⟩ := write_eq_ok_iff.1 hwrite
  obtain ⟨next, hnext, hgrows⟩ := FileAction.writeStaged_again hfile (hagain.staging entry.2) hlast
  refine ⟨next, ?_, hgrows⟩
  apply writeWanted_eq_ok_iff.2
  exact ⟨bytes, hcontent, write_eq_ok_iff.2 ⟨hpath, hnext⟩⟩

/-! ## One file after the other -/

/-- Files that were written can be written again on any disk that everything is still on. -/
theorem forM_writeWanted_again {entries : List ((String × Except ScaffoldError (List UInt8)) × Nat)}
    (h : (forM entries (writeWanted conditions destination)).outcome disk = (.ok (), mid))
    (hagain : again.Undisturbed) (hlast : Grows mid last) :
    ∃ next, (forM entries (writeWanted again destination)).outcome last = (.ok (), next) ∧
      Grows last next ∧ Grows next last := by
  -- on the files: what was written up to the end of the first run is there before each new write
  induction entries generalizing disk last with
  | nil => exact ⟨last, rfl, refl_of Grows last, refl_of Grows last⟩
  | cons entry entries ih =>
    rw [List.forM_cons] at h ⊢
    obtain ⟨_, made, hfile, hfiles⟩ := outcome_bind_eq_ok_iff.1 h
    have hrest : Grows made mid := by
      have hrespects := respects_forM (respects_grows_writeWanted conditions destination) entries
        made
      rwa [hfiles] at hrespects
    obtain ⟨next, hnext, hforth, hback⟩ :=
      writeWanted_again hfile hagain (trans_of Grows hrest hlast)
    obtain ⟨end', hend, hforth', hback'⟩ := ih hfiles (trans_of Grows hlast hforth)
    refine ⟨end', ?_, trans_of Grows hforth hforth', trans_of Grows hback' hback⟩
    exact outcome_bind_eq_ok_iff.2 ⟨(), next, hnext, hend⟩

/-- What files that are laid down leave at a place: what was there, or what they put there. -/
theorem foldl_lay_eq_or (disk : Disk) (destination : Path)
    (written : List (String × List UInt8)) (place : List String) :
    (∀ files, written.foldl (lay disk destination) files place = files place) ∨
      ∃ bytes, ∀ files, written.foldl (lay disk destination) files place = some bytes := by
  induction written using List.reverseRecOn with
  | nil => exact .inl fun _ ↦ rfl
  | append_singleton written entry ih =>
    simp only [List.foldl_append, List.foldl_cons, List.foldl_nil, lay]
    by_cases hplace : place = disk.resolve (destination.join entry.1)
    · right
      refine ⟨entry.2, fun files ↦ ?_⟩
      rw [hplace, Function.update_self]
    · simpa only [Function.update_of_ne hplace] using ih

theorem foldl_lay_foldl_lay (disk : Disk) (destination : Path)
    (written : List (String × List UInt8)) (files : List String → Option (List UInt8)) :
    written.foldl (lay disk destination) (written.foldl (lay disk destination) files) =
      written.foldl (lay disk destination) files := by
  funext place
  rcases foldl_lay_eq_or disk destination written place with hsame | ⟨bytes, hbytes⟩
  · exact hsame _
  · rw [hbytes, hbytes]

theorem asWanted_injective : Function.Injective asWanted := by
  intro entry other h
  obtain ⟨hpath, hbytes⟩ := Prod.mk.inj h
  exact Prod.ext hpath (Except.ok.inj hbytes)

/-- The second time the files end up with the contents that they have. -/
theorem files_of_forM_writeWanted_again
    (h : (forM (wanted spec plan).zipIdx (writeWanted conditions destination)).outcome disk =
      (.ok (), mid))
    (hagain : (forM (wanted spec plan).zipIdx (writeWanted again destination)).outcome mid =
      (.ok (), last)) : last.files = mid.files := by
  have hworking : mid.workingDirectory = disk.workingDirectory := by
    have hrespects := respects_forM (respects_grows_writeWanted conditions destination)
      (wanted spec plan).zipIdx disk
    rw [h] at hrespects
    exact hrespects.workingDirectory
  have hfirst := forM_writeWanted_effect (onlyMissesTemplate_wanted spec plan) conditions
    destination 0 disk
  have hsecond := forM_writeWanted_effect (onlyMissesTemplate_wanted spec plan) again destination 0
    mid
  rw [h] at hfirst
  rw [hagain] at hsecond
  obtain ⟨written, hwritten, hmid⟩ := hfirst
  obtain ⟨written', hwritten', hlast⟩ := hsecond
  obtain rfl : written = written' := by
    apply asWanted_injective.list_map
    rw [← hwritten, hwritten']
  calc last.files
    _ = written.foldl (lay mid destination) mid.files := hlast
    _ = written.foldl (lay disk destination) (written.foldl (lay disk destination) disk.files) := by
        rw [lay_congr hworking, hmid, overlay]
    _ = written.foldl (lay disk destination) disk.files := foldl_lay_foldl_lay _ _ _ _
    _ = mid.files := hmid.symm

theorem makeDestination_again
    (h : (makeDestination conditions destination).outcome disk = (.ok (), mid))
    (hagain : again.Undisturbed) (hlast : Grows mid last) :
    (makeDestination again destination).outcome last = (.ok (), last) := by
  unfold makeDestination at h ⊢
  rw [hagain.destinationError]
  split at h
  · exact absurd h FileAction.ensureSome_ne_ok
  · exact FileAction.ensureDirectory_again h hlast

/-! ## A whole run -/

/-- A run that succeeded succeeds again where it ended, if nothing fails that the disk allows, with
the same report, and leaves every file and every directory as it is. -/
theorem scaffold_again {written : WrittenProject}
    (h : ((scaffold spec plan destination conditions).outcome disk).value = (.ok written, last))
    (hagain : again.Undisturbed) :
    ∃ next, ((scaffold spec plan destination again).outcome last).value = (.ok written, next) ∧
      next.workingDirectory = last.workingDirectory ∧ next.node? = last.node? := by
  obtain ⟨hweb, hreport, mid, hmake, hloop⟩ := scaffold_eq_ok_iff.1 h
  have hlast : Grows mid last := by
    have hrespects := respects_forM (respects_grows_writeWanted conditions destination)
      (wanted spec plan).zipIdx mid
    rwa [hloop] at hrespects
  obtain ⟨next, hnext, hforth, hback⟩ := forM_writeWanted_again hloop hagain (refl_of Grows last)
  have hfiles := files_of_forM_writeWanted_again hloop hnext
  refine ⟨next, ?_, hforth.workingDirectory, hforth.node?_eq hback hfiles⟩
  exact scaffold_eq_ok_iff.2
    ⟨hweb, hreport, last, makeDestination_again hmake hagain hlast, hnext⟩

/-- A file that is planned twice, over one that was there before, is given both of its contents again
and ends up with the second. -/
theorem notes_scaffold_again :
    let spec := AppSpec.cookbook [.path "/"]
    let plan : ProjectPlan :=
      { spec.plan with
        needsDatabase := true
        files := [⟨"docs/notes.txt", .template "web_app/prisma/seed.ts", []⟩,
          ⟨"docs//./notes.txt", .template "web_app/next-env.d.ts", []⟩] }
    let notes : FileTree := .directory [("notes.txt", .file [0x2d])]
    let disk : Disk := ⟨.directory [("out", .directory [("docs", notes)])], []⟩
    ∃ written last next, ((scaffold spec plan ⟨"out"⟩).outcome disk).value = (.ok written, last) ∧
      Conditions.usual.Undisturbed ∧
      ((scaffold spec plan ⟨"out"⟩).outcome last).value = (.ok written, next) ∧
      next.workingDirectory = last.workingDirectory ∧ next.node? = last.node? := by
  intro spec plan notes disk
  obtain ⟨written, last, hrun⟩ := Run.exists_eq_ok (scaffold spec plan ⟨"out"⟩) disk
    (by decide +kernel)
  obtain ⟨next, hnext⟩ := scaffold_again hrun Conditions.undisturbed_usual
  exact ⟨written, last, next, hrun, Conditions.undisturbed_usual, hnext⟩

end WebScaffold.Scaffold

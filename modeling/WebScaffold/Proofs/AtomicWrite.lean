import WebScaffold.Proofs.Run
import WebScaffold.Proofs.Staging
import WebScaffold.Scaffold

/-!
# Writing a file is all or nothing

Whatever the system does about it, the writing of a file either puts all of its content at its path,
or it is reported as failed for that path, with every file as it was before. In both cases nothing
else is new on the disk but directories that the path leads through.
-/

namespace WebScaffold

namespace Disk

variable {disk mid last : Disk} {path : Path} {place : List String} {absolute : Bool}
variable {components : List String}

/-! ## Directories on the way of a path -/

/-- The place of a directory that is named on the way along some components. -/
def OnWay (disk : Disk) (absolute : Bool) (components place : List String) : Prop :=
  ∃ front name, front ++ [name] <+: components ∧ Path.isPlain name ∧
    place = (front ++ [name]).foldl follow (if absolute then [] else disk.workingDirectory)

/-- All that is different stands on the way along some components. -/
structure ChangesWay (absolute : Bool) (components : List String) (disk last : Disk) : Prop where
  workingDirectory : last.workingDirectory = disk.workingDirectory
  onWay (place : List String) (h : last.node? place ≠ disk.node? place) :
    disk.OnWay absolute components place

instance (absolute : Bool) (components : List String) :
    IsPreorder Disk (ChangesWay absolute components) where
  refl _ := ⟨rfl, fun _ h ↦ absurd rfl h⟩
  trans disk mid last hmid hlast := by
    refine ⟨hlast.workingDirectory.trans hmid.workingDirectory, fun place hplace ↦ ?_⟩
    by_cases hsame : last.node? place = mid.node? place
    · exact hmid.onWay place (hsame ▸ hplace)
    · have honWay := hlast.onWay place hsame
      rwa [OnWay, hmid.workingDirectory] at honWay

theorem ChangesWay.of_front {front : List String} (h : ChangesWay absolute front disk last)
    (hfront : front <+: components) : ChangesWay absolute components disk last := by
  refine ⟨h.workingDirectory, fun place hplace ↦ ?_⟩
  obtain ⟨above, name, hprefix, hway⟩ := h.onWay place hplace
  exact ⟨above, name, hprefix.trans hfront, hway⟩

theorem changesWay_of_makeDirectory (h : disk.makeDirectory path = .ok last) :
    ChangesWay path.isAbsolute path.components disk last := by
  obtain ⟨hworking, -, hnode⟩ := makeDirectory_eq_ok h
  refine ⟨hworking, fun place hplace ↦ ?_⟩
  rw [hnode] at hplace
  have hthere := eq_of_update_ne hplace
  simp only [makeDirectory, guard_eq_ok_iff, bind_eq_ok_iff] at h
  obtain ⟨-, -, -, ⟨here, name, found?⟩, hentry, -, -⟩ := h
  obtain ⟨steps, hsteps, hplain, -, -⟩ := newEntry_eq_ok_iff.1 hentry
  obtain ⟨front, hcomponents⟩ :=
    Path.exists_components_concat hsteps (Path.isPlain_iff.1 hplain).1
  refine ⟨front, name, ?_, hplain, ?_⟩
  · exact hcomponents ▸ List.prefix_rfl
  · rw [hthere, ← hcomponents, foldl_follow_components]
    rfl

end Disk

namespace FileAction

open Disk DiskAction

variable {disk mid last : Disk} {path : Path}

theorem changesWay_ensureComponents {absolute : Bool} {names : List String}
    (h : Path.AreComponents absolute names.reverse) :
    (ensureComponents absolute names).Respects (ChangesWay absolute names.reverse) := by
  induction names with
  | nil => exact respects_pure ()
  | cons name above ih =>
    have habove : above.reverse <+: (name :: above).reverse := by
      rw [List.reverse_cons]
      exact List.prefix_append _ _
    refine respects_makeWith (fun disk last hmake ↦ ?_) fun disk ↦ ?_
    · have hway := changesWay_of_makeDirectory hmake
      rwa [h.isAbsolute, h.components] at hway
    · exact (ih (h.of_front habove) disk).of_front habove

theorem changesWay_ensureDirectory (path : Path) :
    (ensureDirectory path).Respects (ChangesWay path.isAbsolute path.components) := by
  unfold ensureDirectory
  split_ifs
  · exact respects_pure ()
  · have habove : (path.components.reverse.drop 1).reverse <+: path.components := by
      rw [← List.reverse_suffix, List.reverse_reverse]
      exact List.drop_suffix 1 _
    refine respects_makeWith (fun _ _ ↦ changesWay_of_makeDirectory) fun disk ↦ ?_
    exact (changesWay_ensureComponents ((Path.areComponents_components path).of_front habove)
      disk).of_front habove

/-- The directories that a file is put in are on the way to it. -/
theorem changesWay_parent (path : Path) (disk : Disk) :
    ChangesWay path.isAbsolute path.components.dropLast disk
      ((ensureDirectory (path.parent?.getD ⟨Path.stay⟩)).outcome disk).2 := by
  by_cases hcomponents : path.components = []
  · -- the working directory is never made
    have hway := changesWay_ensureDirectory ⟨Path.stay⟩ disk
    rw [Path.parent?_of_components_eq_nil hcomponents, Option.getD_none]
    refine ⟨hway.workingDirectory, fun place hplace ↦ ?_⟩
    obtain ⟨front, name, hprefix, hplain, -⟩ := hway.onWay place hplace
    have hname : name ∈ (Path.mk Path.stay).components := hprefix.subset (by simp)
    have hstay : (Path.mk Path.stay).components = [Path.stay] := by decide
    rw [hstay, List.mem_singleton] at hname
    exact absurd hname (Path.isPlain_iff.1 hplain).1
  · have hparent := (Path.areComponents_components path).of_front (List.dropLast_prefix _)
    have hway := changesWay_ensureDirectory
      (Path.ofComponents path.isAbsolute path.components.dropLast) disk
    rw [hparent.isAbsolute, hparent.components] at hway
    rwa [Path.parent?_of_components_ne_nil hcomponents, Option.getD_some]

theorem changesWay_makeParents (staging : Staging) (path : Path) (disk : Disk) :
    ChangesWay path.isAbsolute path.components.dropLast disk
      ((makeParents staging path).outcome disk).2 := by
  unfold makeParents
  split
  · next count reason _ =>
    have hfront : path.components.dropLast.take count <+: path.components.dropLast :=
      List.take_prefix _ _
    have hnames := (Path.areComponents_components path).of_front
      (hfront.trans (List.dropLast_prefix _))
    have hway := changesWay_ensureDirectory
      (Path.ofComponents path.isAbsolute (path.components.dropLast.take count)) disk
    rw [hnames.isAbsolute, hnames.components] at hway
    rw [(run_ensureSome _ _ _ _ disk).1]
    exact hway.of_front hfront
  · exact changesWay_parent path disk

end FileAction

namespace Disk

/-- At a place nothing is different, but that a directory may have been made there that a path leads
through. -/
def SameOrParent (path : Path) (disk last : Disk) (place : List String) : Prop :=
  last.node? place = disk.node? place ∨
    disk.node? place = none ∧ last.node? place = some .directory ∧
      disk.OnWay path.isAbsolute path.components.dropLast place

theorem GainsDirectories.sameOrParent {disk last : Disk} {path : Path}
    (h : GainsDirectories disk last)
    (hway : ChangesWay path.isAbsolute path.components.dropLast disk last) (place : List String) :
    SameOrParent path disk last place := by
  by_cases hsame : last.node? place = disk.node? place
  · exact .inl hsame
  · obtain ⟨hnone, hmade⟩ := (h.node? place).resolve_left hsame
    exact .inr ⟨hnone, hmade, hway.onWay place hsame⟩

end Disk

namespace Scaffold

open Disk FileAction

/-- A file is written as a whole or not at all, whichever step fails and wherever. If it is, all of
the content is at its path, and each other file has its own; if it is not, the error names the path,
and each file that was there has its content. No file is new but the one at the path, no temporary
one either, and no directory but those that the path leads through. -/
theorem writeStaged_atomic (staging : Staging) (path : Path) (bytes : List UInt8) (disk : Disk) :
    (∃ last, ((Run.ofFiles (ScaffoldError.write path) (writeStaged staging path bytes)).outcome
          disk).value = (.ok (), last) ∧
        last.files = Function.update disk.files (disk.resolve path) (some bytes) ∧
        ∀ place, place ≠ disk.resolve path → SameOrParent path disk last place) ∨
      ∃ reason last, ((Run.ofFiles (ScaffoldError.write path)
          (writeStaged staging path bytes)).outcome disk).value =
            (.error (.write path reason), last) ∧
        last.files = disk.files ∧ ∀ place, SameOrParent path disk last place := by
  rcases hrun : (writeStaged staging path bytes).outcome disk with ⟨reason | _, last⟩
  · right
    have hgains := gains_of_writeStaged_eq_error hrun
    have halike := writeStaged_eq_error hrun
    have hway := changesWay_makeParents staging path disk
    refine ⟨reason, last, by rw [Run.outcome_ofFiles_value, hrun]; rfl, hgains.files_eq, ?_⟩
    refine hgains.sameOrParent ⟨hgains.workingDirectory, fun place hplace ↦ ?_⟩
    rw [halike.node?] at hplace
    exact hway.onWay place hplace
  · left
    obtain ⟨-, hfiles⟩ := writeStaged_files hrun
    obtain ⟨mid, clear, hensure, halike, hreplace⟩ := writeStaged_eq_ok hrun
    have hgains := gains_ensureDirectory (path.parent?.getD ⟨Path.stay⟩) disk
    have hway := changesWay_parent path disk
    rw [hensure] at hgains hway
    refine ⟨last, by rw [Run.outcome_ofFiles_value, hrun]; rfl, hfiles, fun place hplace ↦ ?_⟩
    have hsame : last.node? place = mid.node? place := by
      rw [(replaceFile_eq_ok hreplace).2.2, Function.update_of_ne, halike.node?]
      rwa [resolve_congr halike.workingDirectory, resolve_congr hgains.workingDirectory]
    unfold SameOrParent
    rw [hsame]
    exact hgains.sameOrParent hway place

/-- When the file cannot be moved to its place, all that is left is the directory that it would have
been in. -/
example :
    let disk : Disk := ⟨.directory [("notes.txt", .file [1])], []⟩
    let staging : Staging := { Staging.usual with moveError := some .busy }
    ((writeFile ⟨"docs/notes.txt"⟩ [2, 3]).outcome disk).2.root.contents =
        ["docs/", "docs/notes.txt 2", "notes.txt 1"] ∧
      ((writeStaged staging ⟨"docs/notes.txt"⟩ [2, 3]).outcome disk).2.root.contents =
        ["docs/", "notes.txt 1"] := by
  decide +kernel

end Scaffold

end WebScaffold

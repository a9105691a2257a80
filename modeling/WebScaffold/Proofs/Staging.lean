import Mathlib.Data.List.Nodup
import Mathlib.Data.List.Perm.Subperm
import WebScaffold.File.Staging
import WebScaffold.Proofs.Disk

/-!
# What the writing of a file leaves

While a file is written, the disk is the one from before with a single file more on it. That file is
gone in the end, whichever step fails: it was moved, or it was removed. What is left of a failure are
the directories that were made on the way, and a success comes to the one replacement that the move
is.
-/

namespace WebScaffold

namespace FileTree

theorem eq_file_of_node_eq {tree : FileTree} {content : List UInt8}
    (h : tree.node = .file content) : tree = .file content := by
  cases tree with
  | file bytes => rw [Node.file.inj h]
  | directory entries => cases h

end FileTree

namespace Staging

theorem temporaryName_injective : Function.Injective temporaryName := by
  intro a b hsame
  have hlength := congrArg String.length hsame
  simpa [temporaryName] using hlength

theorem isName_temporaryName (number : Nat) : Path.isName (temporaryName number) := by
  have hchars : (temporaryName number).toList = '.' :: 't' :: 'm' :: 'p' ::
      List.replicate number 'x' := by
    simp [temporaryName]
  have hne (text : String) (h : text.toList.length < 4) : temporaryName number ≠ text := by
    rintro rfl
    simp only [hchars, List.length_cons] at h
    omega
  refine Path.isName_iff.2 ⟨⟨hne "" (by decide), ?_⟩, Path.isPlain_iff.2 ⟨?_, ?_⟩⟩
  · simp [hchars]
  · exact hne Path.stay (by decide)
  · exact hne Path.up (by decide)

/-- Of more names than are taken, one is free. -/
theorem exists_temporaryName_notMem (taken : List String) :
    ∃ name ∈ (List.range (taken.length + 1)).map temporaryName, name ∉ taken := by
  have hnodup : ((List.range (taken.length + 1)).map temporaryName).Nodup :=
    List.Nodup.map temporaryName_injective List.nodup_range
  by_contra hall
  simp only [not_exists, not_and, not_not] at hall
  have hlength := (List.subperm_of_subset hnodup hall).length_le
  rw [List.length_map, List.length_range] at hlength
  omega

theorem freshName_spec (taken : List String) :
    freshName taken ∉ taken ∧ ∃ number, freshName taken = temporaryName number := by
  unfold freshName
  cases hfind : ((List.range (taken.length + 1)).map temporaryName).find? (· ∉ taken) with
  | none =>
    obtain ⟨name, hname, hnew⟩ := exists_temporaryName_notMem taken
    exact absurd hnew (by simpa using List.find?_eq_none.1 hfind name hname)
  | some name =>
    obtain ⟨number, -, hnumber⟩ := List.mem_map.1 (List.mem_of_find?_eq_some hfind)
    exact ⟨by simpa using List.find?_some hfind, number, hnumber.symm⟩

/-- Nothing fails that the disk allows, and there is always a name for the temporary file. -/
structure Undisturbed (staging : Staging) : Prop where
  parentsError : staging.parentsError = none
  openError : staging.openError = none
  fillError : staging.fillError = none
  moveError : staging.moveError = none
  isName (taken : List String) : Path.isName (staging.nameBeside taken)
  notMem (taken : List String) : staging.nameBeside taken ∉ taken

theorem undisturbed_usual : usual.Undisturbed where
  parentsError := rfl
  openError := rfl
  fillError := rfl
  moveError := rfl
  isName taken := by
    obtain ⟨-, number, hnumber⟩ := freshName_spec taken
    change Path.isName (freshName taken)
    rw [hnumber]
    exact isName_temporaryName number
  notMem taken := (freshName_spec taken).1

end Staging

namespace Disk

open FileTree (Node)

variable {disk mid last : Disk} {path directory : Path} {place : List String}
variable {content : List UInt8}

/-! ## Disks that look the same -/

/-- On both disks the same can be seen, and from the same place. -/
structure Alike (disk last : Disk) : Prop where
  workingDirectory : last.workingDirectory = disk.workingDirectory
  node? : last.node? = disk.node?

theorem Alike.refl (disk : Disk) : Alike disk disk :=
  ⟨rfl, rfl⟩

theorem Alike.gains (hmid : GainsDirectories disk mid) (h : Alike mid last) :
    GainsDirectories disk last := by
  constructor
  · exact h.workingDirectory.trans hmid.workingDirectory
  · rw [h.node?]
    exact hmid.node?

/-! ## One file more -/

theorem exists_directory_of_file (h : disk.node? place = some (.file content)) (hne : place ≠ []) :
    ∃ here name entries, place = here ++ [name] ∧ disk.root.at? here = some (.directory entries) ∧
      entries.lookup name = some (.file content) := by
  rcases List.eq_nil_or_concat' place with rfl | ⟨here, name, rfl⟩
  · exact absurd rfl hne
  · obtain ⟨tree, htree, hnode⟩ := Option.map_eq_some_iff.1 h
    rw [FileTree.at?_append] at htree
    obtain ⟨inner, hhere, hentry⟩ := Option.bind_eq_some_iff.1 htree
    cases inner with
    | file bytes => cases hentry
    | directory entries =>
      obtain ⟨found, hfound, hsame⟩ := Option.bind_eq_some_iff.1 hentry
      obtain rfl : found = tree := Option.some.inj hsame
      obtain rfl := FileTree.eq_file_of_node_eq hnode
      exact ⟨here, name, entries, rfl, hhere, hfound⟩

/-- The second disk has one file more, at a place where the first one has nothing. -/
structure Adds (disk : Disk) (place : List String) (content : List UInt8) (last : Disk) :
    Prop where
  workingDirectory : last.workingDirectory = disk.workingDirectory
  absent : disk.node? place = none
  node? : last.node? = Function.update disk.node? place (some (.file content))

theorem Adds.node?_self (h : disk.Adds place content last) :
    last.node? place = some (.file content) := by
  rw [h.node?, Function.update_self]

theorem Adds.exists_directory (h : disk.Adds place content last) :
    ∃ here name entries, place = here ++ [name] ∧ last.root.at? here = some (.directory entries) ∧
      entries.lookup name = some (.file content) := by
  apply exists_directory_of_file h.node?_self
  rintro rfl
  cases h.absent

theorem Adds.put (h : disk.Adds place content last) (bytes : List UInt8) :
    disk.Adds place bytes (last.put place (.file bytes)) := by
  obtain ⟨here, name, entries, rfl, hhere, hentry⟩ := h.exists_directory
  refine ⟨h.workingDirectory, h.absent, ?_⟩
  rw [node?_put (FileTree.isLeaf_file bytes) hhere, h.node?, Function.update_idem]
  · rfl
  · intro old hold
    obtain rfl := Option.some.inj (hentry.symm.trans hold)
    exact FileTree.isLeaf_file content

/-- Without the file the disk looks as it did before. -/
theorem Adds.remove (h : disk.Adds place content last) : Alike disk (last.remove place) := by
  obtain ⟨here, name, entries, rfl, hhere, hentry⟩ := h.exists_directory
  refine ⟨h.workingDirectory, ?_⟩
  rw [node?_remove hhere, h.node?, Function.update_idem, ← h.absent, Function.update_eq_self]
  intro old hold
  obtain rfl := Option.some.inj (hentry.symm.trans hold)
  exact FileTree.isLeaf_file content

theorem Adds.moveFile (h : disk.Adds place content last) (path : Path) :
    last.moveFile place path = (last.remove place).replaceFile path content := by
  obtain ⟨tree, htree, hnode⟩ := Option.map_eq_some_iff.1 h.node?_self
  obtain rfl := FileTree.eq_file_of_node_eq hnode
  rw [Disk.moveFile, htree]

theorem freePlace_eq_ok_iff {nameBeside : List String → String} :
    disk.freePlace directory nameBeside = .ok place ↔
      ∃ here entries, disk.walk (disk.start directory) directory.steps = .ok here ∧
        disk.root.at? here = some (.directory entries) ∧
        Path.isName (nameBeside (entries.map (·.1))) ∧
        entries.lookup (nameBeside (entries.map (·.1))) = none ∧
        place = here ++ [nameBeside (entries.map (·.1))] := by
  unfold freePlace
  rw [bind_eq_ok_iff]
  constructor
  · rintro ⟨here, hwalk, hplace⟩
    split at hplace
    · next entries hhere =>
      dsimp only at hplace
      obtain ⟨hname, hplace⟩ := guard_eq_ok_iff.1 hplace
      obtain ⟨hfree, hplace⟩ := guard_eq_ok_iff.1 hplace
      exact ⟨here, entries, hwalk, hhere, by simpa using hname,
        Option.not_isSome_iff_eq_none.1 hfree, (Except.ok.inj hplace).symm⟩
    · cases hplace
    · cases hplace
  · rintro ⟨here, entries, hwalk, hhere, hname, hfree, rfl⟩
    refine ⟨here, hwalk, ?_⟩
    simp [hhere, hname, hfree, pure, Except.pure]

theorem adds_of_freePlace {nameBeside : List String → String}
    (h : disk.freePlace directory nameBeside = .ok place) :
    disk.Adds place [] (disk.put place (.file [])) := by
  obtain ⟨here, entries, -, hhere, -, hfree, rfl⟩ := freePlace_eq_ok_iff.1 h
  refine ⟨rfl, ?_, ?_⟩
  · rw [node?_concat hhere, hfree, Option.map_none]
  · exact node?_put (FileTree.isLeaf_file []) hhere (by simp [hfree])

end Disk

namespace FileAction

open Disk DiskAction

variable {disk mid last : Disk} {path directory : Path} {place : List String}
variable {content bytes : List UInt8} {staging : Staging} {reason : FileError}

/-! ## The steps -/

theorem outcome_check_eq_ok_iff {error? : Option FileError} :
    (check error?).outcome disk = (.ok (), last) ↔ error? = none ∧ disk = last := by
  cases error? <;> simp [check]

theorem last_of_check (error? : Option FileError) (disk : Disk) :
    ((check error?).outcome disk).2 = disk := by
  cases error? <;> rfl

theorem trail_check (error? : Option FileError) (disk : Disk) :
    (check error?).trail disk = [] := by
  cases error? <;> rfl

/-- Behind a check the disk is still the same. -/
theorem mem_trail_check_bind {α : Type} {error? : Option FileError} {f : Unit → FileAction α}
    (h : mid ∈ (check error? >>= f).trail disk) : mid ∈ (f ()).trail disk := by
  cases error? with
  | none => exact h
  | some reason => cases h

theorem mem_trail_change {operation : Disk → Except FileError Disk}
    (h : mid ∈ (change operation).trail disk) : operation disk = .ok mid := by
  rw [change, trail_get_bind] at h
  cases hdisk : operation disk with
  | ok last =>
    rw [hdisk, trail_set] at h
    rw [List.mem_singleton.1 h]
  | error reason =>
    rw [hdisk] at h
    cases h

theorem outcome_orRemove_eq_ok_iff {action : FileAction Unit} :
    (orRemove place action).outcome disk = (.ok (), last) ↔
      action.outcome disk = (.ok (), last) := by
  rcases h : action.outcome disk with ⟨reason | _, mid⟩
  · simp [orRemove, (run_tryCatch_of_error h).1, outcome_bind_eq_ok_iff]
  · rw [orRemove, (run_tryCatch_of_ok h).1]

theorem outcome_orRemove_eq_error_iff {action : FileAction Unit} :
    (orRemove place action).outcome disk = (.error reason, last) ↔
      ∃ mid, action.outcome disk = (.error reason, mid) ∧ mid.remove place = last := by
  rcases h : action.outcome disk with ⟨reason' | _, mid⟩
  · simp [orRemove, (run_tryCatch_of_error h).1, outcome_bind_eq_error_iff]
  · simp [orRemove, (run_tryCatch_of_ok h).1]

theorem mem_trail_orRemove {action : FileAction Unit}
    (h : last ∈ (orRemove place action).trail disk) :
    last ∈ action.trail disk ∨
      ∃ reason, (orRemove place action).outcome disk = (.error reason, last) := by
  rcases hrun : action.outcome disk with ⟨reason | _, mid⟩
  · rw [orRemove, (run_tryCatch_of_error hrun).2] at h
    rcases List.mem_append.1 h with h | h
    · exact .inl h
    · obtain rfl := List.mem_singleton.1 h
      exact .inr ⟨reason, outcome_orRemove_eq_error_iff.2 ⟨mid, hrun, rfl⟩⟩
  · rw [orRemove, (run_tryCatch_of_ok hrun).2] at h
    exact .inl h

theorem makeParents_eq_ok (h : (makeParents staging path).outcome disk = (.ok (), mid)) :
    (ensureDirectory (path.parent?.getD ⟨Path.stay⟩)).outcome disk = (.ok (), mid) := by
  unfold makeParents at h
  split at h
  · exact absurd h ensureSome_ne_ok
  · exact h

theorem gains_makeParents (staging : Staging) (path : Path) :
    (makeParents staging path).Respects GainsDirectories := by
  unfold makeParents
  split
  · exact gains_ensureSome _ _ _ _
  · exact gains_ensureDirectory _

theorem passes_gains_makeParents (staging : Staging) (path : Path) :
    (makeParents staging path).Passes GainsDirectories := by
  unfold makeParents
  split
  · exact passes_gains_ensureSome _ _ _ _
  · exact passes_gains_ensureDirectory _

theorem openTemporary_eq_ok_iff :
    (openTemporary staging directory).outcome disk = (.ok place, last) ↔
      staging.openError = none ∧ disk.freePlace directory staging.nameBeside = .ok place ∧
        disk.put place (.file []) = last := by
  unfold openTemporary
  cases staging.openError with
  | some reason => simp [check]
  | none =>
    simp only [check, pure_bind, outcome_get_bind, true_and]
    cases disk.freePlace directory staging.nameBeside with
    | error reason => simp
    | ok free =>
      rw [outcome_bind_of_ok (outcome_modify _), outcome_pure]
      simp only [Prod.mk.injEq, Except.ok.injEq]
      exact and_congr_right fun hplace ↦ by rw [hplace]

theorem last_of_openTemporary
    (h : (openTemporary staging directory).outcome disk = (.error reason, last)) :
    disk = last := by
  unfold openTemporary at h
  rcases outcome_bind_eq_error_iff.1 h with hcheck | ⟨_, mid, hcheck, hopen⟩
  · rw [← last_of_check staging.openError disk, hcheck]
  · obtain ⟨-, rfl⟩ := outcome_check_eq_ok_iff.1 hcheck
    rw [outcome_get_bind] at hopen
    split at hopen
    · rw [outcome_bind_of_ok (outcome_modify _)] at hopen
      cases hopen
    · exact (Prod.mk.inj hopen).2

theorem mem_trail_openTemporary (h : mid ∈ (openTemporary staging directory).trail disk) :
    ∃ place, disk.freePlace directory staging.nameBeside = .ok place ∧
      disk.put place (.file []) = mid := by
  have hopen := mem_trail_check_bind h
  rw [trail_get_bind] at hopen
  cases hplace : disk.freePlace directory staging.nameBeside with
  | ok place =>
    rw [hplace] at hopen
    exact ⟨place, rfl, (List.mem_singleton.1 hopen).symm⟩
  | error reason =>
    rw [hplace] at hopen
    cases hopen

/-- Whether or not all of the bytes can be written, it is in the one file that they are. -/
theorem adds_of_fill (h : disk.Adds place content mid) (staging : Staging) (bytes : List UInt8) :
    ∃ filled, disk.Adds place filled ((fill staging place bytes).outcome mid).2 ∧
      (((fill staging place bytes).outcome mid).1 = .ok () → filled = bytes) := by
  refine ⟨bytes.take ((staging.fillError.map (·.1)).getD bytes.length), ?_, ?_⟩ <;>
    rw [fill, outcome_bind_of_ok (outcome_modify _)]
  · rw [last_of_check]
    exact h.put _
  · intro hcheck
    obtain ⟨hnone, -⟩ := outcome_check_eq_ok_iff.1 (Prod.ext hcheck rfl)
    rw [Option.map_eq_none_iff.1 hnone, Option.map_none, Option.getD_none, List.take_length]

theorem adds_of_mem_trail_fill (h : disk.Adds place content mid)
    (hlast : last ∈ (fill staging place bytes).trail mid) : ∃ filled, disk.Adds place filled last := by
  rw [fill, (run_bind_of_ok (outcome_modify _)).2, trail_modify, trail_check, List.append_nil,
    List.mem_singleton] at hlast
  rw [hlast]
  exact ⟨_, h.put _⟩

theorem persist_eq_ok (h : disk.Adds place content mid)
    (hrun : (persist staging place path).outcome mid = (.ok (), last)) :
    ∃ clear, Alike disk clear ∧ clear.replaceFile path content = .ok last := by
  obtain ⟨_, start, hcheck, hmove⟩ := outcome_bind_eq_ok_iff.1 hrun
  obtain ⟨-, rfl⟩ := outcome_check_eq_ok_iff.1 hcheck
  rw [outcome_change_eq_ok_iff, h.moveFile] at hmove
  exact ⟨_, h.remove, hmove⟩

theorem last_of_persist (hrun : (persist staging place path).outcome disk = (.error reason, last)) :
    disk = last := by
  rcases outcome_bind_eq_error_iff.1 hrun with hcheck | ⟨_, start, hcheck, hmove⟩
  · rw [← last_of_check staging.moveError disk, hcheck]
  · obtain ⟨-, rfl⟩ := outcome_check_eq_ok_iff.1 hcheck
    exact (outcome_change_eq_error_iff.1 hmove).2

theorem mem_trail_persist (h : last ∈ (persist staging place path).trail disk) :
    disk.moveFile place path = .ok last :=
  mem_trail_change (mem_trail_check_bind h)

/-- A file that could not be filled or moved is removed. -/
theorem alike_of_error (h : disk.Adds place content mid) (hrun : (orRemove place do
      fill staging place bytes
      persist staging place path).outcome mid = (.error reason, last)) : Alike disk last := by
  obtain ⟨filled, hadds, -⟩ := adds_of_fill h staging bytes
  obtain ⟨full, hfull, rfl⟩ := outcome_orRemove_eq_error_iff.1 hrun
  rcases outcome_bind_eq_error_iff.1 hfull with hfill | ⟨_, start, hfill, hpersist⟩ <;>
    rw [hfill] at hadds
  · exact hadds.remove
  · rw [← last_of_persist hpersist]
    exact hadds.remove

/-! ## All of them -/

/-- A file that was written has come to its place in one replacement. -/
theorem writeStaged_eq_ok (h : (writeStaged staging path bytes).outcome disk = (.ok (), last)) :
    ∃ mid clear,
      (ensureDirectory (path.parent?.getD ⟨Path.stay⟩)).outcome disk = (.ok (), mid) ∧
        Alike mid clear ∧ clear.replaceFile path bytes = .ok last := by
  obtain ⟨_, mid, hparents, hrest⟩ := outcome_bind_eq_ok_iff.1 h
  obtain ⟨place, start, hopen, hwrite⟩ := outcome_bind_eq_ok_iff.1 hrest
  obtain ⟨-, hplace, rfl⟩ := openTemporary_eq_ok_iff.1 hopen
  obtain ⟨_, full, hfill, hpersist⟩ :=
    outcome_bind_eq_ok_iff.1 (outcome_orRemove_eq_ok_iff.1 hwrite)
  obtain ⟨filled, hadds, hall⟩ := adds_of_fill (adds_of_freePlace hplace) staging bytes
  rw [hfill] at hadds hall
  obtain rfl := hall rfl
  obtain ⟨clear, halike, hreplace⟩ := persist_eq_ok hadds hpersist
  exact ⟨mid, clear, makeParents_eq_ok hparents, halike, hreplace⟩

/-- Where nothing fails that the disk allows, a file comes to its place if it can be put there. -/
theorem writeStaged_of_freePlace (hstaging : staging.Undisturbed)
    (hensure : (ensureDirectory (path.parent?.getD ⟨Path.stay⟩)).outcome disk = (.ok (), mid))
    (hplace : mid.freePlace (path.parent?.getD ⟨Path.stay⟩) staging.nameBeside = .ok place)
    (hreplace : (((mid.put place (.file [])).put place (.file bytes)).remove place).replaceFile
      path bytes = .ok last) :
    (writeStaged staging path bytes).outcome disk = (.ok (), last) := by
  have hadds := (adds_of_freePlace hplace).put bytes
  have hparents : (makeParents staging path).outcome disk = (.ok (), mid) := by
    rw [makeParents, hstaging.parentsError]
    exact hensure
  have hfill : (fill staging place bytes).outcome (mid.put place (.file [])) =
      (.ok (), (mid.put place (.file [])).put place (.file bytes)) := by
    rw [fill, outcome_bind_of_ok (outcome_modify _)]
    simp [hstaging.fillError, check]
  have hpersist : (persist staging place path).outcome
      ((mid.put place (.file [])).put place (.file bytes)) = (.ok (), last) := by
    refine outcome_bind_eq_ok_iff.2 ⟨(), _, outcome_check_eq_ok_iff.2 ⟨hstaging.moveError, rfl⟩, ?_⟩
    rw [outcome_change_eq_ok_iff, hadds.moveFile, hreplace]
  refine outcome_bind_eq_ok_iff.2 ⟨(), mid, hparents, ?_⟩
  refine outcome_bind_eq_ok_iff.2
    ⟨place, _, openTemporary_eq_ok_iff.2 ⟨hstaging.openError, hplace, rfl⟩, ?_⟩
  apply outcome_orRemove_eq_ok_iff.2
  exact outcome_bind_eq_ok_iff.2 ⟨(), _, hfill, hpersist⟩

/-- A failure leaves nothing behind but directories that the file would have been in. -/
theorem writeStaged_eq_error
    (h : (writeStaged staging path bytes).outcome disk = (.error reason, last)) :
    Alike ((makeParents staging path).outcome disk).2 last := by
  rcases outcome_bind_eq_error_iff.1 h with hparents | ⟨_, mid, hparents, hrest⟩ <;> rw [hparents]
  · exact .refl last
  · rcases outcome_bind_eq_error_iff.1 hrest with hopen | ⟨place, start, hopen, hwrite⟩
    · rw [last_of_openTemporary hopen]
      exact .refl last
    · obtain ⟨-, hplace, rfl⟩ := openTemporary_eq_ok_iff.1 hopen
      exact alike_of_error (adds_of_freePlace hplace) hwrite

/-- A file that was written has the new content, and the others are as they were. -/
theorem writeStaged_files
    (h : (writeStaged staging path bytes).outcome disk = (.ok (), last)) :
    last.workingDirectory = disk.workingDirectory ∧
      last.files = Function.update disk.files (disk.resolve path) (some bytes) := by
  obtain ⟨mid, clear, hensure, halike, hreplace⟩ := writeStaged_eq_ok h
  have hmid : GainsDirectories disk mid := by
    simpa [hensure] using gains_ensureDirectory (path.parent?.getD ⟨Path.stay⟩) disk
  have hclear := halike.gains hmid
  constructor
  · exact (replaceFile_eq_ok hreplace).1.trans hclear.workingDirectory
  · rw [files_of_replaceFile hreplace, hclear.files_eq, resolve_congr hclear.workingDirectory]

/-- A file that could not be written has its old content, if it was there. -/
theorem gains_of_writeStaged_eq_error
    (h : (writeStaged staging path bytes).outcome disk = (.error reason, last)) :
    GainsDirectories disk last :=
  (writeStaged_eq_error h).gains (gains_makeParents staging path disk)

/-! ## On the way -/

/-- While a file is written there is one file more at a free place, until that is moved to the path
or removed. -/
inductive Stage (directory path : Path) (disk : Disk) : Disk → Prop where
  | added {nameBeside : List String → String} {place : List String} {content : List UInt8}
    {mid : Disk} (hplace : disk.freePlace directory nameBeside = .ok place)
    (hmid : disk.Adds place content mid) : Stage directory path disk mid
  | moved {clear mid : Disk} {content : List UInt8} (hclear : Alike disk clear)
    (hmid : clear.replaceFile path content = .ok mid) : Stage directory path disk mid
  | removed {mid : Disk} (hmid : Alike disk mid) : Stage directory path disk mid

theorem stage_of_mem_trail (h : mid ∈ (do
      let place ← openTemporary staging directory
      orRemove place do
        fill staging place bytes
        persist staging place path : FileAction Unit).trail disk) :
    Stage directory path disk mid := by
  have hopened (hmid : mid ∈ (openTemporary staging directory).trail disk) :
      Stage directory path disk mid := by
    obtain ⟨place, hplace, rfl⟩ := mem_trail_openTemporary hmid
    exact .added hplace (adds_of_freePlace hplace)
  rcases hopen : (openTemporary staging directory).outcome disk with ⟨reason | place, start⟩
  · rw [(run_bind_of_error hopen).2] at h
    exact hopened h
  · rw [(run_bind_of_ok hopen).2] at h
    obtain ⟨-, hplace, rfl⟩ := openTemporary_eq_ok_iff.1 hopen
    have hadds := adds_of_freePlace hplace
    rcases List.mem_append.1 h with h | h
    · exact hopened h
    · rcases mem_trail_orRemove h with h | ⟨reason, herror⟩
      · obtain ⟨filled, hfull, -⟩ := adds_of_fill hadds staging bytes
        have hfilled (hmid : mid ∈ (fill staging place bytes).trail (disk.put place (.file []))) :
            Stage directory path disk mid := by
          obtain ⟨_, hmid⟩ := adds_of_mem_trail_fill hadds hmid
          exact .added hplace hmid
        rcases hfill : (fill staging place bytes).outcome (disk.put place (.file [])) with
          ⟨reason | _, full⟩ <;> rw [hfill] at hfull
        · rw [(run_bind_of_error hfill).2] at h
          exact hfilled h
        · rw [(run_bind_of_ok hfill).2] at h
          rcases List.mem_append.1 h with h | h
          · exact hfilled h
          · have hmove := mem_trail_persist h
            rw [hfull.moveFile] at hmove
            exact .moved hfull.remove hmove
      · exact .removed (alike_of_error hadds herror)

/-- While a file is written, no other regular file is different but one beside its path. -/
structure ChangesBeside (path : Path) (disk last : Disk) : Prop where
  workingDirectory : last.workingDirectory = disk.workingDirectory
  files (place : List String) (h : last.files place ≠ disk.files place) :
    (place = disk.resolve path ∧ ∃ clear content, Disk.replaceFile clear path content = .ok last) ∨
      ∃ name, Path.isName name ∧ place = disk.resolve (path.parent?.getD ⟨Path.stay⟩) ++ [name]

theorem changesBeside_of_gains (hmid : GainsDirectories disk mid)
    (hworking : last.workingDirectory = mid.workingDirectory)
    (hfiles : ∀ place, last.files place ≠ mid.files place →
      (place = mid.resolve path ∧
          ∃ clear content, Disk.replaceFile clear path content = .ok last) ∨
        ∃ name, Path.isName name ∧
          place = mid.resolve (path.parent?.getD ⟨Path.stay⟩) ++ [name]) :
    ChangesBeside path disk last := by
  constructor
  · exact hworking.trans hmid.workingDirectory
  · intro place hplace
    rw [← hmid.files_eq] at hplace
    rw [← resolve_congr hmid.workingDirectory, ← resolve_congr hmid.workingDirectory]
    exact hfiles place hplace

/-- On a disk that is brought about while a file is written, only that file and one more beside it
can be different. -/
theorem passes_changesBeside_writeStaged (staging : Staging) (path : Path) (bytes : List UInt8) :
    (writeStaged staging path bytes).Passes (ChangesBeside path) := by
  intro disk mid hmid
  have hsame {start : Disk} (hstart : GainsDirectories disk start) (halike : Alike start mid) :
      ChangesBeside path disk mid := by
    have hmid := halike.gains hstart
    exact changesBeside_of_gains hmid rfl fun place hplace ↦ absurd rfl hplace
  have hparents (h : mid ∈ (makeParents staging path).trail disk) : ChangesBeside path disk mid :=
    hsame (passes_gains_makeParents staging path disk mid h) (.refl mid)
  have hstart := gains_makeParents staging path disk
  rcases hrun : (makeParents staging path).outcome disk with ⟨reason | _, start⟩ <;>
    rw [hrun] at hstart
  · rw [writeStaged, (run_bind_of_error hrun).2] at hmid
    exact hparents hmid
  · rw [writeStaged, (run_bind_of_ok hrun).2] at hmid
    rcases List.mem_append.1 hmid with hmid | hmid
    · exact hparents hmid
    · cases stage_of_mem_trail hmid with
      | added hplace hadds =>
        obtain ⟨here, entries, hwalk, -, hname, -, rfl⟩ := freePlace_eq_ok_iff.1 hplace
        refine changesBeside_of_gains hstart hadds.workingDirectory fun place hchanged ↦ .inr ?_
        rw [files_eq_update hadds.node?] at hchanged
        refine ⟨_, hname, (eq_of_update_ne hchanged).trans ?_⟩
        rw [resolve, foldl_follow_of_walk hwalk]
      | moved hclear hreplace =>
        have hworking := (replaceFile_eq_ok hreplace).1
        refine changesBeside_of_gains (hclear.gains hstart) hworking fun place hchanged ↦ .inl ?_
        rw [files_of_replaceFile hreplace] at hchanged
        exact ⟨eq_of_update_ne hchanged, _, _, hreplace⟩
      | removed halike => exact hsame hstart halike

end FileAction

end WebScaffold

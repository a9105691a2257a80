import WebScaffold.Proofs.Staging

/-!
# What can be done once more

Nothing that stands on a disk is taken away by the operations on it, and a file and a directory
never take each other's place. So a path that once led to a directory leads there ever after: a
directory that was made is found where it is to be made again, and a file that was written can be
written again, whatever else was written in the meantime. Doing so adds no file and no directory.
-/

namespace WebScaffold

namespace FileTree

/-- Which of the two a node is, whatever it holds. -/
inductive Kind where
  | file
  | directory
deriving DecidableEq, Repr

def Node.kind : Node → Kind
  | .file _ => .file
  | .directory => .directory

theorem kind_node_eq_directory_iff {tree : FileTree} :
    tree.node.kind = .directory ↔ ∃ entries, tree = directory entries := by
  cases tree with
  | file bytes => simp [node, Node.kind]
  | directory entries => simp [node, Node.kind]

theorem kind_node_eq_directory {tree : FileTree} (h : tree.isDirectory) :
    tree.node.kind = .directory := by
  cases tree with
  | file bytes => cases h
  | directory entries => rfl

end FileTree

namespace Disk

open FileTree (Node Kind)

variable {disk mid last : Disk} {path : Path} {here place : List String} {name : String}
variable {found? : Option FileTree} {bytes : List UInt8}

/-! ## Kinds -/

/-- Which kind of node stands at a place, if any does. -/
def kind? (disk : Disk) (place : List String) : Option Kind :=
  (disk.node? place).map Node.kind

theorem kind?_eq_directory_iff : disk.kind? place = some .directory ↔
    ∃ entries, disk.root.at? place = some (.directory entries) := by
  unfold kind? node? FileTree.node?
  cases disk.root.at? place with
  | none => simp
  | some tree => simp [FileTree.kind_node_eq_directory_iff]

theorem kind?_eq_update {node : Node}
    (h : last.node? = Function.update disk.node? place (some node)) :
    last.kind? = Function.update disk.kind? place (some node.kind) := by
  funext other
  rw [kind?, h]
  by_cases hother : other = place
  · rw [hother, Function.update_self, Function.update_self, Option.map_some]
  · rw [Function.update_of_ne hother, Function.update_of_ne hother, kind?]

theorem kind?_of_makeDirectory (h : disk.makeDirectory path = .ok last) :
    last.kind? = Function.update disk.kind? (disk.resolve path) (some .directory) :=
  kind?_eq_update (makeDirectory_eq_ok h).2.2

theorem kind?_of_replaceFile (h : disk.replaceFile path bytes = .ok last) :
    last.kind? = Function.update disk.kind? (disk.resolve path) (some .file) :=
  kind?_eq_update (replaceFile_eq_ok h).2.2

theorem kind?_ne_directory_of_replaceFile (h : disk.replaceFile path bytes = .ok last) :
    disk.kind? (disk.resolve path) ≠ some .directory := by
  have hnode := (replaceFile_eq_ok h).2.1
  intro hkind
  unfold kind? at hkind
  cases hbefore : disk.node? (disk.resolve path) with
  | none => simp [hbefore] at hkind
  | some node =>
    cases node with
    | file bytes => simp [hbefore, Node.kind] at hkind
    | directory => exact hnode hbefore

/-! ## Disks that grow -/

/-- What stands on the first disk stands on the second one, at the same place and of the same
kind. -/
structure Grows (disk last : Disk) : Prop where
  workingDirectory : last.workingDirectory = disk.workingDirectory
  kind? (place : List String) (kind : Kind) (h : disk.kind? place = some kind) :
    last.kind? place = some kind

instance : IsPreorder Disk Grows where
  refl _ := ⟨rfl, fun _ _ h ↦ h⟩
  trans _ _ _ hmid hlast :=
    ⟨hlast.workingDirectory.trans hmid.workingDirectory,
      fun place kind h ↦ hlast.kind? place kind (hmid.kind? place kind h)⟩

theorem GainsDirectories.grows (h : GainsDirectories disk last) : Grows disk last := by
  constructor
  · exact h.workingDirectory
  · intro place kind hkind
    rcases h.node? place with hsame | ⟨hnone, -⟩
    · rw [← hkind, Disk.kind?, Disk.kind?, hsame]
    · simp [Disk.kind?, hnone] at hkind

theorem Alike.kind?_eq (h : Alike disk last) : last.kind? = disk.kind? := by
  funext place
  rw [Disk.kind?, Disk.kind?, h.node?]

theorem Alike.grows (h : Alike disk last) : Grows disk last := by
  refine ⟨h.workingDirectory, fun place kind hkind ↦ ?_⟩
  rw [h.kind?_eq, hkind]

theorem grows_of_replaceFile (h : disk.replaceFile path bytes = .ok last) : Grows disk last := by
  constructor
  · exact (replaceFile_eq_ok h).1
  · intro place kind hkind
    rw [kind?_of_replaceFile h]
    by_cases hplace : place = disk.resolve path
    · -- what stood there was no directory, so it was a file
      have hne := kind?_ne_directory_of_replaceFile h
      rw [hplace] at hkind ⊢
      rw [Function.update_self]
      cases kind with
      | file => rfl
      | directory => exact absurd hkind hne
    · rw [Function.update_of_ne hplace, hkind]

/-- Two disks that grow into each other and hold the same files are the same everywhere. -/
theorem Grows.node?_eq (h : Grows disk last) (hback : Grows last disk)
    (hfiles : last.files = disk.files) : last.node? = disk.node? := by
  funext place
  have hforth := h.kind? place
  have hback := hback.kind? place
  have hbytes := congrFun hfiles place
  unfold Disk.kind? at hforth hback
  unfold files at hbytes
  rcases hlast : last.node? place with _ | ⟨bytes⟩ | _ <;>
    rcases hdisk : disk.node? place with _ | ⟨bytes'⟩ | _ <;>
    simp_all [Node.kind]

/-! ## Walks -/

theorem kind?_of_lookIn (h : disk.lookIn here name = .ok found?) :
    disk.kind? (here ++ [name]) = found?.map fun tree ↦ tree.node.kind := by
  obtain ⟨-, entries, hhere, rfl⟩ := lookIn_eq_ok_iff.1 h
  rw [kind?, node?_concat hhere, Option.map_map]
  rfl

theorem kind?_eq_directory_of_lookIn (h : disk.lookIn here name = .ok found?) :
    disk.kind? here = some .directory := by
  obtain ⟨-, entries, hhere, -⟩ := lookIn_eq_ok_iff.1 h
  exact kind?_eq_directory_iff.2 ⟨entries, hhere⟩

/-- Only from a directory is there a way to an entry. -/
theorem kind?_of_walk {names : List String} (hwalk : disk.walk here names = .ok place)
    (hlook : disk.lookIn place name = .ok found?) : disk.kind? here = some .directory := by
  cases names with
  | nil =>
    obtain rfl : here = place := Except.ok.inj hwalk
    exact kind?_eq_directory_of_lookIn hlook
  | cons first names =>
    rw [walk, List.foldlM_cons, bind_eq_ok_iff] at hwalk
    obtain ⟨next, hstep, -⟩ := hwalk
    cases hfirst : disk.lookIn here first with
    | error reason => simp [step, hfirst] at hstep
    | ok found? => exact kind?_eq_directory_of_lookIn hfirst

theorem Grows.exists_lookIn (h : Grows disk last) (hlook : disk.lookIn here name = .ok found?) :
    ∃ again?, last.lookIn here name = .ok again? ∧ (found?.isSome → again?.isSome) := by
  obtain ⟨hlength, entries, hhere, -⟩ := lookIn_eq_ok_iff.1 hlook
  have hdirectory := h.kind? here .directory (kind?_eq_directory_iff.2 ⟨entries, hhere⟩)
  obtain ⟨entries', hhere'⟩ := kind?_eq_directory_iff.1 hdirectory
  have hagain := lookIn_eq_ok_iff.2 ⟨hlength, entries', hhere', rfl⟩
  refine ⟨entries'.lookup name, hagain, ?_⟩
  intro hsome
  obtain ⟨tree, rfl⟩ := Option.isSome_iff_exists.1 hsome
  have hkind := h.kind? _ _ (kind?_of_lookIn hlook)
  rw [kind?_of_lookIn hagain] at hkind
  exact Option.isSome_map.symm.trans (Option.isSome_of_eq_some hkind)

theorem Grows.step (h : Grows disk last) (hstep : disk.step here name = .ok place) :
    last.step here name = .ok place := by
  unfold Disk.step at hstep ⊢
  cases hlook : disk.lookIn here name with
  | error reason => simp [hlook] at hstep
  | ok found? =>
    obtain ⟨again?, hagain, hsome⟩ := h.exists_lookIn hlook
    rw [hlook] at hstep
    rw [hagain]
    dsimp only at hstep ⊢
    split_ifs at hstep with hstay hup hfound
    · rw [if_pos hstay, hstep]
    · rw [if_neg hstay, if_pos hup, hstep]
    · rw [if_neg hstay, if_neg hup, if_pos (hsome hfound), hstep]

theorem Grows.walk (h : Grows disk last) {names : List String}
    (hwalk : disk.walk here names = .ok place) : last.walk here names = .ok place := by
  induction names generalizing here with
  | nil => exact hwalk
  | cons name names ih =>
    unfold Disk.walk at hwalk ⊢
    rw [List.foldlM_cons, bind_eq_ok_iff] at hwalk ⊢
    obtain ⟨next, hstep, hrest⟩ := hwalk
    exact ⟨next, h.step hstep, ih hrest⟩

theorem Grows.start (h : Grows disk last) (path : Path) : last.start path = disk.start path := by
  rw [Disk.start, Disk.start, h.workingDirectory]

/-! ## Directories -/

theorem isDirectory_iff : disk.isDirectory path ↔ '\x00' ∉ path.text.toList ∧
    checkPath path = .ok () ∧ ∃ place, disk.walk (disk.start path) path.steps = .ok place ∧
      disk.kind? place = some .directory := by
  unfold isDirectory find
  by_cases hnul : '\x00' ∈ path.text.toList
  · simp [hnul, throw, throwThe, MonadExceptOf.throw, bind, Except.bind]
  · cases hcheck : checkPath path with
    | error reason => simp [hnul, bind, Except.bind]
    | ok checked =>
      cases hwalk : disk.walk (disk.start path) path.steps with
      | error reason => simp [hnul, bind, Except.bind]
      | ok place =>
        simp only [hnul, if_false, bind, Except.bind, kind?_eq_directory_iff]
        rcases htree : disk.root.at? place with _ | ⟨bytes⟩ | entries
        · simp [htree, throw, throwThe, MonadExceptOf.throw]
        · cases path.endsInSlash <;>
            simp [htree, throw, throwThe, MonadExceptOf.throw, pure, Except.pure,
              FileTree.isDirectory]
        · simp [htree, pure, Except.pure, FileTree.isDirectory]

theorem Grows.isDirectory (h : Grows disk last) (hdirectory : disk.isDirectory path) :
    last.isDirectory path := by
  obtain ⟨hnul, hcheck, place, hwalk, hkind⟩ := isDirectory_iff.1 hdirectory
  apply isDirectory_iff.2
  refine ⟨hnul, hcheck, place, ?_, h.kind? place .directory hkind⟩
  rw [h.start]
  exact h.walk hwalk

theorem walk_concat_eq_ok_iff {names : List String} :
    disk.walk here (names ++ [name]) = .ok place ↔
      ∃ next, disk.walk here names = .ok next ∧ disk.step next name = .ok place := by
  simp [walk, List.foldlM_append, bind_eq_ok_iff]

theorem isSome_of_step (hstep : disk.step here name = .ok place) (hplain : Path.isPlain name)
    (hlook : disk.lookIn here name = .ok found?) : found?.isSome := by
  obtain ⟨hstay, hup⟩ := Path.isPlain_iff.1 hplain
  unfold step at hstep
  rw [hlook] at hstep
  dsimp only at hstep
  rw [if_neg hstay, if_neg hup] at hstep
  split_ifs at hstep with hfound
  exact hfound

/-- Where a directory is found no other one is made. -/
theorem makeDirectory_of_isDirectory (h : disk.isDirectory path) :
    disk.makeDirectory path = .error .alreadyThere := by
  obtain ⟨hnul, hcheck, place, hwalk, -⟩ := isDirectory_iff.1 h
  unfold makeDirectory newEntry
  rcases List.eq_nil_or_concat' path.steps with hsteps | ⟨steps, name, hsteps⟩
  · simp [hnul, hcheck, hsteps, bind, Except.bind, throw, throwThe, MonadExceptOf.throw]
  · rw [hsteps, walk_concat_eq_ok_iff] at hwalk
    obtain ⟨here, hhere, hstep⟩ := hwalk
    cases hlook : disk.lookIn here name with
    | error reason => simp [step, hlook] at hstep
    | ok found? =>
      by_cases hplain : Path.isPlain name
      · have hfound := isSome_of_step hstep hplain hlook
        simp [hnul, hcheck, hsteps, hhere, hlook, hplain, hfound, bind, Except.bind, throw,
          throwThe, MonadExceptOf.throw, pure, Except.pure]
      · simp [hnul, hcheck, hsteps, hhere, hlook, hplain, bind, Except.bind, throw, throwThe,
          MonadExceptOf.throw]

/-- A walk goes on into an entry that is there. -/
theorem step_of_kind? (hplain : Path.isPlain name) (hlength : name.utf8ByteSize ≤ longestName)
    (hhere : disk.kind? here = some .directory) (hthere : (disk.kind? (here ++ [name])).isSome) :
    disk.step here name = .ok (here ++ [name]) := by
  obtain ⟨hstay, hup⟩ := Path.isPlain_iff.1 hplain
  obtain ⟨entries, hentries⟩ := kind?_eq_directory_iff.1 hhere
  have hlook := lookIn_eq_ok_iff.2 ⟨hlength, entries, hentries, rfl⟩
  rw [kind?_of_lookIn hlook, Option.isSome_map] at hthere
  unfold step
  rw [hlook]
  dsimp only
  rw [if_neg hstay, if_neg hup, if_pos hthere]

theorem isDirectory_of_makeDirectory (h : disk.makeDirectory path = .ok last) :
    last.isDirectory path := by
  have hmade := kind?_of_makeDirectory h
  have hgrows := (gainsDirectories_of_makeDirectory h).grows
  simp only [makeDirectory, guard_eq_ok_iff, bind_eq_ok_iff] at h
  obtain ⟨hnul, _, hcheck, ⟨here, name, found?⟩, hentry, -, -⟩ := h
  obtain ⟨steps, hsteps, hplain, hwalk, hlook⟩ := newEntry_eq_ok_iff.1 hentry
  obtain ⟨hlength, entries, hhere, -⟩ := lookIn_eq_ok_iff.1 hlook
  rw [(newEntry_eq_ok hentry).1] at hmade
  have hthere : last.kind? (here ++ [name]) = some .directory := by
    rw [hmade, Function.update_self]
  have hhere' := hgrows.kind? here .directory (kind?_eq_directory_iff.2 ⟨entries, hhere⟩)
  apply isDirectory_iff.2
  refine ⟨hnul, hcheck, here ++ [name], ?_, hthere⟩
  rw [hgrows.start, hsteps, walk_concat_eq_ok_iff]
  refine ⟨here, hgrows.walk hwalk, ?_⟩
  exact step_of_kind? hplain hlength hhere' (Option.isSome_of_eq_some hthere)

/-! ## Files -/

/-- A file that was written once can be written again over any file in its place. -/
theorem Grows.exists_replaceFile (h : Grows disk last)
    (hreplace : disk.replaceFile path bytes = .ok mid)
    (hplace : last.kind? (last.resolve path) ≠ some .directory) (bytes' : List UInt8) :
    ∃ again, last.replaceFile path bytes' = .ok again := by
  simp only [replaceFile, guard_eq_ok_iff, bind_eq_ok_iff] at hreplace ⊢
  obtain ⟨hnul, _, hcheck, ⟨here, name, found?⟩, hentry, hslash, -, -⟩ := hreplace
  obtain ⟨steps, hsteps, hplain, hwalk, hlook⟩ := newEntry_eq_ok_iff.1 hentry
  obtain ⟨again?, hagain, -⟩ := h.exists_lookIn hlook
  have hentry' : last.newEntry path .busy = .ok (here, name, again?) := by
    apply newEntry_eq_ok_iff.2
    refine ⟨steps, hsteps, hplain, ?_, hagain⟩
    rw [h.start]
    exact h.walk hwalk
  have hfile : ¬again?.any FileTree.isDirectory := by
    intro hdirectory
    obtain ⟨tree, rfl, htree⟩ := (Option.any_eq_true _ _).1 hdirectory
    apply hplace
    rw [(newEntry_eq_ok hentry').1, kind?_of_lookIn hagain, Option.map_some,
      FileTree.kind_node_eq_directory htree]
  exact ⟨_, hnul, _, hcheck, _, hentry', hslash, hfile, rfl⟩

theorem Alike.exists_replaceFile (h : Alike disk last)
    (hreplace : disk.replaceFile path bytes = .ok mid) :
    ∃ again, last.replaceFile path bytes = .ok again := by
  refine h.grows.exists_replaceFile hreplace ?_ bytes
  rw [h.kind?_eq, resolve_congr h.workingDirectory]
  exact kind?_ne_directory_of_replaceFile hreplace

end Disk

namespace FileAction

open Disk DiskAction

variable {disk mid last : Disk} {path : Path} {here : List String} {bytes : List UInt8}
variable {staging again : Staging}

/-! ## Operations that are done again -/

theorem isDirectory_of_makeWith {makeParents : FileAction Unit}
    (h : (makeWith path makeParents).outcome disk = (.ok (), last)) : last.isDirectory path := by
  have haccept {disk : Disk} {reason : FileError} (h : ((if disk.isDirectory path then pure ()
      else throw reason : FileAction Unit).outcome disk) = (.ok (), last)) :
      last.isDirectory path := by
    split_ifs at h with hdirectory
    · obtain rfl : disk = last := (Prod.mk.inj h).2
      exact hdirectory
    · cases h
  unfold makeWith at h
  rw [outcome_get_bind] at h
  split at h
  · next made hmade =>
    obtain rfl : made = last := (Prod.mk.inj h).2
    exact isDirectory_of_makeDirectory hmade
  · obtain ⟨_, mid, -, h⟩ := outcome_bind_eq_ok_iff.1 h
    rw [outcome_get_bind] at h
    split at h
    · next made hmade =>
      obtain rfl : made = last := (Prod.mk.inj h).2
      exact isDirectory_of_makeDirectory hmade
    · rw [outcome_get_bind] at h
      exact haccept h
  · rw [outcome_get_bind] at h
    exact haccept h

theorem makeWith_again (h : disk.isDirectory path) (makeParents : FileAction Unit) :
    (makeWith path makeParents).outcome disk = (.ok (), disk) := by
  unfold makeWith
  rw [outcome_get_bind, makeDirectory_of_isDirectory h]
  dsimp only
  rw [outcome_get_bind, if_pos h, outcome_pure]

/-- A directory that was made is there to stay, and making it again changes nothing. -/
theorem ensureDirectory_again (h : (ensureDirectory path).outcome disk = (.ok (), mid))
    (hlast : Grows mid last) : (ensureDirectory path).outcome last = (.ok (), last) := by
  unfold ensureDirectory at h ⊢
  split_ifs at h ⊢
  · rfl
  · exact makeWith_again (hlast.isDirectory (isDirectory_of_makeWith h)) _

theorem grows_ensureDirectory (path : Path) : (ensureDirectory path).Respects Grows :=
  fun disk ↦ (gains_ensureDirectory path disk).grows

theorem grows_writeStaged (staging : Staging) (path : Path) (bytes : List UInt8) :
    (writeStaged staging path bytes).Respects Grows := by
  intro disk
  rcases hrun : (writeStaged staging path bytes).outcome disk with ⟨reason | _, last⟩
  · exact (gains_of_writeStaged_eq_error hrun).grows
  · obtain ⟨mid, clear, hensure, halike, hreplace⟩ := writeStaged_eq_ok hrun
    have hmid : Grows disk mid := by
      simpa [hensure] using grows_ensureDirectory (path.parent?.getD ⟨Path.stay⟩) disk
    exact trans_of Grows (trans_of Grows hmid halike.grows) (grows_of_replaceFile hreplace)

/-- The directory of a file can be entered, if the file can be put there. -/
theorem exists_walk_parent
    (hensure : (ensureDirectory (path.parent?.getD ⟨Path.stay⟩)).outcome disk = (.ok (), mid))
    (hreplace : mid.replaceFile path bytes = .ok last) :
    ∃ here, mid.walk (mid.start (path.parent?.getD ⟨Path.stay⟩))
        (path.parent?.getD ⟨Path.stay⟩).steps = .ok here ∧ mid.kind? here = some .directory := by
  by_cases hempty : (path.parent?.getD ⟨Path.stay⟩).text = ""
  · -- then it is the working directory, where the path of the file starts
    obtain ⟨habsolute, hparent⟩ := Path.parent_of_text_eq_empty hempty
    simp only [replaceFile, guard_eq_ok_iff, bind_eq_ok_iff] at hreplace
    obtain ⟨-, -, -, ⟨place, name, found?⟩, hentry, -⟩ := hreplace
    obtain ⟨steps, -, -, hwalk, hlook⟩ := newEntry_eq_ok_iff.1 hentry
    have hstart : mid.start path = mid.workingDirectory := by
      rw [Disk.start, habsolute]
      rfl
    rw [hparent]
    exact ⟨mid.workingDirectory, rfl, hstart ▸ kind?_of_walk hwalk hlook⟩
  · rw [ensureDirectory, if_neg hempty] at hensure
    obtain ⟨-, -, here, hwalk, hkind⟩ := isDirectory_iff.1 (isDirectory_of_makeWith hensure)
    exact ⟨here, hwalk, hkind⟩

theorem exists_freePlace {directory : Path} (hstaging : staging.Undisturbed)
    (hwalk : disk.walk (disk.start directory) directory.steps = .ok here)
    (hkind : disk.kind? here = some .directory) :
    ∃ place, disk.freePlace directory staging.nameBeside = .ok place := by
  obtain ⟨entries, hentries⟩ := kind?_eq_directory_iff.1 hkind
  have hfree : entries.lookup (staging.nameBeside (entries.map (·.1))) = none := by
    rw [← Option.not_isSome_iff_eq_none, Table.lookup_isSome_iff_mem]
    exact hstaging.notMem _
  exact ⟨_, freePlace_eq_ok_iff.2
    ⟨here, entries, hwalk, hentries, hstaging.isName _, hfree, rfl⟩⟩

/-- Nothing but what is in the way of the file itself keeps it from being written. -/
theorem writeStaged_of_replaceFile (hstaging : staging.Undisturbed)
    (hensure : (ensureDirectory (path.parent?.getD ⟨Path.stay⟩)).outcome disk = (.ok (), mid))
    (hreplace : mid.replaceFile path bytes = .ok last) :
    ∃ clear next, Alike mid clear ∧ clear.replaceFile path bytes = .ok next ∧
      (writeStaged staging path bytes).outcome disk = (.ok (), next) := by
  obtain ⟨here, hwalk, hkind⟩ := exists_walk_parent hensure hreplace
  obtain ⟨place, hplace⟩ := exists_freePlace hstaging hwalk hkind
  have hadds := (adds_of_freePlace hplace).put bytes
  obtain ⟨next, hnext⟩ := hadds.remove.exists_replaceFile hreplace
  exact ⟨_, next, hadds.remove, hnext, writeStaged_of_freePlace hstaging hensure hplace hnext⟩

/-- A file that was written can be written again, and then nothing is new. -/
theorem writeStaged_again (h : (writeStaged staging path bytes).outcome disk = (.ok (), mid))
    (hagain : again.Undisturbed) (hlast : Grows mid last) :
    ∃ next, (writeStaged again path bytes).outcome last = (.ok (), next) ∧ Grows last next ∧
      Grows next last := by
  obtain ⟨made, clear, hensure, halike, hreplace⟩ := writeStaged_eq_ok h
  have hclear : Grows clear last := trans_of Grows (grows_of_replaceFile hreplace) hlast
  have hthere : last.kind? (last.resolve path) = some .file := by
    apply hlast.kind?
    rw [resolve_congr hclear.workingDirectory, kind?_of_replaceFile hreplace, Function.update_self]
  have hplace : last.kind? (last.resolve path) ≠ some .directory := by
    simp [hthere]
  obtain ⟨replaced, hreplaced⟩ := hclear.exists_replaceFile hreplace hplace bytes
  have hmade := ensureDirectory_again hensure (trans_of Grows halike.grows hclear)
  obtain ⟨clear', next, halike', hnext, hwrite⟩ :=
    writeStaged_of_replaceFile hagain hmade hreplaced
  refine ⟨next, hwrite, trans_of Grows halike'.grows (grows_of_replaceFile hnext), ?_⟩
  constructor
  · exact ((replaceFile_eq_ok hnext).1.trans halike'.workingDirectory).symm
  · -- the file takes the place of a file
    intro place kind hkind
    rw [kind?_of_replaceFile hnext, resolve_congr halike'.workingDirectory, halike'.kind?_eq,
      ← hthere, Function.update_eq_self] at hkind
    exact hkind

end FileAction

end WebScaffold

import Mathlib.Logic.Function.Basic
import Mathlib.Order.Defs.Unbundled
import Mathlib.Tactic.Common
import WebScaffold.File.Disk
import WebScaffold.Proofs.Except
import WebScaffold.Proofs.FileTree
import WebScaffold.Proofs.Path

/-!
# What operations change on a disk

A disk is looked at place by place. The operations on files change a single place each, the one that
their path stands for; what else is done on the way to it makes directories where there was nothing.
Whether an operation succeeds or fails, it leaves the other files as they were.
-/

namespace WebScaffold

namespace Disk

open FileTree (Node)

variable {disk mid last : Disk} {path : Path} {here place : List String} {name : String}
variable {found? : Option FileTree} {special : FileError}

/-- What can be seen at a place of the disk. -/
def node? (disk : Disk) (place : List String) : Option Node :=
  disk.root.node? place

/-- The regular files with their contents. -/
def files (disk : Disk) (place : List String) : Option (List UInt8) :=
  match disk.node? place with
  | some (.file bytes) => some bytes
  | _ => none

/-! ## Places of paths -/

/-- Where a step leads from a directory. -/
def follow (here : List String) (name : String) : List String :=
  if name = Path.stay then here
  else if name = Path.up then here.dropLast
  else here ++ [name]

/-- The place that a path stands for, whether or not there is anything. -/
def resolve (disk : Disk) (path : Path) : List String :=
  path.steps.foldl follow (disk.start path)

theorem resolve_congr (h : last.workingDirectory = disk.workingDirectory) (path : Path) :
    last.resolve path = disk.resolve path := by
  rw [resolve, resolve, start, start, h]

theorem foldl_follow_filter (names here : List String) :
    (names.filter (· ≠ Path.stay)).foldl follow here = names.foldl follow here := by
  induction names generalizing here with
  | nil => rfl
  | cons name names ih =>
    by_cases hstay : name = Path.stay
    · rw [List.filter_cons_of_neg (by simpa using hstay), ih, List.foldl_cons, follow, if_pos hstay]
    · rw [List.filter_cons_of_pos (by simpa using hstay), List.foldl_cons, List.foldl_cons, ih]

/-- A path stands for the place that its components lead to. -/
theorem foldl_follow_components (path : Path) (here : List String) :
    path.components.foldl follow here = path.steps.foldl follow here := by
  unfold Path.components
  split
  · next hsteps => rw [hsteps]
  · next first rest hsteps =>
    rw [hsteps, List.foldl_cons]
    split_ifs with hfirst
    · rw [foldl_follow_filter, follow, if_pos hfirst.1]
    · rw [List.foldl_cons, foldl_follow_filter]

theorem follow_of_step (h : disk.step here name = .ok place) : follow here name = place := by
  unfold step at h
  unfold follow
  split at h
  · cases h
  · split_ifs at h ⊢ <;> exact Except.ok.inj h

theorem foldl_follow_of_walk {names : List String} (h : disk.walk here names = .ok place) :
    names.foldl follow here = place := by
  induction names generalizing here with
  | nil => exact Except.ok.inj h
  | cons name names ih =>
    rw [walk, List.foldlM_cons, bind_eq_ok_iff] at h
    obtain ⟨next, hstep, hwalk⟩ := h
    rw [List.foldl_cons, follow_of_step hstep]
    exact ih hwalk

theorem lookIn_eq_ok_iff : disk.lookIn here name = .ok found? ↔ name.utf8ByteSize ≤ longestName ∧
    ∃ entries, disk.root.at? here = some (.directory entries) ∧ entries.lookup name = found? := by
  unfold lookIn
  cases disk.root.at? here with
  | none => simp
  | some tree =>
    cases tree with
    | file bytes => simp
    | directory entries =>
      by_cases hlong : longestName < name.utf8ByteSize
      · simp [hlong, Nat.not_le.2 hlong]
      · simp [hlong, Nat.not_lt.1 hlong]

/-- How a path leads to a new entry: its last step is a name, and the others lead to where the entry
is looked for. -/
theorem newEntry_eq_ok_iff : disk.newEntry path special = .ok (here, name, found?) ↔
    ∃ steps, path.steps = steps ++ [name] ∧ Path.isPlain name ∧
      disk.walk (disk.start path) steps = .ok here ∧ disk.lookIn here name = .ok found? := by
  unfold newEntry
  rcases List.eq_nil_or_concat' path.steps with hsteps | ⟨steps, last, hsteps⟩
  · simp [hsteps, throw, throwThe, MonadExceptOf.throw]
  · simp only [hsteps, List.getLast?_concat, List.dropLast_concat, bind_eq_ok_iff]
    constructor
    · rintro ⟨front, hwalk, found, hlook, hentry⟩
      split_ifs at hentry with hplain
      · obtain ⟨rfl, rfl, rfl⟩ : front = here ∧ last = name ∧ found = found? := by
          simpa using Except.ok.inj hentry
        exact ⟨steps, rfl, hplain, hwalk, hlook⟩
    · rintro ⟨front, hsplit, hplain, hwalk, hlook⟩
      obtain ⟨rfl, rfl⟩ : steps = front ∧ last = name := by simpa using hsplit
      refine ⟨here, hwalk, found?, hlook, ?_⟩
      rw [if_pos hplain]
      rfl

/-- A new entry is in a directory, at the place that the path stands for. -/
theorem newEntry_eq_ok (h : disk.newEntry path special = .ok (here, name, found?)) :
    disk.resolve path = here ++ [name] ∧
      ∃ entries, disk.root.at? here = some (.directory entries) ∧ entries.lookup name = found? := by
  obtain ⟨steps, hsteps, hplain, hwalk, hlook⟩ := newEntry_eq_ok_iff.1 h
  obtain ⟨hstay, hup⟩ := Path.isPlain_iff.1 hplain
  constructor
  · rw [resolve, hsteps, List.foldl_append, foldl_follow_of_walk hwalk, List.foldl_cons,
      List.foldl_nil, follow, if_neg hstay, if_neg hup]
  · exact (lookIn_eq_ok_iff.1 hlook).2

/-! ## Directories and files -/

theorem node?_put {entries : List (String × FileTree)} {new : FileTree} (hnew : new.IsLeaf)
    (hhere : disk.root.at? here = some (.directory entries))
    (hold : ∀ old, entries.lookup name = some old → old.IsLeaf) :
    (disk.put (here ++ [name]) new).node? =
      Function.update disk.node? (here ++ [name]) (some new.node) :=
  FileTree.node?_put hnew hhere hold

theorem node?_remove {entries : List (String × FileTree)}
    (hhere : disk.root.at? here = some (.directory entries))
    (hold : ∀ old, entries.lookup name = some old → old.IsLeaf) :
    (disk.remove (here ++ [name])).node? = Function.update disk.node? (here ++ [name]) none :=
  FileTree.node?_remove hhere hold

theorem node?_concat {entries : List (String × FileTree)}
    (hhere : disk.root.at? here = some (.directory entries)) :
    disk.node? (here ++ [name]) = (entries.lookup name).map FileTree.node :=
  FileTree.node?_concat hhere

theorem makeDirectory_eq_ok (h : disk.makeDirectory path = .ok last) :
    last.workingDirectory = disk.workingDirectory ∧ disk.node? (disk.resolve path) = none ∧
      last.node? = Function.update disk.node? (disk.resolve path) (some .directory) := by
  simp only [makeDirectory, guard_eq_ok_iff, bind_eq_ok_iff] at h
  obtain ⟨-, -, -, ⟨here, name, found?⟩, hentry, hnone, hlast⟩ := h
  obtain rfl : disk.put (here ++ [name]) .empty = last := Except.ok.inj hlast
  obtain ⟨hplace, entries, hhere, hlookup⟩ := newEntry_eq_ok hentry
  have habsent : entries.lookup name = none := by simpa [hlookup] using hnone
  rw [hplace, node?_concat hhere, habsent]
  exact ⟨rfl, rfl, node?_put FileTree.isLeaf_empty hhere (by simp [habsent])⟩

theorem replaceFile_eq_ok {bytes : List UInt8} (h : disk.replaceFile path bytes = .ok last) :
    last.workingDirectory = disk.workingDirectory ∧
      disk.node? (disk.resolve path) ≠ some .directory ∧
      last.node? = Function.update disk.node? (disk.resolve path) (some (.file bytes)) := by
  simp only [replaceFile, guard_eq_ok_iff, bind_eq_ok_iff] at h
  obtain ⟨-, -, -, ⟨here, name, found?⟩, hentry, -, hfile, hlast⟩ := h
  obtain rfl : disk.put (here ++ [name]) (.file bytes) = last := Except.ok.inj hlast
  obtain ⟨hplace, entries, hhere, hlookup⟩ := newEntry_eq_ok hentry
  have hleaf (old : FileTree) (hold : entries.lookup name = some old) :
      old.isDirectory = false := by
    rw [← hlookup, hold] at hfile
    simpa using hfile
  have hnode : (disk.put (here ++ [name]) (.file bytes)).node? =
      Function.update disk.node? (here ++ [name]) (some (.file bytes)) := by
    apply node?_put (FileTree.isLeaf_file bytes) hhere
    intro old hold
    exact FileTree.isLeaf_of_isDirectory_eq_false (hleaf old hold)
  have hbefore : disk.node? (here ++ [name]) ≠ some .directory := by
    rw [node?_concat hhere]
    intro hdirectory
    obtain ⟨old, hold, hnode⟩ := Option.map_eq_some_iff.1 hdirectory
    cases old with
    | file bytes => cases hnode
    | directory entries => cases hleaf _ hold
  rw [hplace]
  exact ⟨rfl, hbefore, hnode⟩

/-- Nothing is different but that directories were made where there was nothing. -/
structure GainsDirectories (disk last : Disk) : Prop where
  workingDirectory : last.workingDirectory = disk.workingDirectory
  node? (place : List String) : last.node? place = disk.node? place ∨
    disk.node? place = none ∧ last.node? place = some .directory

theorem GainsDirectories.refl (disk : Disk) : GainsDirectories disk disk :=
  ⟨rfl, fun _ ↦ .inl rfl⟩

theorem GainsDirectories.trans (hmid : GainsDirectories disk mid)
    (hlast : GainsDirectories mid last) : GainsDirectories disk last := by
  constructor
  · exact hlast.workingDirectory.trans hmid.workingDirectory
  · intro place
    rcases hlast.node? place with hsame | ⟨hnone, hmade⟩
    · rw [hsame]
      exact hmid.node? place
    · rcases hmid.node? place with hsame | ⟨-, hdirectory⟩
      · exact .inr ⟨hsame.symm.trans hnone, hmade⟩
      · -- what was made once is not made again
        simp [hnone] at hdirectory

instance : IsPreorder Disk GainsDirectories where
  refl := .refl
  trans _ _ _ hmid hlast := hmid.trans hlast

theorem GainsDirectories.files_eq (h : GainsDirectories disk last) : last.files = disk.files := by
  funext place
  rcases h.node? place with hsame | ⟨hnone, hmade⟩
  · rw [files, files, hsame]
  · rw [files, files, hnone, hmade]

theorem gainsDirectories_of_makeDirectory (h : disk.makeDirectory path = .ok last) :
    GainsDirectories disk last := by
  obtain ⟨hworking, hnone, hnode⟩ := makeDirectory_eq_ok h
  constructor
  · exact hworking
  · intro place
    rw [hnode]
    by_cases hplace : place = disk.resolve path
    · rw [hplace, Function.update_self]
      exact .inr ⟨hnone, rfl⟩
    · rw [Function.update_of_ne hplace]
      exact .inl rfl

/-- Only what is updated is different. -/
theorem eq_of_update_ne {β : Type} {f : List String → β} {other : List String} {new : β}
    (h : Function.update f place new other ≠ f other) : other = place := by
  by_contra hne
  exact h (Function.update_of_ne hne new f)

theorem files_eq_update {bytes : List UInt8}
    (h : last.node? = Function.update disk.node? place (some (.file bytes))) :
    last.files = Function.update disk.files place (some bytes) := by
  funext other
  rw [files, h]
  by_cases hplace : other = place
  · rw [hplace, Function.update_self, Function.update_self]
  · rw [Function.update_of_ne hplace, Function.update_of_ne hplace, files]

theorem files_of_replaceFile {bytes : List UInt8} (h : disk.replaceFile path bytes = .ok last) :
    last.files = Function.update disk.files (disk.resolve path) (some bytes) :=
  files_eq_update (replaceFile_eq_ok h).2.2

end Disk

/-! ## What operations come to -/

instance : LawfulMonad Tracked := LawfulMonad.mk' Tracked
  (fun _ ↦ by
    funext disk
    exact congrArg (Passage.mk _ _) (List.append_nil _))
  (fun _ _ ↦ rfl)
  (fun _ _ _ ↦ by
    funext disk
    exact congrArg (Passage.mk _ _) (List.append_assoc _ _ _))

namespace DiskAction

variable {ε δ α β : Type} {disk mid last : Disk}

@[simp]
theorem outcome_pure (a : α) : (pure a : DiskAction ε α).outcome disk = (.ok a, disk) := rfl

@[simp]
theorem outcome_throw (error : ε) :
    (throw error : DiskAction ε α).outcome disk = (.error error, disk) := rfl

@[simp]
theorem outcome_ofExcept (result : Except ε α) :
    (ofExcept result).outcome disk = (result, disk) := rfl

@[simp]
theorem outcome_set : (set last : DiskAction ε PUnit).outcome disk = (.ok ⟨⟩, last) := rfl

@[simp]
theorem outcome_modify (f : Disk → Disk) :
    (modify f : DiskAction ε PUnit).outcome disk = (.ok ⟨⟩, f disk) := rfl

@[simp]
theorem outcome_get_bind (f : Disk → DiskAction ε α) :
    (get >>= f).outcome disk = (f disk).outcome disk := rfl

@[simp]
theorem outcome_mapError (wrap : δ → ε) (action : DiskAction δ α) :
    (action.mapError wrap).outcome disk =
      ((action.outcome disk).1.mapError wrap, (action.outcome disk).2) := rfl

theorem outcome_mapError_eq_ok_iff {wrap : δ → ε} {action : DiskAction δ α} {a : α} :
    (action.mapError wrap).outcome disk = (.ok a, last) ↔ action.outcome disk = (.ok a, last) := by
  rw [outcome_mapError]
  rcases action.outcome disk with ⟨error | a', end'⟩ <;> simp

@[simp]
theorem trail_pure (a : α) : (pure a : DiskAction ε α).trail disk = [] := rfl

@[simp]
theorem trail_throw (error : ε) : (throw error : DiskAction ε α).trail disk = [] := rfl

@[simp]
theorem trail_ofExcept (result : Except ε α) : (ofExcept result).trail disk = [] := rfl

@[simp]
theorem trail_set : (set last : DiskAction ε PUnit).trail disk = [last] := rfl

@[simp]
theorem trail_modify (f : Disk → Disk) :
    (modify f : DiskAction ε PUnit).trail disk = [f disk] := rfl

@[simp]
theorem trail_get_bind (f : Disk → DiskAction ε α) :
    (get >>= f).trail disk = (f disk).trail disk := rfl

@[simp]
theorem trail_mapError (wrap : δ → ε) (action : DiskAction δ α) :
    (action.mapError wrap).trail disk = action.trail disk := rfl

section

variable {x : DiskAction ε α} {f : α → DiskAction ε β}

/-- What follows an operation goes on with its result from the disk that it leaves. -/
theorem run_mk_bind (x : DiskAction ε α) (f : Except ε α → Tracked (Except δ β)) (disk : Disk) :
    let action : DiskAction δ β := ExceptT.mk (x.run >>= f)
    let later : DiskAction δ β := ExceptT.mk (f (x.outcome disk).1)
    action.outcome disk = later.outcome (x.outcome disk).2 ∧
      action.trail disk = x.trail disk ++ later.trail (x.outcome disk).2 :=
  ⟨rfl, rfl⟩

theorem run_bind_of_ok {a : α} (h : x.outcome disk = (.ok a, mid)) :
    (x >>= f).outcome disk = (f a).outcome mid ∧
      (x >>= f).trail disk = x.trail disk ++ (f a).trail mid := by
  have hrun := run_mk_bind x (ExceptT.bindCont f) disk
  rw [h] at hrun
  exact hrun

theorem run_bind_of_error {error : ε} (h : x.outcome disk = (.error error, mid)) :
    (x >>= f).outcome disk = (.error error, mid) ∧ (x >>= f).trail disk = x.trail disk := by
  obtain ⟨houtcome, htrail⟩ := run_mk_bind x (ExceptT.bindCont f) disk
  rw [h] at houtcome htrail
  exact ⟨houtcome, htrail.trans (List.append_nil _)⟩

theorem outcome_bind_of_ok {a : α} (h : x.outcome disk = (.ok a, mid)) :
    (x >>= f).outcome disk = (f a).outcome mid :=
  (run_bind_of_ok h).1

theorem outcome_bind_of_error {error : ε} (h : x.outcome disk = (.error error, mid)) :
    (x >>= f).outcome disk = (.error error, mid) :=
  (run_bind_of_error h).1

theorem outcome_bind_eq_ok_iff {b : β} :
    (x >>= f).outcome disk = (.ok b, last) ↔
      ∃ a mid, x.outcome disk = (.ok a, mid) ∧ (f a).outcome mid = (.ok b, last) := by
  rcases hx : x.outcome disk with ⟨error | a, mid⟩
  · simp [outcome_bind_of_error hx]
  · simp [outcome_bind_of_ok hx]

theorem outcome_bind_eq_error_iff {error : ε} :
    (x >>= f).outcome disk = (.error error, last) ↔
      x.outcome disk = (.error error, last) ∨
        ∃ a mid, x.outcome disk = (.ok a, mid) ∧ (f a).outcome mid = (.error error, last) := by
  rcases hx : x.outcome disk with ⟨error | a, mid⟩
  · simp [outcome_bind_of_error hx]
  · simp [outcome_bind_of_ok hx]

end

section

variable {x : DiskAction ε α} {handler : ε → DiskAction ε α}

theorem run_tryCatch_of_ok {a : α} (h : x.outcome disk = (.ok a, last)) :
    (tryCatch x handler).outcome disk = (.ok a, last) ∧
      (tryCatch x handler).trail disk = x.trail disk := by
  obtain ⟨houtcome, htrail⟩ := run_mk_bind x
    (fun
      | .ok a => pure (.ok a)
      | .error error => handler error) disk
  rw [h] at houtcome htrail
  exact ⟨houtcome, htrail.trans (List.append_nil _)⟩

theorem run_tryCatch_of_error {error : ε} (h : x.outcome disk = (.error error, mid)) :
    (tryCatch x handler).outcome disk = (handler error).outcome mid ∧
      (tryCatch x handler).trail disk = x.trail disk ++ (handler error).trail mid := by
  have hrun := run_mk_bind x
    (fun
      | .ok a => pure (.ok a)
      | .error error => handler error) disk
  rw [h] at hrun
  exact hrun

end

/-- A failure behind an operation changes nothing more. -/
theorem run_bind_throw (x : DiskAction ε α) (error : ε) (disk : Disk) :
    ((x >>= fun _ ↦ (throw error : DiskAction ε β)).outcome disk).2 = (x.outcome disk).2 ∧
      (x >>= fun _ ↦ (throw error : DiskAction ε β)).trail disk = x.trail disk := by
  rcases h : x.outcome disk with ⟨error' | a, mid⟩
  · obtain ⟨houtcome, htrail⟩ := run_bind_of_error (f := fun _ ↦ (throw error : DiskAction ε β)) h
    rw [houtcome, htrail]
    exact ⟨rfl, rfl⟩
  · obtain ⟨houtcome, htrail⟩ := run_bind_of_ok (f := fun _ ↦ (throw error : DiskAction ε β)) h
    rw [houtcome, htrail, outcome_throw, trail_throw, List.append_nil]
    exact ⟨rfl, rfl⟩

/-! ## Relations between disks -/

/-- An operation takes every disk to a related one, whatever it comes to. -/
def Respects (R : Disk → Disk → Prop) (action : DiskAction ε α) : Prop :=
  ∀ disk, R disk (action.outcome disk).2

/-- An operation only brings about disks that are related to the one before it. -/
def Passes (R : Disk → Disk → Prop) (action : DiskAction ε α) : Prop :=
  ∀ disk, ∀ mid ∈ action.trail disk, R disk mid

section

variable {R : Disk → Disk → Prop} [IsPreorder Disk R]

theorem respects_pure (a : α) : (pure a : DiskAction ε α).Respects R :=
  fun disk ↦ refl_of R disk

theorem respects_throw (error : ε) : (throw error : DiskAction ε α).Respects R :=
  fun disk ↦ refl_of R disk

theorem respects_ofExcept (result : Except ε α) : (ofExcept result).Respects R :=
  fun disk ↦ refl_of R disk

theorem Respects.bind {x : DiskAction ε α} {f : α → DiskAction ε β} (hx : x.Respects R)
    (hf : ∀ a, (f a).Respects R) : (x >>= f).Respects R := by
  intro disk
  have hfirst := hx disk
  rcases hrun : x.outcome disk with ⟨error | a, mid⟩ <;> rw [hrun] at hfirst
  · rw [outcome_bind_of_error hrun]
    exact hfirst
  · rw [outcome_bind_of_ok hrun]
    exact trans_of R hfirst (hf a mid)

theorem respects_forM {f : α → DiskAction ε PUnit} (hf : ∀ a, (f a).Respects R) (as : List α) :
    (forM as f).Respects R := by
  induction as with
  | nil => exact respects_pure PUnit.unit
  | cons a as ih =>
    rw [List.forM_cons]
    exact (hf a).bind fun _ ↦ ih

end

section

variable {R : Disk → Disk → Prop}

theorem passes_of_trail_eq_nil {action : DiskAction ε α} (h : ∀ disk, action.trail disk = []) :
    action.Passes R := by
  intro disk mid hmid
  rw [h] at hmid
  cases hmid

theorem passes_pure (a : α) : (pure a : DiskAction ε α).Passes R :=
  passes_of_trail_eq_nil fun _ ↦ rfl

theorem passes_throw (error : ε) : (throw error : DiskAction ε α).Passes R :=
  passes_of_trail_eq_nil fun _ ↦ rfl

theorem passes_ofExcept (result : Except ε α) : (ofExcept result).Passes R :=
  passes_of_trail_eq_nil fun _ ↦ rfl

variable [IsPreorder Disk R]

theorem Passes.bind {x : DiskAction ε α} {f : α → DiskAction ε β} (hx : x.Passes R)
    (hlast : x.Respects R) (hf : ∀ a, (f a).Passes R) : (x >>= f).Passes R := by
  intro disk mid hmid
  have hfirst := hlast disk
  rcases hrun : x.outcome disk with ⟨error | a, next⟩ <;> rw [hrun] at hfirst
  · rw [(run_bind_of_error hrun).2] at hmid
    exact hx disk mid hmid
  · rw [(run_bind_of_ok hrun).2] at hmid
    rcases List.mem_append.1 hmid with hmid | hmid
    · exact hx disk mid hmid
    · exact trans_of R hfirst (hf a next mid hmid)

theorem passes_forM {f : α → DiskAction ε PUnit} {as : List α} (hf : ∀ a ∈ as, (f a).Passes R)
    (hlast : ∀ a, (f a).Respects R) : (forM as f).Passes R := by
  induction as with
  | nil => exact passes_pure PUnit.unit
  | cons a as ih =>
    rw [List.forM_cons]
    refine (hf a List.mem_cons_self).bind (hlast a) fun _ ↦ ?_
    exact ih fun b hb ↦ hf b (List.mem_cons_of_mem a hb)

end

end DiskAction

namespace FileAction

open Disk DiskAction

variable {disk mid last : Disk} {path : Path} {R : Disk → Disk → Prop}

/-! ## Operations that may make directories -/

theorem outcome_change_eq_ok_iff {operation : Disk → Except FileError Disk} :
    (change operation).outcome disk = (.ok (), last) ↔ operation disk = .ok last := by
  rw [change, outcome_get_bind]
  cases operation disk <;> simp

theorem outcome_change_eq_error_iff {operation : Disk → Except FileError Disk}
    {reason : FileError} :
    (change operation).outcome disk = (.error reason, last) ↔
      operation disk = .error reason ∧ disk = last := by
  rw [change, outcome_get_bind]
  cases operation disk <;> simp

/-- To make a directory again where one is, is no error, and changes nothing. -/
theorem last_accept (path : Path) (reason : FileError) (disk : Disk) :
    ((if disk.isDirectory path then pure () else throw reason : FileAction Unit).outcome disk).2 =
      disk := by
  split_ifs <;> rfl

theorem trail_accept (path : Path) (reason : FileError) (disk : Disk) :
    (if disk.isDirectory path then pure () else throw reason : FileAction Unit).trail disk =
      [] := by
  split_ifs <;> rfl

section

variable [IsPreorder Disk R] {makeParents : FileAction Unit}

/-- What is kept by making the directory itself and its parents is kept by making both. -/
theorem respects_makeWith (hmake : ∀ disk last, disk.makeDirectory path = .ok last → R disk last)
    (hparents : makeParents.Respects R) : (makeWith path makeParents).Respects R := by
  intro disk
  unfold makeWith
  rw [outcome_get_bind]
  split
  · next made hmade => exact hmake disk made hmade
  · -- only a missing parent is made up for, and the directory is tried once more
    have hmid := hparents disk
    rcases hrun : makeParents.outcome disk with ⟨reason | _, mid⟩ <;> rw [hrun] at hmid
    · rw [outcome_bind_of_error hrun]
      exact hmid
    · rw [outcome_bind_of_ok hrun, outcome_get_bind]
      refine trans_of R hmid ?_
      split
      · next made hmade => exact hmake mid made hmade
      · rw [outcome_get_bind, last_accept]
        exact refl_of R mid
  · rw [outcome_get_bind, last_accept]
    exact refl_of R disk

theorem passes_makeWith (hmake : ∀ disk last, disk.makeDirectory path = .ok last → R disk last)
    (hparents : makeParents.Respects R) (hpasses : makeParents.Passes R) :
    (makeWith path makeParents).Passes R := by
  have hset {disk last : Disk} (hlast : R disk last) :
      ∀ mid ∈ (set last : FileAction PUnit).trail disk, R disk mid := by
    simpa using hlast
  have haccept (reason : FileError) : (get >>= fun disk ↦ if disk.isDirectory path then pure ()
      else throw reason : FileAction Unit).Passes R :=
    passes_of_trail_eq_nil fun disk ↦ trail_accept path reason disk
  intro disk
  unfold makeWith
  rw [trail_get_bind]
  split
  · next made hmade => exact hset (hmake disk made hmade)
  · refine hpasses.bind hparents (fun _ mid ↦ ?_) disk
    rw [trail_get_bind]
    split
    · next made hmade => exact hset (hmake mid made hmade)
    · exact haccept _ mid
  · exact haccept _ disk

theorem respects_ensureComponents (absolute : Bool) (components : List String)
    (hmake : ∀ path disk last, Disk.makeDirectory disk path = .ok last → R disk last) :
    (ensureComponents absolute components).Respects R := by
  induction components with
  | nil => exact respects_pure ()
  | cons name above ih => exact respects_makeWith (hmake _) ih

theorem passes_ensureComponents (absolute : Bool) (components : List String)
    (hmake : ∀ path disk last, Disk.makeDirectory disk path = .ok last → R disk last) :
    (ensureComponents absolute components).Passes R := by
  induction components with
  | nil => exact passes_pure ()
  | cons name above ih =>
    exact passes_makeWith (hmake _) (respects_ensureComponents absolute above hmake) ih

end

theorem gains_ensureDirectory (path : Path) : (ensureDirectory path).Respects GainsDirectories := by
  unfold ensureDirectory
  split_ifs
  · exact respects_pure ()
  · exact respects_makeWith (fun _ _ ↦ gainsDirectories_of_makeDirectory)
      (respects_ensureComponents _ _ fun _ _ _ ↦ gainsDirectories_of_makeDirectory)

theorem passes_gains_ensureDirectory (path : Path) :
    (ensureDirectory path).Passes GainsDirectories := by
  have hmake (path : Path) (disk last : Disk) (h : disk.makeDirectory path = .ok last) :
      GainsDirectories disk last := gainsDirectories_of_makeDirectory h
  unfold ensureDirectory
  split_ifs
  · exact passes_pure ()
  · exact passes_makeWith (hmake path) (respects_ensureComponents _ _ hmake)
      (passes_ensureComponents _ _ hmake)

section

variable {absolute : Bool} {components : List String} {count : Nat} {reason : FileError}

theorem ensureSome_ne_ok : (ensureSome absolute components count reason).outcome disk ≠
    (.ok (), last) := by
  intro h
  obtain ⟨_, mid, -, hthrow⟩ := outcome_bind_eq_ok_iff.1 h
  cases hthrow

variable (absolute components count reason)

theorem run_ensureSome (disk : Disk) :
    let inner := Path.ofComponents absolute (components.take count)
    ((ensureSome absolute components count reason).outcome disk).2 =
        ((ensureDirectory inner).outcome disk).2 ∧
      (ensureSome absolute components count reason).trail disk =
        (ensureDirectory inner).trail disk :=
  run_bind_throw _ reason disk

theorem gains_ensureSome :
    (ensureSome absolute components count reason).Respects GainsDirectories := by
  intro disk
  rw [(run_ensureSome absolute components count reason disk).1]
  exact gains_ensureDirectory _ disk

theorem passes_gains_ensureSome :
    (ensureSome absolute components count reason).Passes GainsDirectories := by
  intro disk
  rw [(run_ensureSome absolute components count reason disk).2]
  exact passes_gains_ensureDirectory _ disk

end

end FileAction

end WebScaffold

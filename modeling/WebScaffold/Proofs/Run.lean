import Mathlib.Tactic.Common
import WebScaffold.Proofs.Disk
import WebScaffold.Run

/-!
# What runs come to

The outcome of each way to build a run. A sequence succeeds exactly when its parts do, each on the
disk that the one before it left; a failure ends it with the disk as it was then. Its warnings are
those of its parts.
-/

namespace WebScaffold.Run

variable {ε α β : Type} {disk : Disk}

@[simp]
theorem outcome_pure (a : α) : (pure a : Run ε α).outcome disk = pure (.ok a, disk) := rfl

@[simp]
theorem outcome_throw (error : ε) : (throw error : Run ε α).outcome disk = pure (.error error, disk) :=
  rfl

@[simp]
theorem outcome_ofExcept (result : Except ε α) :
    (ofExcept result).outcome disk = pure (result, disk) := rfl

@[simp]
theorem outcome_reading (look : Disk → Except ε α) :
    (reading look).outcome disk = pure (look disk, disk) := rfl

theorem outcome_reading_of_ok {look : Disk → Except ε α} {a : α} (h : look disk = .ok a) :
    ((reading look).outcome disk).value = (.ok a, disk) := by
  rw [outcome_reading, h]
  rfl

@[simp]
theorem outcome_noting_value (result : Noted α) :
    ((noting result : Run ε α).outcome disk).value = (.ok result.value, disk) := rfl

@[simp]
theorem outcome_noting_warnings (result : Noted α) :
    ((noting result : Run ε α).outcome disk).warnings = result.warnings :=
  List.append_nil _

@[simp]
theorem outcome_ofDisk (action : DiskAction ε α) :
    (ofDisk action).outcome disk = pure (action.outcome disk) := rfl

@[simp]
theorem outcome_ofDisk_value (action : DiskAction ε α) :
    ((ofDisk action).outcome disk).value = action.outcome disk := rfl

theorem outcome_mapError_value {δ : Type} (wrap : δ → ε) (action : Run δ α) :
    ((mapError wrap action).outcome disk).value =
      ((action.outcome disk).value.1.mapError wrap, (action.outcome disk).value.2) := rfl

theorem outcome_ofFiles_value (wrap : FileError → ε) (action : FileAction α) :
    ((ofFiles wrap action).outcome disk).value =
      ((action.outcome disk).1.mapError wrap, (action.outcome disk).2) := rfl

section

variable {x : Run ε α} {f : α → Run ε β}

theorem outcome_bind_of_ok {a : α} {mid : Disk} (h : (x.outcome disk).value = (.ok a, mid)) :
    ((x >>= f).outcome disk).value = ((f a).outcome mid).value := by
  change (ExceptT.bindCont f (x.outcome disk).value.1 (x.outcome disk).value.2).value = _
  rw [h]
  rfl

theorem outcome_bind_of_error {error : ε} {mid : Disk}
    (h : (x.outcome disk).value = (.error error, mid)) :
    ((x >>= f).outcome disk).value = (.error error, mid) := by
  change (ExceptT.bindCont f (x.outcome disk).value.1 (x.outcome disk).value.2).value = _
  rw [h]
  rfl

theorem warnings_bind_of_ok {a : α} {mid : Disk} (h : (x.outcome disk).value = (.ok a, mid)) :
    ((x >>= f).outcome disk).warnings =
      (x.outcome disk).warnings ++ ((f a).outcome mid).warnings := by
  change (x.outcome disk).warnings ++
    (ExceptT.bindCont f (x.outcome disk).value.1 (x.outcome disk).value.2).warnings = _
  rw [h]
  rfl

theorem warnings_bind_of_error {error : ε} {mid : Disk}
    (h : (x.outcome disk).value = (.error error, mid)) :
    ((x >>= f).outcome disk).warnings = (x.outcome disk).warnings := by
  change (x.outcome disk).warnings ++
    (ExceptT.bindCont f (x.outcome disk).value.1 (x.outcome disk).value.2).warnings = _
  rw [h]
  exact List.append_nil _

theorem outcome_bind_eq_ok_iff {b : β} {last : Disk} :
    ((x >>= f).outcome disk).value = (.ok b, last) ↔
      ∃ a mid, (x.outcome disk).value = (.ok a, mid) ∧
        ((f a).outcome mid).value = (.ok b, last) := by
  constructor
  · intro h
    rcases hx : (x.outcome disk).value with ⟨result, mid⟩
    cases result with
    | error error =>
      rw [outcome_bind_of_error hx] at h
      simp at h
    | ok a =>
      rw [outcome_bind_of_ok hx] at h
      exact ⟨a, mid, rfl, h⟩
  · rintro ⟨a, mid, hx, hf⟩
    rw [outcome_bind_of_ok hx, hf]

end

/-- Whether a run succeeds can be found out by running it. -/
theorem exists_eq_ok (action : Run ε α) (disk : Disk)
    (h : (action.outcome disk).value.1.toOption.isSome) :
    ∃ a last, (action.outcome disk).value = (.ok a, last) := by
  obtain ⟨a, ha⟩ := exists_eq_ok_of_isSome h
  exact ⟨a, _, Prod.ext ha rfl⟩

/-! ## Kinds of warnings -/

/-- A run gives no warnings but those of a kind, whatever it comes to. -/
def Warns (P : Warning → Prop) (action : Run ε α) : Prop :=
  ∀ disk, ∀ warning ∈ (action.outcome disk).warnings, P warning

section

variable {P : Warning → Prop}

theorem warns_of_silent {action : Run ε α} (h : ∀ disk, (action.outcome disk).warnings = []) :
    action.Warns P := by
  intro disk warning hwarning
  rw [h disk] at hwarning
  cases hwarning

theorem warns_noting {result : Noted α} (h : ∀ warning ∈ result.warnings, P warning) :
    (noting result : Run ε α).Warns P := by
  intro disk
  rw [outcome_noting_warnings]
  exact h

theorem Warns.mapError {δ : Type} {action : Run δ α} (h : action.Warns P) (wrap : δ → ε) :
    (mapError wrap action).Warns P := by
  intro disk
  have hsame :
      ((Run.mapError wrap action).outcome disk).warnings = (action.outcome disk).warnings :=
    List.append_nil _
  rw [hsame]
  exact h disk

theorem Warns.bind {x : Run ε α} {f : α → Run ε β} (hx : x.Warns P) (hf : ∀ a, (f a).Warns P) :
    (x >>= f).Warns P := by
  intro disk
  rcases hrun : (x.outcome disk).value with ⟨error | a, mid⟩
  · rw [warnings_bind_of_error hrun]
    exact hx disk
  · rw [warnings_bind_of_ok hrun]
    exact List.forall_mem_append.2 ⟨hx disk, hf a mid⟩

end

end WebScaffold.Run

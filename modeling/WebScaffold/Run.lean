import WebScaffold.File.Staging
import WebScaffold.Noted

/-!
# Runs

What the steps of making a project have in common: a step works on a disk, may give warnings and may
fail. A failing step keeps what it wrote and the warnings it gave.
-/

namespace WebScaffold

abbrev Run (ε α : Type) := ExceptT ε (StateT Disk Noted) α

namespace Run

variable {ε δ α : Type}

/-- The outcome of a run from a disk, and the disk that it leaves. -/
def outcome (action : Run ε α) (disk : Disk) : Noted (Except ε α × Disk) :=
  action.run disk

/-- A result that only gives warnings. -/
def noting (result : Noted α) : Run ε α :=
  fun disk ↦ do
    let value ← result
    return (.ok value, disk)

/-- An operation on the disk alone. -/
def ofDisk (action : DiskAction ε α) : Run ε α :=
  fun disk ↦ pure (action.outcome disk)

/-- An operation on files whose errors are told by `wrap`. -/
def ofFiles (wrap : FileError → ε) (action : FileAction α) : Run ε α :=
  ofDisk (action.mapError wrap)

/-- The same step with another account of its errors. -/
def mapError (wrap : δ → ε) (action : Run δ α) : Run ε α :=
  fun disk ↦ do
    let (result, disk) ← action.run disk
    return (result.mapError wrap, disk)

/-- A result that may be an error. -/
def ofExcept (result : Except ε α) : Run ε α :=
  fun disk ↦ pure (result, disk)

/-- What can be read off the disk. -/
def reading (look : Disk → Except ε α) : Run ε α :=
  fun disk ↦ pure (look disk, disk)

end Run

end WebScaffold

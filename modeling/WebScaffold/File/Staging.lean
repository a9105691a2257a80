import WebScaffold.File.Disk

/-!
# Writing files as a whole

A file is written under another name beside its place and moved there when all of it is written. So
a path has its old content up to the moment in which it has the new one. The name is up to the
system, and so is whether each of the steps succeeds; a step that fails is reported after the file
under the other name was removed.
-/

namespace WebScaffold

/-- What the system does about the writing of a file that the disk does not decide. A step with an
error fails with it, although nothing on the disk is in its way. -/
structure Staging where
  /-- A name for the temporary file, beside the names that are in its directory. -/
  nameBeside : List String → String
  /-- The error when the parents are made, and how many of them, from the outermost one on, are
  made before it. -/
  parentsError : Option (Nat × FileError) := none
  openError : Option FileError := none
  /-- The error when the file is written, and how many bytes are written before it. -/
  fillError : Option (Nat × FileError) := none
  moveError : Option FileError := none

namespace Staging

/-- A usual name of a temporary file, told by its length. -/
def temporaryName (number : Nat) : String :=
  ".tmp" ++ String.ofList (List.replicate number 'x')

/-- The first usual name that is not taken. -/
def freshName (taken : List String) : String :=
  (((List.range (taken.length + 1)).map temporaryName).find? (· ∉ taken)).getD (temporaryName 0)

/-- Nothing fails that the disk allows. -/
def usual : Staging where
  nameBeside := freshName

end Staging

/-- A place for a new file in a directory. -/
def Disk.freePlace (disk : Disk) (directory : Path) (nameBeside : List String → String) :
    Except FileError (List String) := do
  let here ← disk.walk (disk.start directory) directory.steps
  match disk.root.at? here with
  | some (.directory entries) =>
    let name := nameBeside (entries.map (·.1))
    if !Path.isName name then throw .invalidArgument
    if (entries.lookup name).isSome then throw .alreadyThere
    return here ++ [name]
  | some (.file _) => throw .notDirectory
  | none => throw .missing

namespace FileAction

/-- Fails if there is an error to fail with. -/
def check : Option FileError → FileAction Unit
  | some reason => throw reason
  | none => pure ()

/-- Makes the directories that a path is in. -/
def makeParents (staging : Staging) (path : Path) : FileAction Unit :=
  match staging.parentsError with
  | some (count, reason) => ensureSome path.isAbsolute path.components.dropLast count reason
  | none => ensureDirectory (path.parent?.getD ⟨Path.stay⟩)

/-- Makes an empty file in a directory, and finds out its place. -/
def openTemporary (staging : Staging) (directory : Path) : FileAction (List String) := do
  check staging.openError
  match (← get).freePlace directory staging.nameBeside with
  | .ok place => do
    modify (·.put place (.file []))
    return place
  | .error reason => throw reason

/-- Writes bytes into the file at a place. -/
def fill (staging : Staging) (place : List String) (bytes : List UInt8) : FileAction Unit := do
  let count := (staging.fillError.map (·.1)).getD bytes.length
  modify (·.put place (.file (bytes.take count)))
  check (staging.fillError.map (·.2))

/-- Moves the file at a place to a path. -/
def persist (staging : Staging) (place : List String) (path : Path) : FileAction Unit := do
  check staging.moveError
  change (·.moveFile place path)

/-- Removes the file at a place if an operation on it fails. -/
def orRemove (place : List String) (action : FileAction Unit) : FileAction Unit :=
  tryCatch action fun reason ↦ do
    modify (·.remove place)
    throw reason

/-- Writes a file as a whole; directories are made on demand. -/
def writeStaged (staging : Staging) (path : Path) (bytes : List UInt8) : FileAction Unit := do
  makeParents staging path
  let place ← openTemporary staging (path.parent?.getD ⟨Path.stay⟩)
  orRemove place do
    fill staging place bytes
    persist staging place path

def writeFile (path : Path) (bytes : List UInt8) : FileAction Unit :=
  writeStaged .usual path bytes

end FileAction

end WebScaffold

import WebScaffold.File.Error
import WebScaffold.File.Path
import WebScaffold.File.Tree

/-!
# Disks

The files that a run works on and the directory it works in. An operation on paths walks along the
steps of the path first, as far as there are directories, and reports where it cannot go on. A file
takes the place of another one as a whole, and a failure leaves what is there as it was.
-/

namespace WebScaffold

structure Disk where
  root : FileTree
  /-- The place from which relative paths start. -/
  workingDirectory : List String
deriving Repr, Inhabited

namespace Disk

def longestName : Nat := 255

def longestPath : Nat := 4095

/-- The place where a walk along a path starts. -/
def start (disk : Disk) (path : Path) : List String :=
  if path.isAbsolute then [] else disk.workingDirectory

/-- The entry under a name of the directory at a place. -/
def lookIn (disk : Disk) (here : List String) (name : String) :
    Except FileError (Option FileTree) :=
  match disk.root.at? here with
  | some (.directory entries) =>
    if longestName < name.utf8ByteSize then .error .nameTooLong else .ok (entries.lookup name)
  | some (.file _) => .error .notDirectory
  | none => .error .missing

/-- One step of a walk. -/
def step (disk : Disk) (here : List String) (name : String) : Except FileError (List String) :=
  match disk.lookIn here name with
  | .error reason => .error reason
  | .ok entry? =>
    if name = Path.stay then .ok here
    else if name = Path.up then .ok here.dropLast
    else if entry?.isSome then .ok (here ++ [name])
    else .error .missing

def walk (disk : Disk) (here : List String) (names : List String) :
    Except FileError (List String) :=
  names.foldlM disk.step here

/-- Refuses paths that no file can have. -/
def checkPath (path : Path) : Except FileError Unit :=
  if longestPath < path.text.utf8ByteSize then .error .nameTooLong
  else if path.text = "" then .error .missing
  else .ok ()

/-- What a path leads to. -/
def find (disk : Disk) (path : Path) : Except FileError FileTree := do
  if '\x00' ∈ path.text.toList then throw .nulInPath
  checkPath path
  let place ← disk.walk (disk.start path) path.steps
  match disk.root.at? place with
  | some (.file bytes) => if path.endsInSlash then throw .notDirectory else return .file bytes
  | some tree => return tree
  | none => throw .missing

def isDirectory (disk : Disk) (path : Path) : Bool :=
  match disk.find path with
  | .ok tree => tree.isDirectory
  | .error _ => false

def read (disk : Disk) (path : Path) : Except FileError (List UInt8) := do
  match ← disk.find path with
  | .file bytes => return bytes
  | .directory _ => throw .isDirectory

/-- The text of a file. -/
def readText (disk : Disk) (path : Path) : Except FileError String := do
  let bytes ← disk.read path
  match String.fromUTF8? ⟨bytes.toArray⟩ with
  | some text => return text
  | none => throw .notUtf8

def put (disk : Disk) (place : List String) (tree : FileTree) : Disk :=
  { disk with root := FileTree.put tree place disk.root }

def remove (disk : Disk) (place : List String) : Disk :=
  { disk with root := disk.root.remove place }

/-- The directory and the name that a new entry gets; `special` is the error for a path that does
not end in a name. -/
def newEntry (disk : Disk) (path : Path) (special : FileError) :
    Except FileError (List String × String × Option FileTree) := do
  match path.steps.getLast? with
  | none => throw special
  | some name =>
    let here ← disk.walk (disk.start path) path.steps.dropLast
    let entry? ← disk.lookIn here name
    if Path.isPlain name then return (here, name, entry?) else throw special

/-- Makes a directory in one that is there. -/
def makeDirectory (disk : Disk) (path : Path) : Except FileError Disk := do
  if '\x00' ∈ path.text.toList then throw .nulInPath
  checkPath path
  let (here, name, entry?) ← disk.newEntry path .alreadyThere
  if entry?.isSome then throw .alreadyThere
  return disk.put (here ++ [name]) .empty

/-- Puts a file with the given content in the place of whatever file is there. -/
def replaceFile (disk : Disk) (path : Path) (bytes : List UInt8) : Except FileError Disk := do
  if '\x00' ∈ path.text.toList then throw .invalidArgument
  checkPath path
  let (here, name, entry?) ← disk.newEntry path .busy
  if path.endsInSlash then throw .notDirectory
  if entry?.any FileTree.isDirectory then throw .isDirectory
  return disk.put (here ++ [name]) (.file bytes)

/-- Moves the file at a place to a path, in the place of whatever file is there. -/
def moveFile (disk : Disk) (place : List String) (path : Path) : Except FileError Disk :=
  match disk.root.at? place with
  | some (.file bytes) => (disk.remove place).replaceFile path bytes
  | some (.directory _) => .error .isDirectory
  | none => .error .missing

end Disk

/-! ## Operations -/

/-- What comes of a computation on a disk. -/
structure Passage (α : Type) where
  value : α
  /-- The disk in the end. -/
  last : Disk
  /-- Every disk that the computation brought about, in order. -/
  trail : List Disk

/-- A computation on a disk that keeps account of each of its changes. -/
def Tracked (α : Type) : Type :=
  Disk → Passage α

instance : Monad Tracked where
  pure a := fun disk ↦ ⟨a, disk, []⟩
  bind x f := fun disk ↦
    let first := x disk
    let second := f first.value first.last
    { second with trail := first.trail ++ second.trail }

instance : MonadStateOf Disk Tracked where
  get := fun disk ↦ ⟨disk, disk, []⟩
  set last := fun _ ↦ ⟨⟨⟩, last, [last]⟩
  modifyGet f := fun disk ↦
    let (a, last) := f disk
    ⟨a, last, [last]⟩

/-- An operation that may fail; what it did before stays done. -/
abbrev DiskAction (ε α : Type) := ExceptT ε Tracked α

abbrev FileAction := DiskAction FileError

namespace DiskAction

variable {ε δ α : Type}

/-- What an operation comes to on a disk, and the disk that it leaves. -/
def outcome (action : DiskAction ε α) (disk : Disk) : Except ε α × Disk :=
  let passage : Passage (Except ε α) := action.run disk
  (passage.value, passage.last)

/-- The disks that an operation brings about, in order. -/
def trail (action : DiskAction ε α) (disk : Disk) : List Disk :=
  let passage : Passage (Except ε α) := action.run disk
  passage.trail

/-- A result that may be an error. -/
def ofExcept (result : Except ε α) : DiskAction ε α :=
  fun disk ↦ ⟨result, disk, []⟩

/-- The same operation with another account of its errors. -/
def mapError (wrap : δ → ε) (action : DiskAction δ α) : DiskAction ε α :=
  fun disk ↦
    let passage : Passage (Except δ α) := action.run disk
    ⟨passage.value.mapError wrap, passage.last, passage.trail⟩

end DiskAction

namespace FileAction

/-- Runs an operation that changes the disk only if it succeeds. -/
def change (operation : Disk → Except FileError Disk) : FileAction Unit := do
  match operation (← get) with
  | .ok disk => set disk
  | .error reason => throw reason

/-- Makes a directory, unless it is there; `makeParents` is run when its parent is missing. -/
def makeWith (path : Path) (makeParents : FileAction Unit) : FileAction Unit := do
  let accept (reason : FileError) : FileAction Unit := do
    if (← get).isDirectory path then pure () else throw reason
  match (← get).makeDirectory path with
  | .ok disk => set disk
  | .error .missing => do
    makeParents
    match (← get).makeDirectory path with
    | .ok disk => set disk
    | .error reason => accept reason
  | .error reason => accept reason

/-- Makes the directory with the given components, which are listed from the inside out. -/
def ensureComponents (absolute : Bool) : List String → FileAction Unit
  | [] => pure ()
  | name :: above =>
    makeWith (Path.ofComponents absolute (name :: above).reverse) (ensureComponents absolute above)

/-- Makes a directory and all the directories it is in, as far as they are missing. -/
def ensureDirectory (path : Path) : FileAction Unit :=
  if path.text = "" then pure ()
  else makeWith path (ensureComponents path.isAbsolute (path.components.reverse.drop 1))

/-- Makes the directory that some of the given components lead to, from the outermost one on, and
fails. -/
def ensureSome (absolute : Bool) (components : List String) (count : Nat) (reason : FileError) :
    FileAction Unit := do
  ensureDirectory (Path.ofComponents absolute (components.take count))
  throw reason

end FileAction

end WebScaffold

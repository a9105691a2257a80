import WebScaffold.CommandLine.Program

/-!
# Entry point

Carries a run of the program out: the files that the arguments name are put on a disk, the run is
computed, and what it wrote is stored. Neither a network nor other commands are reached from here,
so only the offline generator can answer.
-/

namespace WebScaffold

/-- The variables of the environment that options are filled in from. -/
def optionVariables : List String :=
  ["MODEL_PROVIDER", "OPENAI_API_KEY", "OPENAI_MODEL", "OPENAI_BASE_URL", "CLAUDE_MODEL"]

def readEnvironment : IO (List (String × String)) :=
  optionVariables.filterMapM fun name ↦ do
    return (← IO.getEnv name).map fun value ↦ (name, value)

/-- The disk with the file at a path, if there is such a file. -/
def loadFile (disk : Disk) (path : Path) : IO Disk := do
  try
    let content ← IO.FS.readBinFile path.text
    return ((FileAction.writeFile path content.toList).outcome disk).2
  catch _ => return disk

/-- A disk with nothing but the directory that the run works in. -/
def emptyDisk : IO Disk := do
  let here ← IO.currentDir
  let path : Path := ⟨here.toString⟩
  let (_, disk) := (FileAction.ensureDirectory path).outcome ⟨.empty, []⟩
  return { disk with workingDirectory := path.steps }

/-- Stores a file, with the directories it is in. -/
def storeFile (path : String) (bytes : List UInt8) : IO Unit := do
  IO.FS.createDirAll ((Path.parent? ⟨path⟩).getD ⟨Path.stay⟩).text
  IO.FS.writeBinFile path ⟨bytes.toArray⟩

/-- Stores the files of a disk that were not there before. -/
def storeChanges (before left : Disk) : IO Unit :=
  let old := before.root.filesUnder ""
  ((left.root.filesUnder "").filter (· ∉ old)).forM fun (path, bytes) ↦ storeFile path bytes

end WebScaffold

open WebScaffold CommandLine in
def main (arguments : List String) : IO UInt32 := do
  let environment ← readEnvironment
  let empty ← emptyDisk
  let (named, asks) :=
    match request arguments environment with
    | .run options =>
      (options.spec.toList ++ options.settings.toList, options.idea.isNone && options.spec.isNone)
    | _ => ([], false)
  let disk ← named.foldlM loadFile empty
  let input ← if asks then (← IO.getStdin).readBinToEnd else pure .empty
  let run := runProgram arguments environment .isolated ⟨fun _ ↦ false, fun _ _ ↦ 0⟩
    input.toList disk
  let (result, left) := run.value
  run.warnings.forM fun warning ↦ IO.eprintln ("warning: " ++ warning.message)
  storeChanges disk left
  IO.print result.output
  IO.eprint result.errors
  return result.code.toUInt32

import WebScaffold.Artifact.DatabaseSchema
import WebScaffold.Artifact.Hosting
import WebScaffold.Artifact.PackageManifest
import WebScaffold.Artifact.PageModule
import WebScaffold.Artifact.SampleRows
import WebScaffold.Artifact.SignIn
import WebScaffold.Run
import WebScaffold.Template.Library

/-!
# Scaffolding

Writes the files of a plan into a directory: first the planned files in their order, then the files
that are generated from the specification as a whole, the manifest last. The first file that cannot
be written ends the run; no file is ever written outside the directory.
-/

namespace WebScaffold

inductive ScaffoldError where
  | unsupportedBlueprint (blueprint : Blueprint)
  | missingTemplate (id : String)
  | write (path : Path) (cause : FileError)
deriving DecidableEq, Repr

def ScaffoldError.message : ScaffoldError → String
  | unsupportedBlueprint blueprint =>
    "blueprint '" ++ Variant.name blueprint ++
      "' is not supported yet; only web_app can be scaffolded"
  | missingTemplate id => "template not found: " ++ id
  | write path cause => "failed to write " ++ path.text ++ ": " ++ cause.message

structure WrittenProject where
  /-- The directory of the project. -/
  root : Path
  /-- The paths of the written files, in order. -/
  paths : List String
deriving DecidableEq, Repr

/-- Whether what a planned file is made of is there. -/
def PlannedFile.isAvailable (file : PlannedFile) : Bool :=
  match file.source with
  | .page _ => true
  | .template id => (Template.find? id).isSome

/-- The plan without the files whose template is not in the library. -/
def ProjectPlan.available (plan : ProjectPlan) : ProjectPlan :=
  { plan with files := plan.files.filter PlannedFile.isAvailable }

namespace Scaffold

def textBytes (text : String) : List UInt8 :=
  text.toUTF8.toList

/-- The content of a planned file. -/
def plannedContent (plan : ProjectPlan) (file : PlannedFile) : Except ScaffoldError (List UInt8) :=
  match file.source with
  | .page route =>
    .ok (textBytes
      (Artifact.pageModule route file.tokens plan.rendersOnServer plan.needsSamples))
  | .template id =>
    match Template.find? id with
    | some (.text text) => .ok (textBytes (Template.render file.tokens text))
    | some (.binary bytes) => .ok bytes
    | none => .error (.missingTemplate id)

/-- The files that are generated from the whole specification, in the order of writing. -/
def generatedFiles (spec : AppSpec) (plan : ProjectPlan) : Noted (List (String × String)) := do
  let schema ←
    if plan.needsDatabase then do
      let text ← Artifact.databaseSchema spec.app.entities
      pure [("prisma/schema.prisma", text)]
    else pure []
  let fixtures :=
    if plan.needsSamples then
      [("src/lib/fixtures.json", Artifact.sampleFile spec.app.entities)]
    else []
  let auth :=
    match Artifact.signInRoute? spec.features.auth plan.rendersOnServer with
    | some route => [(Artifact.signInPath, route)]
    | none => []
  return schema ++ fixtures ++
    [(".env.example", Artifact.environmentExample spec.features.auth plan),
      Artifact.hostingFile plan.target] ++ auth ++
    [("package.json", Artifact.manifestFile spec.app.name plan)]

/-- Refuses what cannot be scaffolded. -/
def checkBlueprint (blueprint : Blueprint) : Except ScaffoldError Unit :=
  if blueprint = .webApp then .ok () else .error (.unsupportedBlueprint blueprint)

/-! ## Writing -/

/-- What the system does about a run that the disk does not decide. -/
structure Conditions where
  /-- The error when the destination is made, and how many of its components, from the outermost one
  on, are made before it. -/
  destinationError : Option (Nat × FileError) := none
  /-- What it does about each file, by the place of the file in the order of writing. -/
  staging : Nat → Staging

/-- Nothing fails that the disk allows. -/
def Conditions.usual : Conditions where
  staging := fun _ ↦ .usual

def makeDestination (conditions : Conditions) (destination : Path) : FileAction Unit :=
  match conditions.destinationError with
  | some (count, reason) =>
    FileAction.ensureSome destination.isAbsolute destination.components count reason
  | none => FileAction.ensureDirectory destination

/-- Writes a file at a path inside the destination. -/
def write (staging : Staging) (destination : Path) (path : String) (bytes : List UInt8) :
    DiskAction ScaffoldError Unit := do
  let target := destination.join path
  if Path.leadsInward ⟨path⟩ then
    (FileAction.writeStaged staging target bytes).mapError (.write target)
  else throw (.write target .outside)

def writePlanned (staging : Staging) (plan : ProjectPlan) (destination : Path)
    (file : PlannedFile) : DiskAction ScaffoldError Unit := do
  let bytes ← DiskAction.ofExcept (plannedContent plan file)
  write staging destination file.path bytes

/-- Writes planned files, the first one of them at a place in the order of writing. -/
def writePlannedFiles (conditions : Conditions) (plan : ProjectPlan) (destination : Path)
    (place : Nat) (files : List PlannedFile) : DiskAction ScaffoldError Unit :=
  (files.zipIdx place).forM fun (file, place) ↦
    writePlanned (conditions.staging place) plan destination file

/-- Makes the destination and writes the first of the planned files. -/
def writeFirst (conditions : Conditions) (spec : AppSpec) (plan : ProjectPlan) (destination : Path)
    (files : List PlannedFile) : DiskAction ScaffoldError Unit := do
  DiskAction.ofExcept (checkBlueprint spec.blueprint)
  (makeDestination conditions destination).mapError (.write destination)
  writePlannedFiles conditions plan destination 0 files

/-- Writes the files that were generated, the first one of them at a place in the order of
writing. -/
def writeGenerated (conditions : Conditions) (destination : Path) (place : Nat)
    (files : List (String × String)) : DiskAction ScaffoldError Unit :=
  (files.zipIdx place).forM fun ((path, text), place) ↦
    write (conditions.staging place) destination path (textBytes text)

end Scaffold

open Scaffold in
def scaffold (spec : AppSpec) (plan : ProjectPlan) (destination : Path)
    (conditions : Conditions := .usual) : Run ScaffoldError WrittenProject := do
  Run.ofDisk (writeFirst conditions spec plan destination plan.files)
  let generated ← Run.noting (generatedFiles spec plan)
  Run.ofDisk (writeGenerated conditions destination plan.files.length generated)
  return ⟨destination, plan.files.map (·.path) ++ generated.map (·.1)⟩

end WebScaffold

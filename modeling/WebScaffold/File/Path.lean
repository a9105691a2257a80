import WebScaffold.Text.Search
import WebScaffold.Text.Blank

/-!
# Paths

The path of a file as a text. Its steps are what stands between the slashes; its components leave
out the steps that stay where they are, except for one in front.
-/

namespace WebScaffold

structure Path where
  text : String
deriving DecidableEq, Repr

namespace Path

def stay : String := "."

def up : String := ".."

def isAbsolute (path : Path) : Bool :=
  path.text.toList.head? == some '/'

def endsInSlash (path : Path) : Bool :=
  path.text.toList.getLast? == some '/'

def steps (path : Path) : List String :=
  ((Text.pieces (· == '/') path.text.toList).filter (!·.isEmpty)).map String.ofList

def components (path : Path) : List String :=
  match path.steps with
  | [] => []
  | first :: rest =>
    let rest := rest.filter (· ≠ stay)
    if first = stay ∧ path.isAbsolute then rest else first :: rest

/-- The path with the given components. -/
def ofComponents (absolute : Bool) (components : List String) : Path :=
  ⟨(if absolute then "/" else "") ++ "/".intercalate components⟩

/-- The path of the directory that holds this one. -/
def parent? (path : Path) : Option Path :=
  match path.components with
  | [] => none
  | components => some (ofComponents path.isAbsolute components.dropLast)

/-- The path of `inner` as seen from here. An absolute path is the same from everywhere. -/
def join (path : Path) (inner : String) : Path :=
  if isAbsolute ⟨inner⟩ ∨ path.text = "" then ⟨inner⟩
  else if path.endsInSlash then ⟨path.text ++ inner⟩
  else ⟨path.text ++ "/" ++ inner⟩

def isPlain (component : String) : Bool :=
  component != stay && component != up

/-- Whether something can be found under this name in a directory. -/
def isName (text : String) : Bool :=
  text != "" && !text.toList.contains '/' && isPlain text

/-- Whether a path only ever leads further in. -/
def leadsInward (path : Path) : Bool :=
  !path.isAbsolute && path.components.all isPlain

/-- What follows the last dot of the file name. A dot in front does not count. -/
def extension? (path : Path) : Option String :=
  match path.components.getLast? with
  | some name =>
    if isPlain name then
      match Text.cutAtLast? '.' name.toList with
      | some (_ :: _, extension) => some (String.ofList extension)
      | _ => none
    else none
  | none => none

end Path

end WebScaffold

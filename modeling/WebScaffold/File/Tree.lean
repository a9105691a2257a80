import WebScaffold.Table

/-!
# File trees

A directory with all that is in it, as a value. A place in a tree is the list of names that lead to
it; names are looked up in tables, so a tree does not depend on the order in which it was made.
-/

namespace WebScaffold

inductive FileTree where
  | file (bytes : List UInt8)
  | directory (entries : List (String × FileTree))
deriving Repr, Inhabited

namespace FileTree

def empty : FileTree :=
  directory []

def entry? (name : String) : FileTree → Option FileTree
  | directory entries => entries.lookup name
  | file _ => none

/-- What is at a place. -/
def at? : List String → FileTree → Option FileTree
  | [], tree => some tree
  | name :: place, tree => (tree.entry? name).bind (at? place)

/-- Puts an entry under a name of a directory. -/
def setEntry (tree : FileTree) (name : String) (new : FileTree) : FileTree :=
  match tree with
  | directory entries => directory (Table.insert name new entries)
  | file bytes => file bytes

/-- Puts a tree at a place whose directory is there; any other place is left alone. -/
def put (new : FileTree) : List String → FileTree → FileTree
  | [], _ => new
  | [name], tree => tree.setEntry name new
  | name :: place, tree =>
    match tree.entry? name with
    | some inner => tree.setEntry name (put new place inner)
    | none => tree

/-- Takes the entry under a name out of a directory. -/
def removeEntry (tree : FileTree) (name : String) : FileTree :=
  match tree with
  | directory entries => directory (entries.filter (·.1 ≠ name))
  | file bytes => file bytes

/-- Takes out what is at a place; the tree itself stays. -/
def remove : List String → FileTree → FileTree
  | [], tree => tree
  | [name], tree => tree.removeEntry name
  | name :: place, tree =>
    match tree.entry? name with
    | some inner => tree.setEntry name (remove place inner)
    | none => tree

def isDirectory : FileTree → Bool
  | directory _ => true
  | file _ => false

/-! ## Listing -/

mutual

/-- The lines of a listing under a path: directories end in a slash, files in their size. -/
def listing (path : String) : FileTree → List String
  | file bytes => [path ++ s!" {bytes.length}"]
  | directory entries => (path ++ "/") :: listingOf (path ++ "/") entries

def listingOf (above : String) : List (String × FileTree) → List String
  | [] => []
  | (name, tree) :: entries => listing (above ++ name) tree ++ listingOf above entries

end

/-- The listing of what is in a directory, depth first and sorted by name. -/
def contents : FileTree → List String
  | directory entries => listingOf "" entries
  | file _ => []

mutual

/-- The files under a path with their contents. -/
def filesUnder (path : String) : FileTree → List (String × List UInt8)
  | file bytes => [(path, bytes)]
  | directory entries => filesOf (path ++ "/") entries

def filesOf (above : String) : List (String × FileTree) → List (String × List UInt8)
  | [] => []
  | (name, tree) :: entries => filesUnder (above ++ name) tree ++ filesOf above entries

end

end FileTree

end WebScaffold

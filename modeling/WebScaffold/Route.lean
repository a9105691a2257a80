import WebScaffold.Spec.Basic
import WebScaffold.Text.Blank
import WebScaffold.Text.Case
import WebScaffold.Text.Search

/-!
# Page routes

The route of a page is read off its path: the segments between the slashes, whether the page lists a
collection or shows one item of it, and the collection that it reads. A last segment in brackets is
a parameter, which the page of one item is keyed by.
-/

namespace WebScaffold

/-- The parameter of a dynamic segment; a catch-all receives a list of segments. -/
structure PathParameter where
  name : String
  catchAll : Bool
deriving DecidableEq, Repr

inductive PageView where
  | list
  | detail
deriving DecidableEq, Repr

instance : Variant PageView where
  all := [.list, .detail]
  name
    | .list => "list"
    | .detail => "detail"
  mem_all a := by cases a <;> simp
  name_injective a b := by cases a <;> cases b <;> simp

structure Route where
  path : String
  segments : List String
  kind : PageView
  collection : String
  singular : String
  /-- Present exactly for the page of one item. -/
  param : Option PathParameter
deriving DecidableEq, Repr

namespace Route

def isNameStart (c : Char) : Bool :=
  c.isAlpha || c == '_'

def isNameChar (c : Char) : Bool :=
  c.isAlphanum || c == '_'

/-- An identifier of ASCII letters, digits and underscores. -/
def isName : List Char → Bool
  | c :: cs => isNameStart c && cs.all isNameChar
  | [] => false

/-- The text between one pair of square brackets that encloses all of it. -/
def insideBrackets? (cs : List Char) : Option (List Char) :=
  (Text.afterPrefix? ['['] cs).bind (Text.beforeSuffix? [']'])

/-- The parameter of a segment in single or double brackets; dots before the name make it a
catch-all. -/
def parseParam (segment : List Char) : Option PathParameter := do
  let inner ← insideBrackets? segment
  let inner := (insideBrackets? inner).getD inner
  let (name, catchAll) :=
    match Text.afterPrefix? ['.', '.', '.'] inner with
    | some rest => (rest, true)
    | none => (inner, false)
  if isName name then some ⟨String.ofList name, catchAll⟩ else none

/-- The segments of a path, empty ones left out. -/
def segmentsOf (path : List Char) : List (List Char) :=
  (Text.pieces (· == '/') path).filter (!·.isEmpty)

/-- Whether a segment is meant to be dynamic. -/
def isDynamic (segment : List Char) : Bool :=
  segment.head? == some '['

/-- Why a path cannot be a page's route. -/
inductive PathProblem where
  | notAbsolute
  | forbiddenCharacter
  | relativeSegment
  | namelessSegment
deriving DecidableEq, Repr

def PathProblem.message : PathProblem → String
  | .notAbsolute => "must start with '/'"
  | .forbiddenCharacter => "must not contain '\\', ':' or NUL characters"
  | .relativeSegment => "must not contain '.' or '..' segments"
  | .namelessSegment => "has a dynamic segment that does not name a parameter"

def isForbidden (c : Char) : Bool :=
  c == '\\' || c == ':' || c == '\x00'

def isRelative (segment : List Char) : Bool :=
  segment == ['.'] || segment == ['.', '.']

def segmentProblem? (segment : List Char) : Option PathProblem :=
  if isRelative segment then some .relativeSegment
  else if isDynamic segment && (parseParam segment).isNone then some .namelessSegment
  else none

/-- The first problem of a path, if it has any. -/
def pathProblem? (path : String) : Option PathProblem :=
  let cs := path.toList
  if cs.head? ≠ some '/' then some .notAbsolute
  else if cs.any isForbidden then some .forbiddenCharacter
  else (segmentsOf cs).findSome? segmentProblem?

/-! ## Names of collections -/

def pluralOf (word : String) : String :=
  if word.toList.getLast? = some 's' then word else word ++ "s"

def singularOf (word : String) : String :=
  match Text.beforeSuffix? ['s'] word.toList with
  | some stem => String.ofList stem
  | none => word

/-- The collection of a page whose path names none. -/
def usualCollection : String := "items"

/-- The parameter of a dynamic segment that names none. -/
def usualParam : PathParameter :=
  ⟨"id", false⟩

/-- The kind of a page and its parameter, by the last segment of its path. -/
def classify (last : List Char) : PageView × Option PathParameter :=
  if isDynamic last then (.detail, some ((parseParam last).getD usualParam)) else (.list, none)

/-- The collection that a page reads and the name of one of its items: those of the entity it names,
or else the first segment of its path. -/
def collectionOf (entity? : Option String) (segments : List (List Char)) : String × String :=
  match entity? with
  | some entity => (pluralOf (Text.lower entity), singularOf (Text.lower entity))
  | none =>
    let collection :=
      match segments with
      | first :: _ => if isDynamic first then usualCollection else String.ofList first
      | [] => usualCollection
    (collection, singularOf collection)

end Route

open Route in
/-- The route of a page, or `none` for the root page. -/
def PageDescriptor.route? (page : PageDescriptor) : Option Route :=
  let segments := segmentsOf page.pagePath.toList
  segments.getLast?.map fun last ↦
    let (kind, param) := classify last
    let (collection, singular) := collectionOf page.entity? segments
    ⟨page.pagePath, segments.map String.ofList, kind, collection, singular, param⟩

namespace Route

/-- The file of the page's module in the project. -/
def modulePath (route : Route) : String :=
  "src/app/" ++ "/".intercalate route.segments ++ "/page.tsx"

/-- The way from the page's directory up to the sources. -/
def pathToSources (route : Route) : String :=
  "/".intercalate (List.replicate (route.segments.length + 1) "..")

/-- The path without slashes at its end. -/
def linkBase (route : Route) : String :=
  String.ofList (Text.dropTailWhile (· == '/') route.path.toList)

end Route

end WebScaffold

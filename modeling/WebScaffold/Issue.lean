/-!
# Issues

A violated rule and the place of the value that violates it, and the text of a list of them.
-/

namespace WebScaffold

/-- A message about the value at a path from the root of the document. -/
structure Issue where
  path : String
  message : String
deriving DecidableEq, Repr

namespace Issue

/-- An issue at a path, which is a slash for the root. -/
def about (path message : String) : Issue :=
  ⟨if path = "" then "/" else path, message⟩

def text (issue : Issue) : String :=
  issue.path ++ ": " ++ issue.message

/-- One issue on a line. -/
def listing (issues : List Issue) : String :=
  "\n".intercalate (issues.map text)

end Issue

end WebScaffold

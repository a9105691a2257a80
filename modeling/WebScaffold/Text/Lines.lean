/-!
# Lines

Texts that are made of lines, each with its line break.
-/

namespace WebScaffold.Text

/-- The text of the given lines; every line is ended by a line break. -/
def lines (texts : List String) : String :=
  String.join (texts.map (· ++ "\n"))

end WebScaffold.Text

import WebScaffold.Generator.Basic

/-!
# The offline generator

A generator without any intelligence: it finds the idea between its markers in the prompt and drafts
the least app that could be meant by it.
-/

namespace WebScaffold.Offline

open Json

def usualIdea : String := "App"

def ideaStart : String := "IDEA_START"

def ideaEnd : String := "IDEA_END"

/-- The text between the first opening line and the first closing line behind it, without blanks at
its ends. -/
def markedIdea? (prompt : List Char) : Option (List Char) := do
  let (_, rest) ← Text.cutAt? (ideaStart.toList ++ ['\n']) prompt
  let (idea, _) ← Text.cutAt? ('\n' :: ideaEnd.toList) rest
  return Text.trimChars idea

def ideaIn (prompt : String) : String :=
  match markedIdea? prompt.toList with
  | some (c :: cs) => String.ofList (c :: cs)
  | _ => usualIdea

/-- The first two words of the idea, run together without what is not an ASCII letter or digit. -/
def nameFrom (idea : List Char) : String :=
  match ((Text.words idea).take 2).flatMap (·.filter Char.isAlphanum) with
  | [] => usualIdea
  | name => String.ofList name

/-- A static app with a list of items and a page for each. -/
def draftOf (idea : String) : Json :=
  let purpose := if Text.trim idea = "" then usualIdea else Text.trim idea
  ofMembers
    [("blueprint", .string "web_app"),
      ("app", ofMembers
        [("name", .string (nameFrom purpose.toList)), ("purpose", .string purpose),
          ("roles", ofStrings ["user"]), ("entities", .array [])]),
      ("features", ofMembers
        [("auth", .string "none"), ("pages", ofStrings ["/", "/items", "/items/[id]"]),
          ("integrations", .array [])]),
      ("runtime", ofMembers [("renderMode", .string "ssg"), ("database", .string "none")]),
      ("deploy", ofMembers [("target", .string "github_pages"), ("domain", .null)])]

def generator : Generator where
  name := "stub"
  complete _ request := pure (.answer (draftOf (ideaIn request.user)))

end WebScaffold.Offline

import WebScaffold.Schema.Check
import WebScaffold.Spec.Refine
import WebScaffold.Spec.Schema
import WebScaffold.Spec.Wire

/-!
# Validation

A document becomes a specification in two stages: it must fit the schema and decode, and then its
parts must agree with each other. Each stage has an error of its own, which lists all issues.
-/

namespace WebScaffold

inductive ValidationError where
  | structural (issues : List Issue)
  | refinement (issues : List Issue)
deriving DecidableEq, Repr

namespace ValidationError

def issues : ValidationError → List Issue
  | structural issues => issues
  | refinement issues => issues

def message : ValidationError → String
  | structural issues => "AppSpec validation failed:\n" ++ Issue.listing issues
  | refinement issues => "AppSpec refinement failed:\n" ++ Issue.listing issues

end ValidationError

namespace AppSpec

/-- The first stage: the schema, then decoding. -/
def ofDocument (document : Json) : Except ValidationError AppSpec :=
  match schema.issues "" document with
  | [] =>
    (AppSpec.decode document).mapError fun reason ↦ .structural [.about "/" reason.message]
  | issues => .error (.structural issues)

/-- The second stage: the rules between the parts. -/
def checkRules (spec : AppSpec) : Except ValidationError Unit :=
  match spec.ruleIssues with
  | [] => .ok ()
  | issues => .error (.refinement issues)

def validate (document : Json) : Except ValidationError AppSpec := do
  let spec ← ofDocument document
  spec.checkRules
  return spec

end AppSpec

end WebScaffold

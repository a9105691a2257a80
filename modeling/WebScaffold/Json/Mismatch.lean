import WebScaffold.Json.Basic
import WebScaffold.Decimal.Shortest
import WebScaffold.Text.Quoted

/-!
# Mismatches

Why a value cannot be taken for a value of a given type, with the wording of each reason. A reason
names what was found by its kind, and scalars by their value too.
-/

namespace WebScaffold.Json

/-- What a mismatch tells about the value that was found. -/
inductive Found where
  | null
  | bool (value : Bool)
  | number (value : JsonNumber)
  | text (value : String)
  | sequence
  | map
deriving DecidableEq, Repr

def found : Json → Found
  | null => .null
  | bool b => .bool b
  | number n => .number n
  | string s => .text s
  | array _ => .sequence
  | object _ => .map

def Found.description : Found → String
  | .null => "null"
  | .bool b => s!"boolean `{b}`"
  | .number (.integer i) => s!"integer `{i}`"
  | .number (.real x) => "floating point `" ++ String.ofList x.text ++ "`"
  | .text s => "string " ++ Text.quoted s
  | .sequence => "sequence"
  | .map => "map"

inductive Mismatch where
  /-- A value of another kind. -/
  | wrongType (found : Found) (expected : String)
  /-- A value of the right kind that is out of range or has the wrong shape. -/
  | wrongValue (found : Found) (expected : String)
  | wrongLength (length : Nat) (expected : String)
  | missingField (name : String)
  | duplicateField (name : String)
  | unknownVariant (name : String) (known : List String)
  /-- No alternative of the named type fits. -/
  | noAlternative (type : String)
deriving DecidableEq, Repr

/-- The known names of a variant: one alone, two joined by "or", more as a list. -/
def knownVariants (known : List String) : String :=
  let quoted := known.map fun name ↦ "`" ++ name ++ "`"
  match quoted with
  | [] => "there are no variants"
  | [one] => "expected " ++ one
  | [one, other] => "expected " ++ one ++ " or " ++ other
  | _ => "expected one of " ++ ", ".intercalate quoted

def Mismatch.message : Mismatch → String
  | .wrongType found expected => "invalid type: " ++ found.description ++ ", expected " ++ expected
  | .wrongValue found expected =>
    "invalid value: " ++ found.description ++ ", expected " ++ expected
  | .wrongLength length expected => s!"invalid length {length}, expected " ++ expected
  | .missingField name => "missing field `" ++ name ++ "`"
  | .duplicateField name => "duplicate field `" ++ name ++ "`"
  | .unknownVariant name known => "unknown variant `" ++ name ++ "`, " ++ knownVariants known
  | .noAlternative type => "data did not match any variant of untagged enum " ++ type

end WebScaffold.Json

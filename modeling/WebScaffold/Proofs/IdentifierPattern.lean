import Mathlib.Computability.RegularExpressions
import WebScaffold.Proofs.SchemaLines

/-!
# The pattern of identifiers

What may name a model, a column or an enum is given here as a regular expression. Making an
identifier out of a name projects all names onto the texts of that pattern: each name comes to one
of them, and these and no others stay as they are. So two identifiers with an underscore between
them are left alone when an identifier is made out of them, and the enum of a field has the names of
the model and of the column in its own.
-/

namespace WebScaffold.Artifact

open RegularExpression

variable {c : Char} {cs text : List Char} {name : String}

/-! ## The pattern -/

/-- One of the given characters. -/
def oneOf (cs : List Char) : RegularExpression Char :=
  cs.foldr (fun c pattern ↦ char c + pattern) 0

def letters : List Char :=
  ('A' ...= 'Z').toList ++ ('a' ...= 'z').toList

def identifierParts : List Char :=
  letters ++ ('0' ...= '9').toList ++ ['_']

/-- A letter, and then any number of letters, digits and underscores. -/
def identifierPattern : RegularExpression Char :=
  oneOf letters * (oneOf identifierParts).star

theorem mem_oneOf_iff : text ∈ (oneOf cs).matches' ↔ ∃ c ∈ cs, text = [c] := by
  induction cs with
  | nil => simp [oneOf]
  | cons c cs ih =>
    have hcons : oneOf (c :: cs) = char c + oneOf cs := rfl
    have hchar : text ∈ (char c).matches' ↔ text = [c] := Iff.rfl
    rw [hcons, matches'_add, Language.mem_add, hchar, ih, List.exists_mem_cons_iff]

theorem mem_star_oneOf_iff : text ∈ (oneOf cs).star.matches' ↔ ∀ c ∈ text, c ∈ cs := by
  rw [matches'_star, Language.mem_kstar]
  constructor
  · rintro ⟨singles, rfl, hsingles⟩ c hc
    obtain ⟨single, hsingle, hc⟩ := List.mem_flatten.1 hc
    obtain ⟨d, hd, rfl⟩ := mem_oneOf_iff.1 (hsingles single hsingle)
    rwa [List.mem_singleton.1 hc]
  · intro htext
    refine ⟨text.map ([·]), ?_, List.forall_mem_map.2 fun c hc ↦ ?_⟩
    · rw [← List.flatMap_def, List.flatMap_singleton']
    · exact mem_oneOf_iff.2 ⟨c, htext c hc, rfl⟩

theorem mem_letters_iff : c ∈ letters ↔ c.isAlpha := by
  simp only [letters, List.mem_append, Std.Rcc.mem_toList_iff_mem, Text.isAlpha_iff]
  exact Iff.rfl

theorem mem_identifierParts_iff : c ∈ identifierParts ↔ isIdentifierPart c := by
  have hdigit : c ∈ ('0' ...= '9').toList ↔ c.isDigit := by
    rw [Std.Rcc.mem_toList_iff_mem, Text.isDigit_iff]
    exact Iff.rfl
  simp only [identifierParts, List.mem_append, mem_letters_iff, hdigit, List.mem_singleton,
    isIdentifierPart, Char.isAlphanum, Bool.or_eq_true, beq_iff_eq]

theorem isIdentifier_cons_iff :
    IsIdentifier (c :: cs) ↔ c.isAlpha ∧ ∀ d ∈ cs, isIdentifierPart d := by
  have hpart (halpha : c.isAlpha) : isIdentifierPart c := by
    simp [isIdentifierPart, Char.isAlphanum, halpha]
  rw [IsIdentifier, List.head?_cons, Option.any_some, List.forall_mem_cons]
  exact and_congr_right fun halpha ↦ and_iff_right (hpart halpha)

theorem mem_identifierPattern_iff : cs ∈ identifierPattern.matches' ↔ IsIdentifier cs := by
  rw [identifierPattern, matches'_mul, Language.mem_mul]
  simp only [mem_oneOf_iff, mem_star_oneOf_iff, mem_letters_iff, mem_identifierParts_iff]
  constructor
  · rintro ⟨_, ⟨c, hc, rfl⟩, rest, hrest, rfl⟩
    exact isIdentifier_cons_iff.2 ⟨hc, hrest⟩
  · intro h
    cases cs with
    | nil => simp [IsIdentifier] at h
    | cons c cs =>
      obtain ⟨hc, hcs⟩ := isIdentifier_cons_iff.1 h
      exact ⟨[c], ⟨c, hc, rfl⟩, cs, hcs, rfl⟩

/-! ## Names that stay -/

theorem identifierOf_eq_self_iff : identifierOf name = name ↔ IsIdentifier name.toList := by
  constructor
  · intro hname
    rw [← hname]
    exact isIdentifier_identifierOf name
  · intro hname
    exact identifierOf_eq_self hname

example : identifierOf " 2nd édition " = "x2nd__dition" ∧ identifierOf " \u3000" = "x" := by
  decide

/-- Making identifiers projects the names onto the texts of the pattern. The name of a field's enum
is that of the model and that of the column with an underscore between them, both where the enum is
declared and where it is the type of the column. -/
theorem identifierOf_projects :
    (∀ name, (identifierOf name).toList ∈ identifierPattern.matches') ∧
    (∀ name, identifierOf name = name ↔ name.toList ∈ identifierPattern.matches') ∧
    (∀ name, identifierOf (identifierOf name) = identifierOf name) ∧
    ∀ (entity : Entity) (field : EntityField),
      let model := identifierOf entity.name
      let column := identifierOf field.name
      let joined := model ++ "_" ++ column
      identifierOf joined = joined ∧
        fieldParts model column field =
          { enums := if field.type = .enum then [enumBlock joined field.values] else []
            columns := ["  " ++ column ++ " " ++ columnType joined field.type ++
              if field.isOptional then "?" else ""] } := by
  refine ⟨fun name ↦ ?_, fun name ↦ ?_, fun name ↦ ?_, fun entity field ↦ ?_⟩
  · exact mem_identifierPattern_iff.2 (isIdentifier_identifierOf name)
  · rw [mem_identifierPattern_iff, identifierOf_eq_self_iff]
  · exact identifierOf_eq_self_iff.2 (isIdentifier_identifierOf name)
  · have hjoined := identifierOf_join entity.name field.name
    refine ⟨hjoined, ?_⟩
    rw [fieldParts, hjoined]

end WebScaffold.Artifact

import WebScaffold.Proofs.PageModel
import WebScaffold.Proofs.Routes

/-!
# Dynamic segments

A segment in brackets names a parameter of its page. The parameter is found by taking brackets and
dots off the segment one after the other, each of them only where it is there. What this comes to is
a choice of four forms: one or two pairs of brackets around an identifier, with or without three
dots in front of it. Every other text names no parameter, and the rules refuse a path with a segment
in brackets that does not. Three of the forms are meant to be read; doubled brackets without dots
are read beside them.
-/

namespace WebScaffold

namespace Text

variable {pat cs rest : List Char} {c : Char}

theorem afterPrefix?_eq_some_iff : afterPrefix? pat cs = some rest ↔ cs = pat ++ rest := by
  constructor
  · exact eq_append_of_afterPrefix?
  · intro h
    rw [h, afterPrefix?_append]

theorem beforeSuffix?_eq_some_iff : beforeSuffix? [c] cs = some rest ↔ cs = rest ++ [c] := by
  constructor
  · exact eq_concat_of_beforeSuffix?
  · intro h
    rw [h, beforeSuffix?_concat]

end Text

namespace Route

variable {segment inner name rest : List Char} {param : PathParameter} {path : String}

/-! ## Names of parameters -/

/-- A Latin letter, as ASCII has them. -/
def IsLetter (c : Char) : Prop :=
  'A' ≤ c ∧ c ≤ 'Z' ∨ 'a' ≤ c ∧ c ≤ 'z'

/-- A letter or an underscore, and then letters, digits and underscores. -/
def IsParamName (name : List Char) : Prop :=
  ∃ first rest, name = first :: rest ∧ (IsLetter first ∨ first = '_') ∧
    ∀ c ∈ rest, IsLetter c ∨ '0' ≤ c ∧ c ≤ '9' ∨ c = '_'

theorem isAlpha_iff_isLetter {c : Char} : c.isAlpha ↔ IsLetter c :=
  Text.isAlpha_iff

theorem isNameStart_iff {c : Char} : isNameStart c ↔ IsLetter c ∨ c = '_' := by
  rw [isNameStart, Bool.or_eq_true, isAlpha_iff_isLetter, beq_iff_eq]

theorem isNameChar_iff {c : Char} :
    isNameChar c ↔ IsLetter c ∨ '0' ≤ c ∧ c ≤ '9' ∨ c = '_' := by
  have hdigit : c.isDigit ↔ '0' ≤ c ∧ c ≤ '9' := Text.isDigit_iff
  rw [isNameChar, Char.isAlphanum, Bool.or_eq_true, Bool.or_eq_true, isAlpha_iff_isLetter, hdigit,
    beq_iff_eq, or_assoc]

theorem isName_iff : isName name ↔ IsParamName name := by
  cases name with
  | nil => simp [isName, IsParamName]
  | cons first rest =>
    rw [isName, Bool.and_eq_true, List.all_eq_true, isNameStart_iff]
    simp only [isNameChar_iff]
    constructor
    · intro h
      exact ⟨first, rest, rfl, h⟩
    · rintro ⟨_, _, hcons, h⟩
      cases hcons
      exact h

theorem head?_ne_of_isName {c : Char} (h : isName name) (hc : isNameStart c = false) :
    name.head? ≠ some c := by
  cases name with
  | nil => simp
  | cons first rest =>
    intro hfirst
    obtain rfl : first = c := Option.some.inj hfirst
    rw [isName, hc] at h
    exact absurd h (by simp)

/-! ## Forms of a segment -/

/-- The dots in front of the name of a parameter that receives a list. -/
def dots (catchAll : Bool) : List Char :=
  if catchAll then ['.', '.', '.'] else []

/-- A parameter as a segment, in one or two pairs of brackets. -/
def segmentFor (doubled : Bool) (param : PathParameter) : List Char :=
  (if doubled then ['[', '['] else ['[']) ++ dots param.catchAll ++ param.name.toList ++
    if doubled then [']', ']'] else [']']

theorem insideBrackets?_eq_some_iff :
    insideBrackets? segment = some inner ↔ segment = '[' :: (inner ++ [']']) := by
  rw [insideBrackets?, Option.bind_eq_some_iff]
  simp only [Text.afterPrefix?_eq_some_iff, Text.beforeSuffix?_eq_some_iff]
  constructor
  · rintro ⟨_, rfl, rfl⟩
    rfl
  · intro h
    exact ⟨inner ++ [']'], h, rfl⟩

theorem insideBrackets?_eq_none (h : segment.head? ≠ some '[') :
    insideBrackets? segment = none := by
  rw [Option.eq_none_iff_forall_ne_some]
  intro inner hinner
  rw [insideBrackets?_eq_some_iff.1 hinner] at h
  exact h rfl

/-- The parameter that is left when the brackets are gone. -/
def bareParam? (inner : List Char) : Option PathParameter :=
  let (name, catchAll) :=
    match Text.afterPrefix? ['.', '.', '.'] inner with
    | some rest => (rest, true)
    | none => (inner, false)
  if isName name then some ⟨String.ofList name, catchAll⟩ else none

theorem parseParam_eq_bind (segment : List Char) :
    parseParam segment = (insideBrackets? segment).bind fun inner ↦
      bareParam? ((insideBrackets? inner).getD inner) := rfl

theorem some_ofList_eq_some_iff {catchAll : Bool} :
    (if isName name then some (PathParameter.mk (String.ofList name) catchAll) else none) =
        some param ↔
      isName param.name.toList ∧ catchAll = param.catchAll ∧ name = param.name.toList := by
  obtain ⟨text, several⟩ := param
  rw [Option.ite_none_right_eq_some, Option.some.injEq, PathParameter.mk.injEq,
    ← String.toList_inj, String.toList_ofList]
  constructor
  · rintro ⟨hname, rfl, rfl⟩
    exact ⟨hname, rfl, rfl⟩
  · rintro ⟨hname, rfl, rfl⟩
    exact ⟨hname, rfl, rfl⟩

theorem bareParam?_eq_some_iff : bareParam? inner = some param ↔
    isName param.name.toList ∧ inner = dots param.catchAll ++ param.name.toList := by
  unfold bareParam?
  cases hafter : Text.afterPrefix? ['.', '.', '.'] inner with
  | some rest =>
    have hinner : inner = ['.', '.', '.'] ++ rest := Text.afterPrefix?_eq_some_iff.1 hafter
    dsimp only
    rw [some_ofList_eq_some_iff, hinner]
    apply and_congr_right
    intro hname
    have hdot : param.name.toList.head? ≠ some '.' := head?_ne_of_isName hname rfl
    cases param.catchAll with
    | true => simp [dots]
    | false =>
      have hne : ['.', '.', '.'] ++ rest ≠ param.name.toList := by
        intro h
        rw [← h] at hdot
        exact hdot rfl
      simpa [dots] using hne
  | none =>
    dsimp only
    rw [some_ofList_eq_some_iff]
    apply and_congr_right
    intro _
    cases param.catchAll with
    | true =>
      have hne : inner ≠ ['.', '.', '.'] ++ param.name.toList := by
        intro h
        rw [Text.afterPrefix?_eq_some_iff.2 h] at hafter
        cases hafter
      simpa [dots] using hne
    | false => simp [dots]

theorem parseParam_eq_some_iff : parseParam segment = some param ↔
    isName param.name.toList ∧ ∃ doubled, segment = segmentFor doubled param := by
  -- one pair of brackets around what a parameter is read off when they are gone
  have hsingle : segmentFor false param =
      '[' :: (dots param.catchAll ++ param.name.toList ++ [']']) := rfl
  have hdouble : segmentFor true param =
      '[' :: ('[' :: (dots param.catchAll ++ param.name.toList ++ [']']) ++ [']']) := by
    simp [segmentFor]
  rw [parseParam_eq_bind, Option.bind_eq_some_iff]
  constructor
  · rintro ⟨inner, hinner, hparam⟩
    rw [insideBrackets?_eq_some_iff] at hinner
    cases hcore : insideBrackets? inner with
    | none =>
      rw [hcore, Option.getD_none, bareParam?_eq_some_iff] at hparam
      exact ⟨hparam.1, false, by rw [hinner, hparam.2, hsingle]⟩
    | some core =>
      rw [hcore, Option.getD_some, bareParam?_eq_some_iff] at hparam
      rw [insideBrackets?_eq_some_iff] at hcore
      exact ⟨hparam.1, true, by rw [hinner, hcore, hparam.2, hdouble]⟩
  · rintro ⟨hname, doubled, rfl⟩
    have hparam : bareParam? (dots param.catchAll ++ param.name.toList) = some param :=
      bareParam?_eq_some_iff.2 ⟨hname, rfl⟩
    cases doubled with
    | false =>
      have hcore : insideBrackets? (dots param.catchAll ++ param.name.toList) = none := by
        apply insideBrackets?_eq_none
        cases param.catchAll with
        | true => simp [dots]
        | false => exact head?_ne_of_isName hname rfl
      refine ⟨_, insideBrackets?_eq_some_iff.2 hsingle, ?_⟩
      rw [hcore, Option.getD_none, hparam]
    | true =>
      refine ⟨_, insideBrackets?_eq_some_iff.2 hdouble, ?_⟩
      rw [insideBrackets?_eq_some_iff.2 rfl, Option.getD_some, hparam]

/-! ## Paths with dynamic segments -/

theorem mem_namesOf_iff {name : String} :
    name ∈ namesOf path ↔ name.toList ∈ segmentsOf path.toList := by
  rw [namesOf_eq_steps, Path.steps, List.mem_map]
  constructor
  · rintro ⟨segment, hsegment, rfl⟩
    rwa [String.toList_ofList]
  · intro h
    exact ⟨name.toList, h, String.ofList_toList⟩

/-- A name in a path is dynamic if it begins with a bracket. -/
theorem exists_parseParam_of_pathProblem? (h : pathProblem? path = none) {name : String}
    (hname : name ∈ namesOf path) (hbracket : name.toList.head? = some '[') :
    ∃ param, parseParam name.toList = some param := by
  have hproblem := segmentProblem?_of_pathProblem? h name.toList (mem_namesOf_iff.1 hname)
  apply Option.isSome_iff_exists.1
  apply (segmentProblem?_eq_none_iff.1 hproblem).2
  rw [isDynamic, hbracket]
  rfl

/-! ## Documented forms -/

/-- The forms of a segment that are meant to name a parameter. Only a list of segments can be left
out, and only the brackets around such a list may be doubled. -/
inductive IsSegmentOf : PathParameter → List Char → Prop
  | one (name : String) (hname : IsParamName name.toList) :
      IsSegmentOf ⟨name, false⟩ (['['] ++ name.toList ++ [']'])
  | list (name : String) (hname : IsParamName name.toList) :
      IsSegmentOf ⟨name, true⟩ (['[', '.', '.', '.'] ++ name.toList ++ [']'])
  | optionalList (name : String) (hname : IsParamName name.toList) :
      IsSegmentOf ⟨name, true⟩ (['[', '[', '.', '.', '.'] ++ name.toList ++ [']', ']'])

/-- Two pairs of brackets around a name alone. -/
def IsDoubled (name : String) (segment : List Char) : Prop :=
  IsParamName name.toList ∧ segment = ['[', '['] ++ name.toList ++ [']', ']']

theorem isSegmentOf_iff : IsSegmentOf param segment ↔ IsParamName param.name.toList ∧
    ∃ doubled : Bool, (doubled → param.catchAll) ∧ segment = segmentFor doubled param := by
  constructor
  · rintro (⟨name, hname⟩ | ⟨name, hname⟩ | ⟨name, hname⟩)
    · exact ⟨hname, false, nofun, rfl⟩
    · exact ⟨hname, false, nofun, rfl⟩
    · exact ⟨hname, true, fun _ ↦ rfl, rfl⟩
  · obtain ⟨name, catchAll⟩ := param
    rintro ⟨hname, doubled, hdots, rfl⟩
    cases doubled with
    | false =>
      cases catchAll with
      | false => exact .one name hname
      | true => exact .list name hname
    | true =>
      obtain rfl : catchAll = true := hdots rfl
      exact .optionalList name hname

theorem segmentFor_true_ne (param : PathParameter) :
    segmentFor true param ≠ segmentFor false param := by
  intro h
  have hlength := congrArg List.length h
  simp only [segmentFor, List.length_append, if_true, Bool.false_eq_true, if_false,
    List.length_cons, List.length_nil] at hlength
  omega

/-- A parameter is read off a segment in one of the documented forms, and in one form more. -/
theorem parseParam_eq_some_iff_or : parseParam segment = some param ↔
    IsSegmentOf param segment ∨ param.catchAll = false ∧ IsDoubled param.name segment := by
  obtain ⟨name, catchAll⟩ := param
  rw [parseParam_eq_some_iff, isName_iff, isSegmentOf_iff]
  constructor
  · rintro ⟨hname, doubled, rfl⟩
    cases doubled with
    | false => exact .inl ⟨hname, false, nofun, rfl⟩
    | true =>
      cases catchAll with
      | false => exact .inr ⟨rfl, hname, rfl⟩
      | true => exact .inl ⟨hname, true, fun _ ↦ rfl, rfl⟩
  · rintro (⟨hname, doubled, -, hsegment⟩ | ⟨hcatchAll, hname, hsegment⟩)
    · exact ⟨hname, doubled, hsegment⟩
    · obtain rfl : catchAll = false := hcatchAll
      exact ⟨hname, true, hsegment⟩

theorem not_isSegmentOf_of_isDoubled {text : String} (h : IsDoubled text segment) :
    ¬IsSegmentOf param segment := by
  intro hform
  have hdoubled : parseParam segment = some ⟨text, false⟩ :=
    parseParam_eq_some_iff_or.2 (.inr ⟨rfl, h⟩)
  have hparam : parseParam segment = some param := parseParam_eq_some_iff_or.2 (.inl hform)
  obtain rfl : param = ⟨text, false⟩ := Option.some.inj (hparam.symm.trans hdoubled)
  obtain ⟨-, doubled, hdots, hsegment⟩ := isSegmentOf_iff.1 hform
  cases doubled with
  | false => exact segmentFor_true_ne ⟨text, false⟩ (h.2.symm.trans hsegment)
  | true => exact Bool.false_ne_true (hdots rfl)

theorem head?_of_isDoubled {text : String} (h : IsDoubled text segment) :
    segment.head? = some '[' := by
  rw [h.2]
  rfl

/-- A segment names a parameter in the documented forms and with doubled brackets around a name
alone, and in no other form. So parsing keeps to the documented forms just off the latter, and the
paths that the rules accept keep to them just if no name in them is of that form. -/
theorem parseParam_segments (segment : List Char) (path : String) :
    (∀ param, parseParam segment = some param ↔
      IsSegmentOf param segment ∨ param.catchAll = false ∧ IsDoubled param.name segment) ∧
    ((∀ param, parseParam segment = some param ↔ IsSegmentOf param segment) ↔
      ∀ text, ¬IsDoubled text segment) ∧
    (pathProblem? path = none →
      ((∀ name ∈ namesOf path, name.toList.head? = some '[' →
          ∃ param, IsSegmentOf param name.toList) ↔
        ∀ name ∈ namesOf path, ∀ text, ¬IsDoubled text name.toList)) := by
  refine ⟨fun _ ↦ parseParam_eq_some_iff_or, ⟨?_, ?_⟩, fun hproblem ↦ ⟨?_, ?_⟩⟩
  · intro hforms text hdoubled
    have hparse : parseParam segment = some ⟨text, false⟩ :=
      parseParam_eq_some_iff_or.2 (.inr ⟨rfl, hdoubled⟩)
    exact not_isSegmentOf_of_isDoubled hdoubled ((hforms _).1 hparse)
  · intro hsingle param
    rw [parseParam_eq_some_iff_or, or_iff_left]
    rintro ⟨-, hdoubled⟩
    exact hsingle _ hdoubled
  · intro hforms name hname text hdoubled
    obtain ⟨param, hform⟩ := hforms name hname (head?_of_isDoubled hdoubled)
    exact not_isSegmentOf_of_isDoubled hdoubled hform
  · intro hsingle name hname hbracket
    obtain ⟨param, hparam⟩ := exists_parseParam_of_pathProblem? hproblem hname hbracket
    refine ⟨param, (parseParam_eq_some_iff_or.1 hparam).resolve_right ?_⟩
    rintro ⟨-, hdoubled⟩
    exact hsingle name hname _ hdoubled

theorem parseParam_segments_docs :
    (parseParam "[[...page]]".toList = some ⟨"page", true⟩ ∧
      IsSegmentOf ⟨"page", true⟩ "[[...page]]".toList) ∧
    pathProblem? "/docs/[[...page]]" = none ∧
      ((∀ name ∈ namesOf "/docs/[[...page]]", name.toList.head? = some '[' →
          ∃ param, IsSegmentOf param name.toList) ↔
        ∀ name ∈ namesOf "/docs/[[...page]]", ∀ text, ¬IsDoubled text name.toList) := by
  obtain ⟨hparse, -, hpaths⟩ := parseParam_segments "[[...page]]".toList "/docs/[[...page]]"
  have hpage : parseParam "[[...page]]".toList = some ⟨"page", true⟩ := by decide +kernel
  have hproblem : pathProblem? "/docs/[[...page]]" = none := by decide +kernel
  refine ⟨⟨hpage, ((hparse _).1 hpage).resolve_right ?_⟩, hproblem, hpaths hproblem⟩
  rintro ⟨hcatchAll, -⟩
  exact absurd hcatchAll (by decide)

/-- Two pairs of brackets without dots are taken for a parameter as well, although only a list of
segments can be left out. -/
theorem parseParam_doubled :
    parseParam "[[slug]]".toList = some ⟨"slug", false⟩ ∧ pathProblem? "/books/[[slug]]" = none ∧
      ¬∀ segment param, parseParam segment = some param ↔ IsSegmentOf param segment := by
  have hslug : parseParam "[[slug]]".toList = some ⟨"slug", false⟩ := by decide +kernel
  refine ⟨hslug, by decide +kernel, fun hforms ↦ ?_⟩
  have hdoubled : IsDoubled "slug" "[[slug]]".toList :=
    ⟨isName_iff.1 (by decide), by decide +kernel⟩
  exact not_isSegmentOf_of_isDoubled hdoubled ((hforms _ _).1 hslug)

end Route

end WebScaffold

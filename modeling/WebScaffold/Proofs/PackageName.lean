import WebScaffold.Proofs.Case
import WebScaffold.Proofs.Override
import WebScaffold.Proofs.Path
import WebScaffold.Proofs.Scaffold

/-!
# Names of packages

The name of a package is made of the app's name by lower case and hyphens alone, so whether it can
be installed is up to the app's name: signs that no package may have, marks at the beginning and the
length come through. Lower case keeps the blanks, hence the words, of a name; its characters become
fit for a package exactly where they are letters and digits of ASCII or one of four signs, the
Kelvin sign being the one letter beyond.
-/

namespace WebScaffold

namespace Text

variable {c : Char} {cs before : List Char} {f : Char → Char}

/-! ## Words -/

theorem flatten_pieces (p : Char → Bool) (cs : List Char) :
    (pieces p cs).flatten = cs.filter (!p ·) := by
  induction cs with
  | nil => rfl
  | cons c cs ih =>
    cases hc : p c with
    | true =>
      rw [pieces_cons_of_sep hc, List.flatten_cons, List.nil_append, ih]
      simp [hc]
    | false =>
      obtain ⟨piece, rest, hpieces⟩ := exists_pieces_eq_cons p cs
      rw [hpieces] at ih
      rw [pieces_cons_of_not_sep hc hpieces, List.flatten_cons, List.cons_append,
        ← List.flatten_cons, ih]
      simp [hc]

/-- The words of a text hold all of it but the blanks. -/
theorem flatten_words (cs : List Char) : (words cs).flatten = cs.filter (!isBlank ·) := by
  rw [words, List.flatten_filter_not_isEmpty, flatten_pieces]

theorem ne_nil_of_mem_words {word : List Char} (h : word ∈ words cs) : word ≠ [] := by
  simpa using (List.mem_filter.1 h).2

theorem pieces_map {p : Char → Bool} (h : ∀ c ∈ cs, p (f c) = p c) :
    pieces p (cs.map f) = (pieces p cs).map (List.map f) := by
  induction cs with
  | nil => rfl
  | cons c cs ih =>
    obtain ⟨hc, hcs⟩ := List.forall_mem_cons.1 h
    rw [List.map_cons]
    cases hsep : p c with
    | true =>
      rw [pieces_cons_of_sep (hc.trans hsep), pieces_cons_of_sep hsep, ih hcs]
      rfl
    | false =>
      obtain ⟨piece, rest, hpieces⟩ := exists_pieces_eq_cons p cs
      have hmapped := ih hcs
      rw [hpieces, List.map_cons] at hmapped
      rw [pieces_cons_of_not_sep (hc.trans hsep) hmapped, pieces_cons_of_not_sep hsep hpieces]
      rfl

theorem words_map (h : ∀ c ∈ cs, isBlank (f c) = isBlank c) :
    words (cs.map f) = (words cs).map (List.map f) := by
  rw [words, pieces_map h, List.filter_map, words]
  congr 2
  funext piece
  simp

/-! ## Words with hyphens between them -/

section

variable {words : List (List Char)} {sign : Char}

theorem head?_intercalate (h : ∀ word ∈ words, word ≠ []) :
    ([sign].intercalate words).head? = words.flatten.head? := by
  match words with
  | [] => rfl
  | [word] => simp
  | word :: next :: rest =>
    have hword := (List.forall_mem_cons.1 h).1
    rw [List.intercalate_cons_cons, List.append_assoc, List.flatten_cons,
      List.head?_append_of_ne_nil _ hword, List.head?_append_of_ne_nil _ hword]

theorem length_intercalate (words : List (List Char)) :
    ([sign].intercalate words).length = words.flatten.length + (words.length - 1) := by
  induction words with
  | nil => rfl
  | cons word words ih =>
    cases words with
    | nil => simp
    | cons next rest =>
      have hlater : (next :: rest).length - 1 = rest.length := rfl
      calc ([sign].intercalate (word :: next :: rest)).length
          = word.length + 1 + ([sign].intercalate (next :: rest)).length := by
            rw [List.intercalate_cons_cons, List.length_append, List.length_append,
              List.length_singleton]
        _ = word.length + 1 + ((next :: rest).flatten.length + rest.length) := by
            rw [ih, hlater]
        _ = word.length + (next :: rest).flatten.length + (rest.length + 1) := by omega
        _ = (word :: next :: rest).flatten.length + ((word :: next :: rest).length - 1) := by
            rw [← List.length_append, ← List.flatten_cons]
            rfl

theorem forall_mem_intercalate_iff {p : Char → Prop} (hsign : p sign) (words : List (List Char)) :
    (∀ c ∈ [sign].intercalate words, p c) ↔ ∀ c ∈ words.flatten, p c := by
  induction words with
  | nil => simp
  | cons word words ih =>
    cases words with
    | nil => simp
    | cons next rest =>
      have hflatten : (word :: next :: rest).flatten = word ++ (next :: rest).flatten :=
        List.flatten_cons
      rw [List.intercalate_cons_cons, hflatten, List.forall_mem_append, List.forall_mem_append,
        List.forall_mem_append, ih, List.forall_mem_singleton, and_iff_left hsign]

end

/-! ## Lower case of blanks -/

/-- The blanks as ranges of code points. -/
def blankRanges : List (Nat × Nat) :=
  [(9, 13), (0x20, 0x20), (0x85, 0x85), (0xA0, 0xA0), (0x1680, 0x1680), (0x2000, 0x200A),
    (0x2028, 0x2029), (0x202F, 0x202F), (0x205F, 0x205F), (0x3000, 0x3000)]

theorem isBlank_iff : isBlank c ↔ ∃ range ∈ blankRanges, range.1 ≤ c.toNat ∧ c.toNat ≤ range.2 := by
  simp only [isBlank, blankRanges, Bool.or_eq_true, Bool.and_eq_true, decide_eq_true_eq, beq_iff_eq,
    List.exists_mem_cons_iff, List.not_mem_nil, false_and, exists_false, or_false]
  omega

/-- No blank has another lower case, and none is the lower case of another character. -/
theorem lowerRuns_apart : ∀ run ∈ lowerRuns, ∀ range ∈ blankRanges,
    (run.last < range.1 ∨ range.2 < run.first) ∧
      (run.last + run.offset < range.1 ∨ range.2 < run.first + run.offset) := by
  decide +kernel

theorem isBlank_mapByRuns (hc : 128 ≤ c.toNat) :
    isBlank (mapByRuns lowerRuns c) = isBlank c := by
  rcases mapByRuns_lowerRuns_cases hc with hsame | ⟨run, hrun, hfirst, hlast, hmoved⟩
  · rw [hsame]
  · have hbefore : ¬isBlank c := by
      rw [isBlank_iff]
      rintro ⟨range, hrange, hlow, hhigh⟩
      have hapart := (lowerRuns_apart run hrun range hrange).1
      omega
    have hafter : ¬isBlank (mapByRuns lowerRuns c) := by
      rw [isBlank_iff]
      rintro ⟨range, hrange, hlow, hhigh⟩
      have hapart := (lowerRuns_apart run hrun range hrange).2
      omega
    exact Bool.eq_iff_iff.2 (iff_of_false hafter hbefore)

/-- The lower case of a character that has one of its own. -/
def smallOf (c : Char) : Char :=
  if c.toNat < 128 then c.toLower else mapByRuns lowerRuns c

theorem isBlank_smallOf (c : Char) : isBlank (smallOf c) = isBlank c := by
  unfold smallOf
  split_ifs with hascii
  · have htoLower := toNat_toLower c
    rw [Bool.eq_iff_iff, isBlank_iff, isBlank_iff]
    simp only [blankRanges, List.exists_mem_cons_iff, List.not_mem_nil, false_and, exists_false,
      or_false, htoLower]
    split_ifs <;> omega
  · exact isBlank_mapByRuns (Nat.not_lt.1 hascii)

/-- Two characters have no lower case of their own: the one depends on its neighbours, the other is
an i with a sign above. -/
theorem lowerAfter_cons_of_ne (hsigma : c ≠ 'Σ') (hdotted : c ≠ 'İ') (before cs : List Char) :
    lowerAfter before (c :: cs) = smallOf c :: lowerAfter (c :: before) cs := by
  rw [lowerAfter, if_neg hsigma, lowerChar, smallOf]
  split_ifs <;> rfl

end Text

namespace Artifact

open Text (isBlank smallOf lowerAfter)

variable {c : Char} {cs before : List Char}

/-! ## Signs -/

/-- The signs that may stand in the name of a package. -/
def packageSigns : List Char :=
  ['-', '.', '_', '~']

/-- Whether a character may stand in the name of a package. -/
def IsPackageChar (c : Char) : Prop :=
  c.isLower ∨ c.isDigit ∨ c ∈ packageSigns

instance : DecidablePred IsPackageChar :=
  fun _ ↦ inferInstanceAs (Decidable (_ ∨ _))

/-- Whether a character is fit for the name of a package once it is in lower case. The last one is
the Kelvin sign. -/
def IsFitChar (c : Char) : Prop :=
  c.isAlpha ∨ c.isDigit ∨ c ∈ packageSigns ∨ c = '\u212A'

instance : DecidablePred IsFitChar :=
  fun _ ↦ inferInstanceAs (Decidable (_ ∨ _))

theorem mem_packageSigns_iff :
    c ∈ packageSigns ↔ c.toNat = 45 ∨ c.toNat = 46 ∨ c.toNat = 95 ∨ c.toNat = 126 := by
  simp only [packageSigns, List.mem_cons, List.not_mem_nil, or_false, ← Char.toNat_inj]
  rfl

theorem isPackageChar_iff : IsPackageChar c ↔ (97 ≤ c.toNat ∧ c.toNat ≤ 122) ∨
    (48 ≤ c.toNat ∧ c.toNat ≤ 57) ∨ c.toNat = 45 ∨ c.toNat = 46 ∨ c.toNat = 95 ∨ c.toNat = 126 := by
  rw [IsPackageChar, Text.isLower_iff, Text.isDigit_iff, mem_packageSigns_iff]

theorem isFitChar_iff : IsFitChar c ↔ ((65 ≤ c.toNat ∧ c.toNat ≤ 90) ∨
    (97 ≤ c.toNat ∧ c.toNat ≤ 122)) ∨ (48 ≤ c.toNat ∧ c.toNat ≤ 57) ∨
      (c.toNat = 45 ∨ c.toNat = 46 ∨ c.toNat = 95 ∨ c.toNat = 126) ∨ c.toNat = 0x212A := by
  rw [IsFitChar, Text.isAlpha_iff, Text.isDigit_iff, mem_packageSigns_iff, ← @Char.toNat_inj c]
  rfl

theorem isPackageChar_smallOf_iff : IsPackageChar (smallOf c) ↔ IsFitChar c := by
  rw [isPackageChar_iff, isFitChar_iff]
  unfold smallOf
  split_ifs with hascii
  · rw [Text.toNat_toLower]
    split_ifs <;> omega
  · rcases Text.mapByRuns_lowerRuns (Nat.not_lt.1 hascii) with ⟨hkelvin, hletter⟩ | hbeyond
    · rw [hletter, hkelvin]
      decide
    · have hother : c.toNat ≠ 0x212A := by
        intro hkelvin
        obtain rfl : c = '\u212A' := Char.toNat_inj.1 hkelvin
        exact absurd hbeyond (by decide +kernel)
      omega

/-- Signs are their own lower case, and that of nothing else. -/
theorem smallOf_eq_iff {sign : Char} (hsign : sign ∈ packageSigns) :
    smallOf c = sign ↔ c = sign := by
  rw [mem_packageSigns_iff] at hsign
  rw [← Char.toNat_inj, ← @Char.toNat_inj c]
  unfold smallOf
  split_ifs with hascii
  · rw [Text.toNat_toLower]
    split_ifs <;> omega
  · rcases Text.mapByRuns_lowerRuns (Nat.not_lt.1 hascii) with ⟨-, hletter⟩ | hbeyond
    · have hk : 'k'.toNat = 107 := rfl
      rw [hletter, hk]
      omega
    · omega

/-! ## Lower case of a whole name -/

/-- The two characters without a lower case of their own become none that a package may have. -/
theorem exists_unfit_lowerAfter (h : c = 'Σ' ∨ c = 'İ') (before cs : List Char) :
    ∃ d ∈ lowerAfter before (c :: cs), ¬(isBlank d ∨ IsPackageChar d) := by
  rcases h with rfl | rfl
  · rw [lowerAfter, if_pos rfl]
    split_ifs
    · exact ⟨'ς', by simp, by decide⟩
    · exact ⟨'σ', by simp, by decide⟩
  · rw [lowerAfter, if_neg (by decide), Text.lowerChar, if_neg (by decide), if_pos rfl]
    exact ⟨'\u0307', by simp, by decide⟩

/-- A text has only blanks and characters for packages in lower case exactly when it has only blanks
and fit characters. -/
theorem forall_mem_lowerAfter_iff :
    (∀ d ∈ lowerAfter before cs, isBlank d ∨ IsPackageChar d) ↔
      ∀ c ∈ cs, isBlank c ∨ IsFitChar c := by
  induction cs generalizing before with
  | nil => simp [lowerAfter]
  | cons c cs ih =>
    by_cases hspecial : c = 'Σ' ∨ c = 'İ'
    · obtain ⟨d, hd, hunfit⟩ := exists_unfit_lowerAfter hspecial before cs
      refine iff_of_false (fun h ↦ hunfit (h d hd)) fun h ↦ ?_
      have hc := h c List.mem_cons_self
      rcases hspecial with rfl | rfl <;> exact absurd hc (by decide)
    · obtain ⟨hsigma, hdotted⟩ := not_or.1 hspecial
      rw [Text.lowerAfter_cons_of_ne hsigma hdotted, List.forall_mem_cons, List.forall_mem_cons, ih,
        Text.isBlank_smallOf, isPackageChar_smallOf_iff]

theorem lowerAfter_eq_map (h : ∀ c ∈ cs, isBlank c ∨ IsFitChar c) :
    lowerAfter before cs = cs.map smallOf := by
  induction cs generalizing before with
  | nil => rfl
  | cons c cs ih =>
    obtain ⟨hc, hcs⟩ := List.forall_mem_cons.1 h
    have hsigma : c ≠ 'Σ' := by
      rintro rfl
      exact absurd hc (by decide)
    have hdotted : c ≠ 'İ' := by
      rintro rfl
      exact absurd hc (by decide)
    rw [Text.lowerAfter_cons_of_ne hsigma hdotted, ih hcs, List.map_cons]

/-! ## Names -/

/-- Whether a package can have a name. -/
@[mk_iff]
structure IsPackageName (name : String) : Prop where
  ne_empty : name ≠ ""
  length_le : name.length ≤ 214
  chars : ∀ c ∈ name.toList, IsPackageChar c
  head : ∀ c ∈ name.toList.head?, c ≠ '.' ∧ c ≠ '_'

/-- Whether an app's name gives a name for its package. -/
@[mk_iff]
structure IsFitName (name : String) : Prop where
  /-- Something is left without the blanks. -/
  filled : ∃ c ∈ name.toList, !isBlank c
  /-- The hyphens count, one less than there are words. -/
  length_le :
    (name.toList.filter (!isBlank ·)).length + ((Text.words name.toList).length - 1) ≤ 214
  chars : ∀ c ∈ name.toList, isBlank c ∨ IsFitChar c
  head : ∀ c ∈ name.toList.find? (!isBlank ·), c ≠ '.' ∧ c ≠ '_'

theorem toList_packageNameOf (name : String) :
    (packageNameOf name).toList =
      ['-'].intercalate (Text.words (lowerAfter [] name.toList)) := by
  have hsame (words : List (List Char)) :
      (words.map String.ofList).map String.toList = words := by simp
  have hhyphen : "-".toList = ['-'] := rfl
  rw [packageNameOf, String.toList_intercalate, hsame, hhyphen, Text.lower, String.toList_ofList]

/-- What is asked of the name of a package is asked of the text whose words it joins. -/
theorem isPackageName_of_words_iff {name : String} (h : name.toList = ['-'].intercalate (Text.words cs)) :
    IsPackageName name ↔ (∃ c ∈ cs, !isBlank c) ∧
      (cs.filter (!isBlank ·)).length + ((Text.words cs).length - 1) ≤ 214 ∧
      (∀ c ∈ cs, isBlank c ∨ IsPackageChar c) ∧ ∀ c ∈ cs.find? (!isBlank ·), c ≠ '.' ∧ c ≠ '_' := by
  have hhead : name.toList.head? = cs.find? (!isBlank ·) := by
    rw [h, Text.head?_intercalate fun _ ↦ Text.ne_nil_of_mem_words, Text.flatten_words,
      List.head?_filter]
  have hfilled : name ≠ "" ↔ ∃ c ∈ cs, !isBlank c := by
    rw [ne_eq, ← String.toList_eq_nil_iff, ← List.head?_eq_none_iff, hhead, ← ne_eq,
      ← Option.isSome_iff_ne_none, List.find?_isSome]
  have hlength : name.length =
      (cs.filter (!isBlank ·)).length + ((Text.words cs).length - 1) := by
    rw [← String.length_toList, h, Text.length_intercalate, Text.flatten_words]
  have hchars : (∀ c ∈ name.toList, IsPackageChar c) ↔ ∀ c ∈ cs, isBlank c ∨ IsPackageChar c := by
    rw [h, Text.forall_mem_intercalate_iff (by decide), Text.flatten_words]
    simp [or_iff_not_imp_left]
  rw [isPackageName_iff, hfilled, hlength, hchars, hhead]

theorem isPackageName_packageNameOf_iff (name : String) :
    IsPackageName (packageNameOf name) ↔ IsFitName name := by
  rw [isPackageName_of_words_iff (toList_packageNameOf name)]
  by_cases hchars : ∀ c ∈ name.toList, isBlank c ∨ IsFitChar c
  · have hblank : (!isBlank ·) ∘ smallOf = (!isBlank ·) :=
      funext fun c ↦ congrArg not (Text.isBlank_smallOf c)
    have hwords :
        (Text.words (name.toList.map smallOf)).length = (Text.words name.toList).length := by
      rw [Text.words_map fun c _ ↦ Text.isBlank_smallOf c, List.length_map]
    have hfilled : (∃ c ∈ name.toList.map smallOf, !isBlank c) ↔ ∃ c ∈ name.toList, !isBlank c := by
      simp [Text.isBlank_smallOf]
    have hfirst : (∀ c ∈ (name.toList.find? (!isBlank ·)).map smallOf, c ≠ '.' ∧ c ≠ '_') ↔
        ∀ c ∈ name.toList.find? (!isBlank ·), c ≠ '.' ∧ c ≠ '_' := by
      have hdot (c : Char) : smallOf c = '.' ↔ c = '.' := smallOf_eq_iff (by decide)
      have hline (c : Char) : smallOf c = '_' ↔ c = '_' := smallOf_eq_iff (by decide)
      cases name.toList.find? (!isBlank ·) <;> simp [hdot, hline]
    rw [forall_mem_lowerAfter_iff, lowerAfter_eq_map hchars, hwords, hfilled, List.filter_map,
      List.find?_map, hblank, List.length_map, hfirst, isFitName_iff]
  · refine iff_of_false (fun h ↦ hchars ?_) fun h ↦ hchars h.chars
    exact forall_mem_lowerAfter_iff.1 h.2.2.1

/-- The manifest is written with the name of the package, which can be installed exactly when the
app's name is fit for that: nothing else is done about it. -/
theorem manifest_name_fit (spec : AppSpec) (plan : ProjectPlan) :
    ("package.json", manifestFile spec.app.name plan) ∈ (Scaffold.generatedFiles spec plan).value ∧
    (manifest spec.app.name plan).member? "name" =
      some (.string (packageNameOf spec.app.name)) ∧
    (IsPackageName (packageNameOf spec.app.name) ↔ IsFitName spec.app.name) := by
  refine ⟨?_, rfl, isPackageName_packageNameOf_iff spec.app.name⟩
  rw [Scaffold.value_generatedFiles]
  simp

/-- The recipes under a name with a sign that no package may have. -/
def boardDraft : Json :=
  Json.put (.string "Q&A Board") ["app", "name"] Project.servedDraft

def boardSpec : AppSpec :=
  { Project.servedSpec with app := { Project.servedSpec.app with name := "Q&A Board" } }

theorem boardSpec_name_unfit :
    (Project.validateDocument boardDraft).value = .ok boardSpec ∧
    (manifest boardSpec.app.name boardSpec.plan).member? "name" = some (.string "q&a-board") ∧
    ¬IsPackageName "q&a-board" := by
  refine ⟨rfl, by decide +kernel, fun h ↦ ?_⟩
  exact absurd (h.chars '&' (by decide)) (by decide)

end Artifact

end WebScaffold

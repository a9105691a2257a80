import Mathlib.Data.List.TakeWhile
import WebScaffold.Plan.Basic
import WebScaffold.Proofs.Literal
import WebScaffold.Proofs.Path

/-!
# Rendering line by line

Neither a token nor the escaped text that it stands for holds a line break, so a rendered template
has the lines of the template, each of them rendered by itself. What a line begins with in the code
is kept. So the imports of a page module are those of its source, whatever its other tokens stand
for, and where they lead is told by the one token that stands in them.
-/

namespace WebScaffold

namespace Text

variable {pat new cs : List Char} {c : Char}

theorem mem_of_mem_replaceFrom {skip : Nat} (h : c ∈ replaceFrom pat new skip cs) :
    c ∈ new ∨ c ∈ cs := by
  induction cs generalizing skip with
  | nil => cases skip <;> simp [replaceFrom] at h
  | cons d cs ih =>
    cases skip with
    | succ skip => exact (ih h).imp_right (List.mem_cons_of_mem d)
    | zero =>
      rw [replaceFrom] at h
      split at h
      · rcases List.mem_append.1 h with hnew | hrest
        · exact .inl hnew
        · exact (ih hrest).imp_right (List.mem_cons_of_mem d)
      · rcases List.mem_cons.1 h with rfl | hrest
        · exact .inr List.mem_cons_self
        · exact (ih hrest).imp_right (List.mem_cons_of_mem d)

theorem mem_of_mem_replaceAll (hpat : pat ≠ []) (h : c ∈ replaceAll pat new cs) :
    c ∈ new ∨ c ∈ cs := by
  rw [replaceAll, if_neg (by simpa using hpat)] at h
  exact mem_of_mem_replaceFrom h

theorem takeWhile_append_cons (h : c ∉ cs) (behind : List Char) :
    (cs ++ c :: behind).takeWhile (· ≠ c) = cs := by
  have hcs : ∀ d ∈ cs, decide (d ≠ c) := fun d hd ↦ decide_eq_true fun heq ↦ h (heq ▸ hd)
  rw [List.takeWhile_append_of_pos hcs, List.takeWhile_cons_of_neg (by simp), List.append_nil]

/-- The lines of a text; the last one is not ended by a line break. -/
def linesOf (cs : List Char) : List (List Char) :=
  pieces (· == '\n') cs

theorem linesOf_append_newline (front back : List Char) :
    linesOf (front ++ '\n' :: back) = linesOf front ++ linesOf back :=
  pieces_append_cons (by decide) front back

theorem linesOf_of_notMem (h : '\n' ∉ cs) : linesOf cs = [cs] := by
  apply pieces_of_forall_not
  rintro c hc
  exact beq_eq_false_iff_ne.2 fun heq ↦ h (heq ▸ hc)

end Text

open Text (linesOf)

/-! ## Lines of a template -/

namespace Template

variable {tokens : Table String} {key other value : String} {cs name rest line : List Char}

theorem newline_notMem_hexPair : ∀ n < 0x20, '\n' ∉ Json.hexPair n := by
  decide

theorem newline_notMem_escape (cs : List Char) : '\n' ∉ Json.escape cs := by
  intro h
  obtain ⟨c, -, hc⟩ := List.mem_flatMap.1 h
  unfold Json.escapeChar at hc
  split at hc
  case h_8 =>
    split_ifs at hc with hcontrol
    · have hpair := newline_notMem_hexPair c.toNat hcontrol
      simp [hpair] at hc
    · exact absurd (List.mem_singleton.1 hc).symm ‹¬c = '\n'›
  all_goals simp at hc

theorem newline_notMem_renderChars (htokens : ∀ entry ∈ tokens, IsToken entry.1)
    (h : '\n' ∉ cs) : '\n' ∉ renderChars tokens cs := by
  induction tokens generalizing cs with
  | nil => exact h
  | cons entry tokens ih =>
    obtain ⟨hentry, htokens⟩ := List.forall_mem_cons.1 htokens
    apply ih htokens
    intro hfilled
    rcases Text.mem_of_mem_replaceAll hentry.toList_ne_nil hfilled with hnew | hold
    · exact newline_notMem_escape _ hnew
    · exact h hold

theorem linesOf_renderChars (htokens : ∀ entry ∈ tokens, IsToken entry.1) (cs : List Char) :
    linesOf (renderChars tokens cs) = (linesOf cs).map (renderChars tokens) := by
  induction hlength : cs.length using Nat.strong_induction_on generalizing cs with
  | _ length ih =>
    by_cases hbreak : '\n' ∈ cs
    · obtain ⟨first, behind, rfl, hfirst⟩ := List.eq_append_cons_of_mem hbreak
      have hbehind : behind.length < length := by
        simp only [← hlength, List.length_append, List.length_cons]
        omega
      have hrendered := newline_notMem_renderChars htokens hfirst
      calc linesOf (renderChars tokens (first ++ '\n' :: behind))
        _ = linesOf (renderChars tokens first) ++ linesOf (renderChars tokens behind) := by
            rw [renderChars_append_cons htokens (by decide), Text.linesOf_append_newline]
        _ = [renderChars tokens first] ++ (linesOf behind).map (renderChars tokens) := by
            rw [Text.linesOf_of_notMem hrendered, ih behind.length hbehind behind rfl]
        _ = (linesOf (first ++ '\n' :: behind)).map (renderChars tokens) := by
            rw [Text.linesOf_append_newline, Text.linesOf_of_notMem hfirst, List.map_append,
              List.map_singleton]
    · rw [Text.linesOf_of_notMem hbreak,
        Text.linesOf_of_notMem (newline_notMem_renderChars htokens hbreak), List.map_singleton]

/-- Where no two underscores stand together there is nothing to fill in. -/
theorem renderChars_of_no_underscores (htokens : ∀ entry ∈ tokens, IsToken entry.1)
    (h : ¬['_', '_'] <:+: cs) : renderChars tokens cs = cs := by
  apply renderChars_eq_self htokens
  intro entry hentry hstands
  exact h ((htokens entry hentry).underscores.isInfix.trans hstands)

/-- What of a line stands in front of its first literal. -/
def opening (line : List Char) : List Char :=
  line.takeWhile (· ≠ '"')

theorem opening_of_notMem (h : '"' ∉ line) : opening line = line := by
  apply List.takeWhile_eq_self_iff.2
  exact fun c hc ↦ decide_eq_true fun heq ↦ h (heq ▸ hc)

theorem opening_append_quote (h : '"' ∉ cs) (behind : List Char) :
    opening (cs ++ '"' :: behind) = cs :=
  Text.takeWhile_append_cons h behind

theorem opening_renderChars (htokens : ∀ entry ∈ tokens, IsToken entry.1)
    (hopening : ¬['_', '_'] <:+: opening line) : opening (renderChars tokens line) = opening line := by
  by_cases hquote : '"' ∈ line
  · obtain ⟨code, behind, rfl, hcode⟩ := List.eq_append_cons_of_mem hquote
    rw [opening_append_quote hcode] at hopening ⊢
    rw [renderChars_append_cons htokens (by decide), renderChars_of_no_underscores htokens hopening,
      opening_append_quote hcode]
  · rw [opening_of_notMem hquote] at hopening
    rw [renderChars_of_no_underscores htokens hopening]

theorem prefix_opening_iff {pat : List Char} (hpat : '"' ∉ pat) :
    pat <+: opening line ↔ pat <+: line := by
  by_cases hquote : '"' ∈ line
  · obtain ⟨code, behind, rfl, hcode⟩ := List.eq_append_cons_of_mem hquote
    rw [opening_append_quote hcode]
    constructor
    · intro hhere
      exact hhere.trans (List.prefix_append _ _)
    · exact Text.prefix_of_prefix_append_cons hpat
  · rw [opening_of_notMem hquote]

/-! ## A token in a line -/

theorem IsToken.underscore_mem_of_isInfix (h : IsToken key) (hstands : key.toList <:+: cs) :
    '_' ∈ cs :=
  hstands.subset (h.underscores.subset List.mem_cons_self)

/-- Only one token stands in a text with just the underscores of that token. -/
theorem IsToken.eq_of_isInfix (hother : IsToken other)
    (hkey : key.toList = '_' :: '_' :: name ++ ['_', '_']) (hname : '_' ∉ name) (hrest : '_' ∉ rest)
    (h : other.toList <:+: key.toList ++ rest) : other = key := by
  obtain ⟨inner, hinner, -⟩ := hother
  obtain ⟨front, back, hsplit⟩ := h
  rw [hinner, hkey] at hsplit
  have hcount := congrArg (List.count '_') hsplit
  simp only [List.count_append, List.count_cons, List.count_nil, List.count_eq_zero.2 hname,
    List.count_eq_zero.2 hrest, beq_self_eq_true, if_true] at hcount
  have hfront : front = [] := by
    cases front with
    | nil => rfl
    | cons c front =>
      obtain rfl : c = '_' := by simpa using congrArg List.head? hsplit
      rw [List.count_cons_self] at hcount
      omega
  have hinner' : '_' ∉ inner := List.count_eq_zero.1 (by omega)
  -- what is left begins with the name up to its underscores
  rw [hfront, List.nil_append] at hsplit
  have hnames : inner ++ '_' :: '_' :: back = name ++ '_' :: '_' :: rest := by
    simpa using hsplit
  have hsame := congrArg (List.takeWhile (· ≠ '_')) hnames
  rw [Text.takeWhile_append_cons hinner', Text.takeWhile_append_cons hname] at hsame
  apply String.toList_inj.1
  rw [hinner, hkey, hsame]

theorem renderChars_token_append (htokens : ∀ entry ∈ tokens, IsToken entry.1)
    (hkey : key.toList = '_' :: '_' :: name ++ ['_', '_']) (hname : '_' ∉ name) (hrest : '_' ∉ rest)
    (hvalue : '_' ∉ Json.escape value.toList) (hlookup : tokens.lookup key = some value) :
    renderChars tokens (key.toList ++ rest) = Json.escape value.toList ++ rest := by
  induction tokens with
  | nil => cases hlookup
  | cons entry tokens ih =>
    obtain ⟨other, text⟩ := entry
    obtain ⟨hother, hothers⟩ := List.forall_mem_cons.1 htokens
    rw [renderChars_cons]
    by_cases hsame : key = other
    · subst hsame
      obtain rfl : text = value := by simpa [Table.lookup_cons] using hlookup
      have hfill : fillToken key text (key.toList ++ rest) = Json.escape text.toList ++ rest := by
        rw [fillToken, Text.replaceAll_append_left hother.toList_ne_nil, Text.replaceAll_eq_self
          hother.toList_ne_nil (fun hstands ↦ hrest (hother.underscore_mem_of_isInfix hstands))]
      rw [hfill]
      apply renderChars_of_no_underscores hothers
      intro hstands
      have hmem : '_' ∈ Json.escape text.toList ++ rest := hstands.subset List.mem_cons_self
      rcases List.mem_append.1 hmem with hmem | hmem
      · exact hvalue hmem
      · exact hrest hmem
    · have hfill : fillToken other text (key.toList ++ rest) = key.toList ++ rest := by
        apply Text.replaceAll_eq_self hother.toList_ne_nil
        intro hstands
        exact hsame (hother.eq_of_isInfix hkey hname hrest hstands).symm
      rw [Table.lookup_cons, if_neg hsame] at hlookup
      rw [hfill, ih hothers hlookup]

end Template

/-- The way up to the sources is made of dots and slashes. -/
theorem Route.dot_or_slash_of_mem_pathToSources (route : Route) :
    ∀ c ∈ route.pathToSources.toList, c = '.' ∨ c = '/' := by
  unfold pathToSources
  induction route.segments.length with
  | zero => simp
  | succ n ih =>
    rw [List.replicate_succ, List.replicate_succ, String.intercalate_cons_cons,
      ← List.replicate_succ, String.toList_append, String.toList_append]
    simp only [List.forall_mem_append]
    exact ⟨⟨by simp, by simp⟩, ih⟩

/-! ## Imports -/

namespace Artifact

open Literal Template

variable {tokens : Table String} {route : Route} {cs behind : List Char}
variable {imports others : List (List Char)} {names target src rest : String}

def importWord : List Char := ['i', 'm', 'p', 'o', 'r', 't', ' ']

/-- The lines of a text that import something. -/
def importLines (cs : List Char) : List (List Char) :=
  (linesOf cs).filter (importWord.isPrefixOf ·)

/-- A block of lines that all begin in the code, with the ones among them that import something. -/
structure IsBlock (cs : List Char) (imports : List (List Char)) : Prop where
  ended : cs.getLast? = some '\n'
  opening : ∀ line ∈ linesOf cs, ¬['_', '_'] <:+: opening line
  imports : importLines cs = imports

instance (cs : List Char) (imports : List (List Char)) : Decidable (IsBlock cs imports) :=
  decidable_of_iff (cs.getLast? = some '\n' ∧
    (∀ line ∈ linesOf cs, ¬['_', '_'] <:+: opening line) ∧ importLines cs = imports)
    ⟨fun h ↦ ⟨h.1, h.2.1, h.2.2⟩, fun h ↦ ⟨h.ended, h.opening, h.imports⟩⟩

theorem IsBlock.append (h : IsBlock cs imports) (hbehind : IsBlock behind others) :
    IsBlock (cs ++ behind) (imports ++ others) := by
  obtain ⟨front, hfront⟩ := List.getLast?_eq_some_iff.1 h.ended
  have hcs : linesOf cs = linesOf front ++ [[]] := by
    rw [hfront, Text.linesOf_append_newline]
    rfl
  have hlines : linesOf (cs ++ behind) = linesOf front ++ linesOf behind := by
    rw [hfront, List.append_assoc, List.singleton_append, Text.linesOf_append_newline]
  constructor
  · rw [List.getLast?_append, hbehind.ended]
    rfl
  · rw [hlines, List.forall_mem_append]
    constructor
    · intro line hline
      apply h.opening
      rw [hcs]
      exact List.mem_append_left _ hline
    · exact hbehind.opening
  · have himports : importLines cs = (linesOf front).filter (importWord.isPrefixOf ·) := by
      rw [importLines, hcs, List.filter_append]
      exact List.append_nil _
    rw [importLines, hlines, List.filter_append, ← himports, h.imports]
    exact congrArg (imports ++ ·) hbehind.imports

theorem importLines_renderChars (htokens : ∀ entry ∈ tokens, IsToken entry.1)
    (h : IsBlock cs imports) :
    importLines (renderChars tokens cs) = imports.map (renderChars tokens) := by
  rw [← h.imports, importLines, linesOf_renderChars htokens, List.filter_map, importLines]
  congr 1
  apply List.filter_congr
  intro line hline
  have hopening := opening_renderChars htokens (h.opening line hline)
  have hquote : '"' ∉ importWord := by decide
  rw [Function.comp_apply, Bool.eq_iff_iff, List.isPrefixOf_iff_prefix, List.isPrefixOf_iff_prefix,
    ← prefix_opening_iff hquote, hopening, prefix_opening_iff hquote]

theorem isBlock_bodyBlocks : ∀ block ∈ bodyBlocks, IsBlock (Text.lineChars block) [] :=
  forall_bodyBlocks (p := (IsBlock · [])) (by decide +kernel)

theorem isBlock_import : ∀ line ∈ [importFixtures, importDatabase],
    IsBlock (Text.lineChars [line]) [line.toList] := by
  decide +kernel

theorem isBlock_pageSource (route : Route) (onServer withFixtures : Bool) :
    IsBlock (pageSource route onServer withFixtures).toList
      ((sourceImports onServer withFixtures).map String.toList) := by
  have hbody : IsBlock (Text.lineChars (pageBody route onServer withFixtures)) [] :=
    pageBody_of_blocks (p := (IsBlock · [])) IsBlock.append route onServer withFixtures
      isBlock_bodyBlocks
  have hfixtures := isBlock_import importFixtures (by simp)
  have hdatabase := isBlock_import importDatabase (by simp)
  rw [pageSource, Text.toList_lines, pageLines_eq, Text.lineChars_append]
  cases onServer <;> cases withFixtures
  · exact hbody
  · exact hfixtures.append hbody
  · exact hdatabase.append hbody
  · exact (hfixtures.append hdatabase).append hbody

/-- The line that imports names from a module. -/
def importLine (names target : String) : String :=
  "import " ++ names ++ " from \"" ++ target ++ "\";"

theorem importFixtures_eq :
    importFixtures = importLine "fixtures" ("__SRC__" ++ "/lib/fixtures.json") := by
  decide +kernel

theorem importDatabase_eq :
    importDatabase = importLine "{ db }" ("__SRC__" ++ "/lib/db") := by
  decide +kernel

theorem toList_importLine (names target : String) : (importLine names target).toList =
    ("import " ++ names ++ " from ").toList ++ '"' :: (target.toList ++ '"' :: [';']) := by
  simp [importLine]

theorem parts_importLine (hnames : '"' ∉ names.toList) (htarget : '"' ∉ target.toList)
    (hbackslash : '\\' ∉ target.toList) :
    parts .code (importLine names target).toList =
      ["import " ++ names ++ " from ", target, ";"].map String.toList := by
  have hfront : '"' ∉ ("import " ++ names ++ " from ").toList := by
    simpa using hnames
  rw [toList_importLine, parts_code_append hfront,
    (holds_of_notMem htarget hbackslash).parts_literal_append, parts_code_of_notMem (by decide)]
  rfl

theorem escape_of_forall {cs : List Char} (h : ∀ c ∈ cs, c = '.' ∨ c = '/') :
    Json.escape cs = cs := by
  induction cs with
  | nil => rfl
  | cons c cs ih =>
    obtain ⟨hc, hcs⟩ := List.forall_mem_cons.1 h
    have hchar : Json.escapeChar c = [c] := by
      rcases hc with rfl | rfl <;> rfl
    rw [Json.escape, List.flatMap_cons, hchar]
    exact congrArg (c :: ·) (ih hcs)

theorem renderChars_importLine (htokens : ∀ entry ∈ tokens, IsToken entry.1)
    (hlookup : tokens.lookup "__SRC__" = some src) (hsrc : ∀ c ∈ src.toList, c = '.' ∨ c = '/')
    (hnames : '_' ∉ names.toList) (hrest : '_' ∉ rest.toList) :
    renderChars tokens (importLine names ("__SRC__" ++ rest)).toList =
      (importLine names (src ++ rest)).toList := by
  have hplain {cs : List Char} (h : '_' ∉ cs) : renderChars tokens cs = cs :=
    renderChars_of_no_underscores htokens fun hstands ↦ h (hstands.subset List.mem_cons_self)
  have hescape := escape_of_forall hsrc
  have hvalue : '_' ∉ Json.escape src.toList := by
    rw [hescape]
    intro hmem
    have hchar := hsrc _ hmem
    simp at hchar
  have htarget : renderChars tokens ("__SRC__" ++ rest).toList = (src ++ rest).toList := by
    have hkey : "__SRC__".toList = '_' :: '_' :: ['S', 'R', 'C'] ++ ['_', '_'] := by decide
    have hfilled := renderChars_token_append htokens hkey (by decide) hrest hvalue hlookup
    rw [String.toList_append, String.toList_append, hfilled, hescape]
  have hfront : '_' ∉ ("import " ++ names ++ " from ").toList := by
    simpa using hnames
  calc renderChars tokens (importLine names ("__SRC__" ++ rest)).toList
    _ = renderChars tokens ("import " ++ names ++ " from ").toList ++
          '"' :: (renderChars tokens ("__SRC__" ++ rest).toList ++
            '"' :: renderChars tokens [';']) := by
        rw [toList_importLine, renderChars_append_cons htokens (by decide),
          renderChars_append_cons htokens (by decide)]
    _ = (importLine names (src ++ rest)).toList := by
        rw [hplain hfront, htarget, hplain (by decide), toList_importLine]

/-- What a page module imports, and from where. -/
def pageImports (route : Route) (onServer withFixtures : Bool) : List String :=
  (if withFixtures then [importLine "fixtures" (route.pathToSources ++ "/lib/fixtures.json")]
    else []) ++
    (if onServer then [importLine "{ db }" (route.pathToSources ++ "/lib/db")] else [])

theorem mem_pageImports_iff {onServer withFixtures : Bool} {line : List Char} :
    line ∈ (pageImports route onServer withFixtures).map String.toList ↔
      withFixtures ∧
          line = (importLine "fixtures" (route.pathToSources ++ "/lib/fixtures.json")).toList ∨
        onServer ∧ line = (importLine "{ db }" (route.pathToSources ++ "/lib/db")).toList := by
  unfold pageImports
  cases onServer <;> cases withFixtures <;> simp

theorem importLines_pageModule (htokens : ∀ entry ∈ tokens, IsToken entry.1) (route : Route)
    (onServer withFixtures : Bool) :
    importLines (pageModule route tokens onServer withFixtures).toList =
      (pageImports route onServer withFixtures).map String.toList := by
  have hall := isToken_of_mem_insertAll htokens route
  have hlookup : (tokens.insertAll (pageTokens route)).lookup "__SRC__" =
      some route.pathToSources := by
    rw [Table.lookup_insertAll]
    unfold pageTokens
    cases route.param <;> rfl
  have hchars := route.dot_or_slash_of_mem_pathToSources
  have hfixtures : renderChars (tokens.insertAll (pageTokens route)) importFixtures.toList =
      (importLine "fixtures" (route.pathToSources ++ "/lib/fixtures.json")).toList := by
    rw [importFixtures_eq]
    exact renderChars_importLine hall hlookup hchars (by decide) (by decide)
  have hdatabase : renderChars (tokens.insertAll (pageTokens route)) importDatabase.toList =
      (importLine "{ db }" (route.pathToSources ++ "/lib/db")).toList := by
    rw [importDatabase_eq]
    exact renderChars_importLine hall hlookup hchars (by decide) (by decide)
  rw [pageModule, Template.render, String.toList_ofList,
    importLines_renderChars hall (isBlock_pageSource route onServer withFixtures), sourceImports,
    pageImports]
  cases onServer <;> cases withFixtures <;> simp [hfixtures, hdatabase]

end Artifact

end WebScaffold

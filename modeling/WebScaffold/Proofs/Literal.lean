import Mathlib.Data.List.Infix
import Mathlib.Tactic.Common
import WebScaffold.Artifact.PageModule
import WebScaffold.Plan.Basic
import WebScaffold.Proofs.Table

/-!
# String literals in templates

A reader of code takes a text apart at the quotes that open and close its string literals. Tokens
stand inside of literals, and what a token stands for is escaped as in one. So rendering a template
changes what its literals hold, each by itself, and leaves the code around them as it is, whatever
the tokens stand for. In the module of a page the code depends on the kind of the page only.
-/

namespace WebScaffold

namespace Text

/-! ## Lines -/

/-- The characters of the given lines, each with its line break. -/
def lineChars (texts : List String) : List Char :=
  texts.flatMap fun text ↦ text.toList ++ ['\n']

theorem lineChars_append (front back : List String) :
    lineChars (front ++ back) = lineChars front ++ lineChars back :=
  List.flatMap_append

theorem toList_lines (texts : List String) : (lines texts).toList = lineChars texts := by
  simp [lines, lineChars, String.toList_join, List.flatMap_map]

/-! ## Replacing -/

variable {pat new cs : List Char}

theorem replaceFrom_eq_drop (pat new : List Char) (skip : Nat) (cs : List Char) :
    replaceFrom pat new skip cs = replaceFrom pat new 0 (cs.drop skip) := by
  induction cs generalizing skip with
  | nil => cases skip <;> simp [replaceFrom]
  | cons c cs ih =>
    cases skip with
    | zero => rfl
    | succ skip => exact ih skip

theorem afterPrefix?_eq_none (h : ¬pat <+: cs) : afterPrefix? pat cs = none := by
  cases hafter : afterPrefix? pat cs with
  | none => rfl
  | some rest => exact absurd ⟨rest, (eq_append_of_afterPrefix? hafter).symm⟩ h

theorem replaceAll_nil (hpat : pat ≠ []) : replaceAll pat new [] = [] := by
  simp [replaceAll, hpat, replaceFrom]

theorem replaceAll_append_left (hpat : pat ≠ []) (rest : List Char) :
    replaceAll pat new (pat ++ rest) = new ++ replaceAll pat new rest := by
  obtain ⟨p, pat, rfl⟩ := List.exists_cons_of_ne_nil hpat
  have hafter := afterPrefix?_append (p :: pat) rest
  rw [List.cons_append] at hafter
  simp only [replaceAll, List.isEmpty_cons, Bool.false_eq_true, if_false, List.cons_append,
    replaceFrom, hafter, List.length_cons, Nat.add_sub_cancel]
  rw [replaceFrom_eq_drop, List.drop_left]

theorem replaceAll_cons (hpat : pat ≠ []) {c : Char} (h : ¬pat <+: c :: cs) :
    replaceAll pat new (c :: cs) = c :: replaceAll pat new cs := by
  have hempty : pat.isEmpty = false := by simpa using hpat
  simp only [replaceAll, hempty, Bool.false_eq_true, if_false, replaceFrom, afterPrefix?_eq_none h]

theorem replaceAll_eq_self (hpat : pat ≠ []) (h : ¬pat <:+: cs) : replaceAll pat new cs = cs := by
  induction cs with
  | nil => exact replaceAll_nil hpat
  | cons c cs ih =>
    have hhead : ¬pat <+: c :: cs := fun hhere ↦ h hhere.isInfix
    have htail : ¬pat <:+: cs := fun hstands ↦ h (List.infix_cons hstands)
    rw [replaceAll_cons hpat hhead, ih htail]

theorem not_prefix_cons_of_notMem {c : Char} (hpat : pat ≠ []) (hc : c ∉ pat) :
    ¬pat <+: c :: cs := by
  intro hhere
  obtain ⟨p, rest, rfl⟩ := List.exists_cons_of_ne_nil hpat
  rw [List.cons_prefix_cons] at hhere
  exact hc (hhere.1 ▸ List.mem_cons_self)

theorem prefix_of_prefix_append_cons {c : Char} (hc : c ∉ pat) {front back : List Char}
    (h : pat <+: front ++ c :: back) : pat <+: front := by
  have hfront : front ++ [c] <+: front ++ c :: back :=
    (List.prefix_append_right_inj front).2 (by simp)
  rcases List.prefix_or_prefix_of_prefix h hfront with hpat | hpat
  · rcases List.prefix_concat_iff.1 hpat with rfl | hpat
    · simp at hc
    · exact hpat
  · exact absurd (hpat.subset (by simp)) hc

/-- No occurrence of a text goes across a character that it does not hold. -/
theorem replaceAll_append_cons (hpat : pat ≠ []) {c : Char} (hc : c ∉ pat)
    (front back : List Char) :
    replaceAll pat new (front ++ c :: back) =
      replaceAll pat new front ++ c :: replaceAll pat new back := by
  induction hlength : front.length using Nat.strong_induction_on generalizing front with
  | _ length ih =>
    by_cases hhere : pat <+: front
    · obtain ⟨rest, rfl⟩ := hhere
      have hpos : 0 < pat.length := List.length_pos_iff.2 hpat
      have hrest : rest.length < length := by
        rw [← hlength, List.length_append]
        omega
      rw [List.append_assoc, replaceAll_append_left hpat, replaceAll_append_left hpat,
        ih rest.length hrest rest rfl, List.append_assoc]
    · cases front with
      | nil =>
        have hhead : ¬pat <+: c :: back := not_prefix_cons_of_notMem hpat hc
        rw [List.nil_append, replaceAll_cons hpat hhead, replaceAll_nil hpat, List.nil_append]
      | cons first front =>
        have hwhole : ¬pat <+: first :: (front ++ c :: back) := by
          intro hwhole
          exact hhere (prefix_of_prefix_append_cons hc hwhole)
        have hrest : front.length < length := by
          rw [← hlength, List.length_cons]
          exact Nat.lt_succ_self _
        rw [List.cons_append, replaceAll_cons hpat hwhole, replaceAll_cons hpat hhere,
          ih front.length hrest front rfl, List.cons_append]

end Text

/-! ## Code and literals -/

namespace Literal

/-- Where a reader of code stands: in the code, in a literal, or in a literal right behind a
backslash. -/
inductive Place where
  | code
  | literal
  | escape
deriving DecidableEq, Repr

def Place.next (place : Place) (c : Char) : Place :=
  match place with
  | .code => if c = '"' then .literal else .code
  | .literal => if c = '"' then .code else if c = '\\' then .escape else .literal
  | .escape => .literal

/-- The parts of a text between the quotes that open and close its literals. Code and what a literal
holds take turns, and code comes first for a reader who stands in the code. -/
def parts (place : Place) : List Char → List (List Char)
  | [] => [[]]
  | c :: cs =>
    if c = '"' ∧ place ≠ .escape then [] :: parts (place.next c) cs
    else (parts (place.next c) cs).modifyHead (c :: ·)

/-- The first of the parts and every other one after it. -/
def everyOther : List (List Char) → List (List Char)
  | part :: _ :: rest => part :: everyOther rest
  | rest => rest

/-- The code of a text, in the pieces that its literals leave. -/
def outside (text : String) : List (List Char) :=
  everyOther (parts .code text.toList)

/-- What the literals of a text hold, as it is written. The last one need not be closed. -/
def contents (text : String) : List (List Char) :=
  everyOther (parts .code text.toList).tail

/-- Any text is code, or code and a literal that is not closed, or code and a literal with such a
text behind it. -/
inductive Quoted : List Char → Prop where
  | code {code : List Char} (hcode : '"' ∉ code) : Quoted code
  | unclosed {code held : List Char} (hcode : '"' ∉ code) (hheld : '"' ∉ held) :
    Quoted (code ++ '"' :: held)
  | closed {code held rest : List Char} (hcode : '"' ∉ code) (hheld : '"' ∉ held)
    (hrest : Quoted rest) : Quoted (code ++ '"' :: (held ++ '"' :: rest))

theorem quoted (cs : List Char) : Quoted cs := by
  induction hlength : cs.length using Nat.strong_induction_on generalizing cs with
  | _ length ih =>
    by_cases hopens : '"' ∈ cs
    · obtain ⟨code, behind, rfl, hcode⟩ := List.eq_append_cons_of_mem hopens
      by_cases hcloses : '"' ∈ behind
      · obtain ⟨held, rest, rfl, hheld⟩ := List.eq_append_cons_of_mem hcloses
        have hrest : rest.length < length := by
          simp only [← hlength, List.length_append, List.length_cons]
          omega
        exact .closed hcode hheld (ih rest.length hrest rest rfl)
      · exact .unclosed hcode hcloses
    · exact .code hopens

/-- The parts with what the literals hold changed. -/
def onLiterals (f : List Char → List Char) : List (List Char) → List (List Char)
  | code :: held :: rest => code :: f held :: onLiterals f rest
  | rest => rest

theorem everyOther_cons (part : List Char) (rest : List (List Char)) :
    everyOther (part :: rest) = part :: everyOther rest.tail := by
  cases rest <;> rfl

theorem everyOther_onLiterals (f : List Char → List Char) (ps : List (List Char)) :
    everyOther (onLiterals f ps) = everyOther ps := by
  induction ps using onLiterals.induct with
  | case1 code held rest ih => rw [onLiterals, everyOther, everyOther, ih]
  | case2 rest h =>
    rw [onLiterals]
    exact h

theorem everyOther_tail_onLiterals (f : List Char → List Char) (ps : List (List Char)) :
    everyOther (onLiterals f ps).tail = (everyOther ps.tail).map f := by
  induction ps using onLiterals.induct with
  | case1 code held rest ih =>
    rw [onLiterals, List.tail_cons, List.tail_cons, everyOther_cons, everyOther_cons, ih,
      List.map_cons]
  | case2 rest h =>
    match rest, h with
    | [], _ => rfl
    | [code], _ => rfl
    | code :: held :: rest, h => exact absurd rfl (h code held rest)

/-- What may stand between the quotes of a literal: no quote as such, and behind a backslash a
character that begins no token. -/
inductive Holds : List Char → Prop where
  | nil : Holds []
  | plain {c : Char} {cs : List Char} (hquote : c ≠ '"') (hbackslash : c ≠ '\\') (hcs : Holds cs) :
    Holds (c :: cs)
  | escaped {c : Char} {cs : List Char} (hc : c ≠ '_') (hcs : Holds cs) : Holds ('\\' :: c :: cs)

variable {cs held rest : List Char}

theorem parts_code_of_notMem (h : '"' ∉ cs) : parts .code cs = [cs] := by
  induction cs with
  | nil => rfl
  | cons c cs ih =>
    obtain ⟨hc, hcs⟩ := List.ne_and_not_mem_of_not_mem_cons h
    simp [parts, Place.next, Ne.symm hc, ih hcs]

theorem parts_code_append (h : '"' ∉ cs) (rest : List Char) :
    parts .code (cs ++ '"' :: rest) = cs :: parts .literal rest := by
  induction cs with
  | nil => simp [parts, Place.next]
  | cons c cs ih =>
    obtain ⟨hc, hcs⟩ := List.ne_and_not_mem_of_not_mem_cons h
    simp [parts, Place.next, Ne.symm hc, ih hcs]

theorem Holds.parts_literal (h : Holds held) : parts .literal held = [held] := by
  induction h with
  | nil => rfl
  | plain hquote hbackslash _ ih => simp [parts, Place.next, hquote, hbackslash, ih]
  | escaped _ _ ih => simp [parts, Place.next, ih]

theorem Holds.parts_literal_append (h : Holds held) (rest : List Char) :
    parts .literal (held ++ '"' :: rest) = held :: parts .code rest := by
  induction h with
  | nil => simp [parts, Place.next]
  | plain hquote hbackslash _ ih => simp [parts, Place.next, hquote, hbackslash, ih]
  | escaped _ _ ih => simp [parts, Place.next, ih]

theorem holds_of_notMem (hquote : '"' ∉ cs) (hbackslash : '\\' ∉ cs) : Holds cs := by
  induction cs with
  | nil => exact .nil
  | cons c cs ih =>
    obtain ⟨hc, hcs⟩ := List.ne_and_not_mem_of_not_mem_cons hquote
    obtain ⟨hc', hcs'⟩ := List.ne_and_not_mem_of_not_mem_cons hbackslash
    exact .plain hc.symm hc'.symm (ih hcs hcs')

theorem Holds.append {other : List Char} (h : Holds held) (hother : Holds other) :
    Holds (held ++ other) := by
  induction h with
  | nil => exact hother
  | plain hquote hbackslash _ ih => exact .plain hquote hbackslash ih
  | escaped hc _ ih => exact .escaped hc ih

theorem Holds.of_cons {c : Char} (hbackslash : c ≠ '\\') (h : Holds (c :: cs)) : Holds cs := by
  cases h with
  | plain _ _ hcs => exact hcs
  | escaped _ _ => exact absurd rfl hbackslash

/-- What is left behind a text without backslashes. -/
theorem Holds.of_append (hbackslash : '\\' ∉ cs) (h : Holds (cs ++ rest)) : Holds rest := by
  induction cs with
  | nil => exact h
  | cons c cs ih =>
    obtain ⟨hc, hcs⟩ := List.ne_and_not_mem_of_not_mem_cons hbackslash
    exact ih hcs (h.of_cons hc.symm)

theorem holds_hexPair : ∀ n < 0x20, '"' ∉ Json.hexPair n ∧ '\\' ∉ Json.hexPair n := by
  decide

theorem holds_escapeChar (c : Char) : Holds (Json.escapeChar c) := by
  unfold Json.escapeChar
  split
  case h_8 hquote hbackslash _ _ _ _ _ =>
    split_ifs with hcontrol
    · obtain ⟨hpairQuote, hpairBackslash⟩ := holds_hexPair c.toNat hcontrol
      refine .escaped (by decide) (holds_of_notMem ?_ ?_)
      · simpa using hpairQuote
      · simpa using hpairBackslash
    · exact .plain hquote hbackslash .nil
  all_goals exact .escaped (by decide) .nil

theorem holds_escape (cs : List Char) : Holds (Json.escape cs) := by
  induction cs with
  | nil => exact .nil
  | cons c cs ih => exact (holds_escapeChar c).append ih

/-- Whether a text that is read behind a character has no backslash, no two underscores together in
its code, and ends in the code with a line break. -/
def isTidy : Place → Char → List Char → Bool
  | place, before, [] => place = .code ∧ before = '\n'
  | place, before, c :: cs =>
    (c ≠ '\\' ∧ ¬(place = .code ∧ before = '_' ∧ c = '_')) ∧ isTidy (place.next c) c cs

variable {place : Place} {before : Char}

theorem isTidy_cons {c : Char} : isTidy place before (c :: cs) ↔
    (c ≠ '\\' ∧ ¬(place = .code ∧ before = '_' ∧ c = '_')) ∧ isTidy (place.next c) c cs := by
  rw [isTidy, decide_eq_true_eq]

theorem isTidy_append (h : isTidy place before cs) (hrest : isTidy .code '\n' rest) :
    isTidy place before (cs ++ rest) := by
  induction cs generalizing place before with
  | nil =>
    rw [isTidy, decide_eq_true_eq] at h
    rw [h.1, h.2]
    exact hrest
  | cons c cs ih =>
    rw [isTidy_cons] at h
    rw [List.cons_append, isTidy_cons]
    exact ⟨h.1, ih h.2⟩

theorem backslash_notMem_of_isTidy (h : isTidy place before cs) : '\\' ∉ cs := by
  induction cs generalizing place before with
  | nil => exact List.not_mem_nil
  | cons c cs ih =>
    rw [isTidy_cons] at h
    exact List.not_mem_cons_of_ne_of_not_mem h.1.1.symm (ih h.2)

/-- What a tidy text begins with in the code has no two underscores together. -/
theorem not_infix_of_isTidy (h : isTidy .code before (cs ++ rest)) (hquote : '"' ∉ cs) :
    ¬['_', '_'] <:+: cs := by
  induction cs generalizing before with
  | nil => decide
  | cons c cs ih =>
    obtain ⟨hc, hcs⟩ := List.ne_and_not_mem_of_not_mem_cons hquote
    rw [List.cons_append, isTidy_cons, Place.next, if_neg hc.symm] at h
    rw [List.infix_cons_iff, not_or]
    refine ⟨?_, ih h.2 hcs⟩
    cases cs with
    | nil => simp
    | cons d cs =>
      intro htogether
      simp only [List.cons_prefix_cons, List.nil_prefix, and_true] at htogether
      rw [List.cons_append, isTidy_cons] at h
      exact h.2.1.2 ⟨rfl, htogether.1.symm, htogether.2.symm⟩

/-- Up to its first quote a tidy text is at one place, and the quote is the end of that. -/
theorem isTidy_of_quote (h : isTidy place before (cs ++ '"' :: rest)) (hplace : place ≠ .escape)
    (hquote : '"' ∉ cs) : isTidy (place.next '"') '"' rest := by
  induction cs generalizing before with
  | nil =>
    rw [List.nil_append, isTidy_cons] at h
    exact h.2
  | cons c cs ih =>
    obtain ⟨hc, hcs⟩ := List.ne_and_not_mem_of_not_mem_cons hquote
    rw [List.cons_append, isTidy_cons] at h
    have hstays : place.next c = place := by
      cases place with
      | code => exact if_neg hc.symm
      | literal => exact (if_neg hc.symm).trans (if_neg h.1.1)
      | escape => exact absurd rfl hplace
    rw [hstays] at h
    exact ih h.2 hcs

/-- In the code of a tidy text no two underscores stand together. -/
theorem not_infix_code_of_isTidy (h : isTidy .code before cs) :
    ∀ code ∈ everyOther (parts .code cs), ¬['_', '_'] <:+: code := by
  induction quoted cs generalizing before with
  | @code code hplain =>
    rw [parts_code_of_notMem hplain]
    rw [← List.append_nil code] at h
    exact List.forall_mem_singleton.2 (not_infix_of_isTidy h hplain)
  | unclosed hplain hheld =>
    have hbehind := isTidy_of_quote h (by decide) hplain
    have hholds := holds_of_notMem hheld (backslash_notMem_of_isTidy hbehind)
    rw [parts_code_append hplain, hholds.parts_literal]
    exact List.forall_mem_singleton.2 (not_infix_of_isTidy h hplain)
  | closed hplain hheld _ ih =>
    have hbehind := isTidy_of_quote h (by decide) hplain
    have hbackslash := backslash_notMem_of_isTidy hbehind
    have hholds := holds_of_notMem hheld fun hmem ↦ hbackslash (List.mem_append_left _ hmem)
    rw [parts_code_append hplain, hholds.parts_literal_append, everyOther]
    have hrest := ih (isTidy_of_quote hbehind (by decide) hheld)
    exact List.forall_mem_cons.2 ⟨not_infix_of_isTidy h hplain, hrest⟩

end Literal

/-! ## Rendering -/

namespace Template

open Literal

variable {tokens : Table String} {key : String} {cs held : List Char}

/-- A name of capital letters, digits and underscores between two underscores on either side. -/
def IsToken (key : String) : Prop :=
  ∃ name : List Char, key.toList = '_' :: '_' :: name ++ ['_', '_'] ∧
    ∀ c ∈ name, c.isUpper ∨ c.isDigit ∨ c = '_'

theorem isToken_iff : IsToken key ↔ 4 ≤ key.toList.length ∧ ['_', '_'] <+: key.toList ∧
    ['_', '_'] <:+ key.toList ∧ ∀ c ∈ key.toList, c.isUpper ∨ c.isDigit ∨ c = '_' := by
  constructor
  · rintro ⟨name, hkey, hname⟩
    rw [hkey]
    refine ⟨by simp, by simp, List.suffix_append _ _, ?_⟩
    intro c hc
    simp only [List.cons_append, List.mem_cons, List.mem_append, List.not_mem_nil, or_false] at hc
    grind
  · rintro ⟨hlength, ⟨rest, hrest⟩, hend, hall⟩
    rw [← hrest] at hlength hend hall
    have hshort : ['_', '_'].length ≤ rest.length := by
      simp only [List.length_append, List.length_cons, List.length_nil] at hlength ⊢
      omega
    obtain ⟨name, rfl⟩ := List.suffix_of_suffix_length_le hend (List.suffix_append _ _) hshort
    refine ⟨name, hrest.symm, fun c hc ↦ hall c ?_⟩
    simp [hc]

instance (key : String) : Decidable (IsToken key) :=
  decidable_of_iff (4 ≤ key.toList.length ∧ ['_', '_'] <+: key.toList ∧
    ['_', '_'] <:+ key.toList ∧ key.toList.all fun c ↦ c.isUpper || c.isDigit || c == '_')
    (by simp only [isToken_iff, List.all_eq_true, Bool.or_eq_true, beq_iff_eq, or_assoc])

/-- The names of all tokens that files are rendered with: those of the planner and those of a page's
own. -/
def tokenNames : List String :=
  [Plan.Token.appName, Plan.Token.subhead, Plan.Token.collection, Plan.Token.singular,
    Plan.Token.primaryHref, Plan.Token.primaryLabel] ++ Plan.Token.features ++
    ["__SRC__", "__TITLE__", "__LABEL__", "__BASE__", "__PARAM__"]

theorem isToken_of_mem_tokenNames : ∀ name ∈ tokenNames, IsToken name := by
  decide +kernel

theorem IsToken.isUpper_or_isDigit (h : IsToken key) {c : Char} (hc : c ∈ key.toList) :
    c.isUpper ∨ c.isDigit ∨ c = '_' :=
  (isToken_iff.1 h).2.2.2 c hc

theorem IsToken.notMem (h : IsToken key) {c : Char} (hc : ¬(c.isUpper ∨ c.isDigit ∨ c = '_')) :
    c ∉ key.toList :=
  fun hmem ↦ hc (h.isUpper_or_isDigit hmem)

theorem IsToken.underscores (h : IsToken key) : ['_', '_'] <+: key.toList :=
  (isToken_iff.1 h).2.1

theorem IsToken.toList_ne_nil (h : IsToken key) : key.toList ≠ [] := by
  intro hnil
  have hhere := h.underscores
  simp [hnil] at hhere

theorem IsToken.not_prefix_cons (h : IsToken key) {c : Char} (hc : c ≠ '_') :
    ¬key.toList <+: c :: cs := by
  intro hhere
  have hunderscores := h.underscores.trans hhere
  rw [List.cons_prefix_cons] at hunderscores
  exact hc hunderscores.1.symm

theorem renderChars_cons (entry : String × String) (tokens : Table String) (cs : List Char) :
    renderChars (entry :: tokens) cs = renderChars tokens (fillToken entry.1 entry.2 cs) := rfl

/-- No token goes across a character that is in none. -/
theorem renderChars_append_cons (h : ∀ entry ∈ tokens, IsToken entry.1) {c : Char}
    (hc : ¬(c.isUpper ∨ c.isDigit ∨ c = '_')) (front back : List Char) :
    renderChars tokens (front ++ c :: back) =
      renderChars tokens front ++ c :: renderChars tokens back := by
  induction tokens generalizing front back with
  | nil => rfl
  | cons entry tokens ih =>
    obtain ⟨hentry, htokens⟩ := List.forall_mem_cons.1 h
    have hfill : fillToken entry.1 entry.2 (front ++ c :: back) =
        fillToken entry.1 entry.2 front ++ c :: fillToken entry.1 entry.2 back :=
      Text.replaceAll_append_cons hentry.toList_ne_nil (hentry.notMem hc) front back
    rw [renderChars_cons, hfill, ih htokens]
    rfl

theorem renderChars_eq_self (h : ∀ entry ∈ tokens, IsToken entry.1)
    (hcs : ∀ entry ∈ tokens, ¬entry.1.toList <:+: cs) : renderChars tokens cs = cs := by
  induction tokens with
  | nil => rfl
  | cons entry tokens ih =>
    obtain ⟨hentry, htokens⟩ := List.forall_mem_cons.1 h
    obtain ⟨hhead, htail⟩ := List.forall_mem_cons.1 hcs
    have hfill : fillToken entry.1 entry.2 cs = cs :=
      Text.replaceAll_eq_self hentry.toList_ne_nil hhead
    rw [renderChars_cons, hfill, ih htokens htail]

/-- A token begins with an underscore and holds no backslash, so no occurrence of it takes an escape
apart. -/
theorem holds_fillToken (hkey : IsToken key) (text : String) (h : Holds held) :
    Holds (fillToken key text held) := by
  induction hlength : held.length using Nat.strong_induction_on generalizing held with
  | _ length ih =>
    by_cases hhere : key.toList <+: held
    · obtain ⟨rest, rfl⟩ := hhere
      have hpos : 0 < key.toList.length := List.length_pos_iff.2 hkey.toList_ne_nil
      have hrest : rest.length < length := by
        rw [← hlength, List.length_append]
        omega
      rw [fillToken, Text.replaceAll_append_left hkey.toList_ne_nil]
      exact (holds_escape _).append (ih rest.length hrest (h.of_append (hkey.notMem (by decide))) rfl)
    · cases h with
      | nil =>
        rw [fillToken, Text.replaceAll_nil hkey.toList_ne_nil]
        exact .nil
      | @plain c cs hquote hbackslash hcs =>
        rw [fillToken, Text.replaceAll_cons hkey.toList_ne_nil hhere]
        exact .plain hquote hbackslash (ih cs.length (by simp [← hlength]) hcs rfl)
      | @escaped c cs hc hcs =>
        have hnext : ¬key.toList <+: c :: cs := hkey.not_prefix_cons hc
        rw [fillToken, Text.replaceAll_cons hkey.toList_ne_nil hhere,
          Text.replaceAll_cons hkey.toList_ne_nil hnext]
        have hlt : cs.length < length := by
          rw [← hlength, List.length_cons, List.length_cons]
          omega
        exact .escaped hc (ih cs.length hlt hcs rfl)

theorem holds_renderChars (htokens : ∀ entry ∈ tokens, IsToken entry.1) (h : Holds held) :
    Holds (renderChars tokens held) := by
  induction tokens generalizing held with
  | nil => exact h
  | cons entry tokens ih =>
    obtain ⟨hentry, htokens⟩ := List.forall_mem_cons.1 htokens
    exact ih htokens (holds_fillToken hentry entry.2 h)

theorem renderChars_code (htokens : ∀ entry ∈ tokens, IsToken entry.1) {ps : List (List Char)}
    (hcode : ∀ entry ∈ tokens, ∀ part ∈ everyOther (cs :: ps), ¬entry.1.toList <:+: part) :
    renderChars tokens cs = cs := by
  have hfirst : cs ∈ everyOther (cs :: ps) := by
    rw [everyOther_cons]
    exact List.mem_cons_self
  exact renderChars_eq_self htokens fun entry hentry ↦ hcode entry hentry cs hfirst

/-- The quotes of a template stay where they are, so each of its parts is rendered by itself. -/
theorem parts_renderChars (htokens : ∀ entry ∈ tokens, IsToken entry.1) (hbackslash : '\\' ∉ cs)
    (hcode : ∀ entry ∈ tokens, ∀ part ∈ everyOther (parts .code cs), ¬entry.1.toList <:+: part) :
    parts .code (renderChars tokens cs) = onLiterals (renderChars tokens) (parts .code cs) := by
  induction quoted cs with
  | code hplain =>
    rw [parts_code_of_notMem hplain] at hcode ⊢
    rw [renderChars_code htokens hcode, parts_code_of_notMem hplain]
    rfl
  | unclosed hplain hheld =>
    simp only [List.mem_append, List.mem_cons, not_or] at hbackslash
    obtain ⟨-, -, hinside⟩ := hbackslash
    have hholds := holds_of_notMem hheld hinside
    rw [parts_code_append hplain] at hcode ⊢
    rw [renderChars_append_cons htokens (by decide), renderChars_code htokens hcode, parts_code_append hplain,
      hholds.parts_literal, (holds_renderChars htokens hholds).parts_literal]
    rfl
  | closed hplain hheld _ ih =>
    simp only [List.mem_append, List.mem_cons, not_or] at hbackslash
    obtain ⟨-, -, hinside, -, hbehind⟩ := hbackslash
    have hholds := holds_of_notMem hheld hinside
    rw [parts_code_append hplain, hholds.parts_literal_append] at hcode ⊢
    rw [renderChars_append_cons htokens (by decide), renderChars_append_cons htokens (by decide),
      renderChars_code htokens hcode, parts_code_append hplain,
      (holds_renderChars htokens hholds).parts_literal_append, onLiterals,
      ih hbehind fun entry hentry part hpart ↦ ?_]
    exact hcode entry hentry part (List.mem_cons_of_mem _ hpart)

theorem render_parts {text : String} (htokens : ∀ entry ∈ tokens, IsToken entry.1)
    (hbackslash : '\\' ∉ text.toList)
    (hcode : ∀ entry ∈ tokens, ∀ code ∈ outside text, ¬entry.1.toList <:+: code) :
    outside (render tokens text) = outside text ∧
      contents (render tokens text) = (contents text).map (renderChars tokens) := by
  have hparts := parts_renderChars htokens hbackslash hcode
  unfold outside contents render
  rw [String.toList_ofList, hparts]
  exact ⟨everyOther_onLiterals _ _, everyOther_tail_onLiterals _ _⟩

end Template

/-! ## Page modules -/

namespace Artifact

open Literal

variable {route other : Route}

theorem mem_tokenNames_of_mem_pageTokens {entry : String × String}
    (h : entry ∈ pageTokens route) : entry.1 ∈ Template.tokenNames := by
  have hkeys : ∀ key ∈ ["__SRC__", "__COLLECTION__", "__SINGULAR__", "__TITLE__", "__LABEL__",
      "__BASE__"], key ∈ Template.tokenNames := by
    decide
  rcases List.mem_append.1 h with h | h
  · exact hkeys _ (List.mem_map_of_mem (f := Prod.fst) h)
  · split at h
    · rw [List.mem_singleton.1 h]
      exact show "__PARAM__" ∈ Template.tokenNames by decide
    · exact absurd h List.not_mem_nil

theorem isToken_of_mem_pageTokens {entry : String × String} (h : entry ∈ pageTokens route) :
    Template.IsToken entry.1 :=
  Template.isToken_of_mem_tokenNames _ (mem_tokenNames_of_mem_pageTokens h)

theorem pageSource_congr (hkind : route.kind = other.kind)
    (hcatchAll : route.param.any (·.catchAll) = other.param.any (·.catchAll))
    (onServer withFixtures : Bool) :
    pageSource route onServer withFixtures = pageSource other onServer withFixtures := by
  unfold pageSource pageLines paramValue
  rw [hkind, hcatchAll]

/-- The imports of a page's source. -/
def sourceImports (onServer withFixtures : Bool) : List String :=
  (if withFixtures then [importFixtures] else []) ++ (if onServer then [importDatabase] else [])

/-- A page's source behind its imports: its rows and its code. -/
def pageBody (route : Route) (onServer withFixtures : Bool) : List String :=
  ["", if withFixtures then rowsFromFixtures else noRows] ++
    match route.kind, onServer with
    | .list, true => serverListHead ++ listView
    | .list, false => staticListHead ++ listView
    | .detail, true => keyReader ++ serverDetailHead ++ detailView
    | .detail, false => keyReader ++ staticDetailHead (paramValue route.param) ++ detailView

theorem pageLines_eq (route : Route) (onServer withFixtures : Bool) :
    pageLines route onServer withFixtures =
      sourceImports onServer withFixtures ++ pageBody route onServer withFixtures :=
  List.append_assoc _ _ _

/-- The blocks that the sources of all pages are made of behind their imports. -/
def bodyBlocks : List (List String) :=
  [["", rowsFromFixtures], ["", noRows], serverListHead, staticListHead, listView, keyReader,
    serverDetailHead, staticDetailHead "[String(x.id)]", staticDetailHead "String(x.id)",
    detailView]

def pageBlocks : List (List String) :=
  [importFixtures] :: [importDatabase] :: bodyBlocks

/-- The characters of the blocks one by one, in which decisions about them are made. -/
def blockChars : { chars : List (List Char) // pageBlocks.map Text.lineChars = chars } :=
  ⟨_, by
    conv_lhs =>
      simp only [pageBlocks, bodyBlocks, importFixtures, importDatabase, rowsFromFixtures, noRows,
        serverListHead, staticListHead, listView, keyReader, serverDetailHead, staticDetailHead,
        detailView, Text.lineChars, List.map_cons, List.map_nil, List.flatMap_cons,
        List.flatMap_nil, String.toList_append]
      repeat rw [String.toList_ofList]⟩

/-- The characters of blocks in a row, told by their places. -/
theorem lineChars_of_places {texts : List String} {places : List Nat}
    (h : places.flatMap (pageBlocks.getD · []) = texts) :
    Text.lineChars texts = places.flatMap (blockChars.1.getD · []) := by
  have hblock (place : Nat) :
      Text.lineChars (pageBlocks.getD place []) = blockChars.1.getD place [] := by
    rw [← blockChars.2, List.getD_eq_getElem?_getD, List.getD_eq_getElem?_getD, List.getElem?_map]
    cases pageBlocks[place]? <;> rfl
  subst h
  induction places with
  | nil => rfl
  | cons place places ih =>
    rw [List.flatMap_cons, List.flatMap_cons, Text.lineChars_append, hblock, ih]

section

variable {p : List Char → Prop}

theorem forall_pageBlocks (h : ∀ cs ∈ blockChars.1, p cs) :
    ∀ block ∈ pageBlocks, p (Text.lineChars block) := by
  rw [← blockChars.2] at h
  exact List.forall_mem_map.1 h

theorem forall_bodyBlocks (h : ∀ cs ∈ blockChars.1.drop 2, p cs) :
    ∀ block ∈ bodyBlocks, p (Text.lineChars block) := by
  rw [← blockChars.2, ← List.map_drop] at h
  exact List.forall_mem_map.1 h

variable (happend : ∀ {front back : List Char}, p front → p back → p (front ++ back))
variable (route : Route) (onServer withFixtures : Bool)

include happend

/-- What holds of the blocks, and of what is put together from them, holds of all bodies. -/
theorem pageBody_of_blocks (hblocks : ∀ block ∈ bodyBlocks, p (Text.lineChars block)) :
    p (Text.lineChars (pageBody route onServer withFixtures)) := by
  simp only [bodyBlocks, List.forall_mem_cons] at hblocks
  obtain ⟨hfixtures, hnone, hserverList, hstaticList, hlistView, hkey, hserverDetail, hcatchAll,
    hsingle, hdetailView, -⟩ := hblocks
  have hrows : p (Text.lineChars ["", if withFixtures then rowsFromFixtures else noRows]) := by
    cases withFixtures
    · exact hnone
    · exact hfixtures
  have hstaticDetail : p (Text.lineChars (staticDetailHead (paramValue route.param))) := by
    unfold paramValue
    split_ifs
    · exact hcatchAll
    · exact hsingle
  unfold pageBody
  rw [Text.lineChars_append]
  refine happend hrows ?_
  split <;> simp only [Text.lineChars_append]
  · exact happend hserverList hlistView
  · exact happend hstaticList hlistView
  · exact happend (happend hkey hserverDetail) hdetailView
  · exact happend (happend hkey hstaticDetail) hdetailView

theorem pageSource_of_blocks (hblocks : ∀ block ∈ pageBlocks, p (Text.lineChars block)) :
    p (pageSource route onServer withFixtures).toList := by
  rw [pageSource, Text.toList_lines, pageLines_eq, Text.lineChars_append]
  obtain ⟨hfixtures, hdatabase, hbody⟩ :
      p (Text.lineChars [importFixtures]) ∧ p (Text.lineChars [importDatabase]) ∧
        ∀ block ∈ bodyBlocks, p (Text.lineChars block) := by
    simpa only [pageBlocks, List.forall_mem_cons] using hblocks
  have hbody := pageBody_of_blocks happend route onServer withFixtures hbody
  cases onServer <;> cases withFixtures
  · exact hbody
  · exact happend hfixtures hbody
  · exact happend hdatabase hbody
  · exact happend (happend hfixtures hdatabase) hbody

end

theorem isTidy_pageBlocks : ∀ block ∈ pageBlocks, isTidy .code '\n' (Text.lineChars block) :=
  forall_pageBlocks (p := fun cs ↦ isTidy .code '\n' cs) (by decide +kernel)

theorem isTidy_pageSource (route : Route) (onServer withFixtures : Bool) :
    isTidy .code '\n' (pageSource route onServer withFixtures).toList :=
  pageSource_of_blocks (p := fun cs ↦ isTidy .code '\n' cs) isTidy_append route onServer
    withFixtures isTidy_pageBlocks

theorem isToken_of_mem_insertAll {tokens : Table String}
    (htokens : ∀ entry ∈ tokens, Template.IsToken entry.1) (route : Route) :
    ∀ entry ∈ tokens.insertAll (pageTokens route), Template.IsToken entry.1 := by
  intro entry hentry
  rcases Table.mem_insertAll hentry with hown | hgiven
  · exact isToken_of_mem_pageTokens hown
  · exact htokens entry hgiven

theorem outside_pageModule {tokens : Table String}
    (htokens : ∀ entry ∈ tokens, Template.IsToken entry.1) (onServer withFixtures : Bool) :
    outside (pageModule route tokens onServer withFixtures) =
      outside (pageSource route onServer withFixtures) := by
  have htidy := isTidy_pageSource route onServer withFixtures
  have hbackslash := backslash_notMem_of_isTidy htidy
  have hcode := not_infix_code_of_isTidy htidy
  have hall := isToken_of_mem_insertAll htokens route
  refine (Template.render_parts hall hbackslash fun entry hentry code hpart hstands ↦ ?_).1
  exact hcode code hpart ((hall entry hentry).underscores.isInfix.trans hstands)

end Artifact

namespace Template

open Literal Artifact

/-- What the tokens stand for never becomes code: where no token stands in the code of a template,
rendering leaves the code as it is, with as many literals between its pieces, and renders what they
hold one by one. So two page modules of one kind have the same code. -/
theorem render_keeps_code :
    (∀ (tokens : Table String) (text : String), (∀ entry ∈ tokens, IsToken entry.1) →
      '\\' ∉ text.toList → (∀ entry ∈ tokens, ∀ code ∈ outside text, ¬entry.1.toList <:+: code) →
      outside (render tokens text) = outside text ∧
        contents (render tokens text) = (contents text).map (renderChars tokens)) ∧
    ∀ (route other : Route) (tokens others : Table String) (onServer withFixtures : Bool),
      (∀ entry ∈ tokens, IsToken entry.1) → (∀ entry ∈ others, IsToken entry.1) →
      route.kind = other.kind →
      route.param.any (·.catchAll) = other.param.any (·.catchAll) →
      outside (pageModule route tokens onServer withFixtures) =
        outside (pageModule other others onServer withFixtures) := by
  constructor
  · intro tokens text htokens hbackslash hcode
    exact render_parts htokens hbackslash hcode
  · intro route other tokens others onServer withFixtures htokens hothers hkind hcatchAll
    rw [outside_pageModule htokens, outside_pageModule hothers,
      pageSource_congr hkind hcatchAll]

theorem render_keeps_code_quotes :
    let tokens : Table String := [("__NAME__", "\"; stop(); \"__NOTE__"), ("__NOTE__", "\\")]
    let text := "say(\"__NAME__\", \"so: __NOTE__\");"
    let books : Route := ⟨"/books", ["books"], .list, "books", "book", none⟩
    let quotes : Route := ⟨"/\"", ["\""], .list, "\"]; stop();", "__SRC__", none⟩
    ((∀ entry ∈ tokens, IsToken entry.1) ∧ '\\' ∉ text.toList ∧
        ∀ entry ∈ tokens, ∀ code ∈ outside text, ¬entry.1.toList <:+: code) ∧
      (outside (render tokens text) = outside text ∧
        contents (render tokens text) = (contents text).map (renderChars tokens)) ∧
      outside (pageModule books tokens true true) = outside (pageModule quotes [] true true) := by
  intro tokens text books quotes
  have htokens : ∀ entry ∈ tokens, IsToken entry.1 := by decide +kernel
  have hbackslash : '\\' ∉ text.toList := by decide
  have hcode : ∀ entry ∈ tokens, ∀ code ∈ outside text, ¬entry.1.toList <:+: code := by
    decide
  refine ⟨⟨htokens, hbackslash, hcode⟩, ?_, ?_⟩
  · exact render_keeps_code.1 tokens text htokens hbackslash hcode
  · exact render_keeps_code.2 books quotes tokens [] true true htokens (by simp) rfl rfl

end Template

end WebScaffold

import Mathlib.Data.List.Chain
import Mathlib.Data.List.Infix
import WebScaffold.Generator.Offline
import WebScaffold.Proofs.NumberText
import WebScaffold.Proofs.RenderedLines
import WebScaffold.Synthesis

/-!
# The idea between its markers

A prompt holds two Json documents in front of the idea, and a correction any text behind it. No
document that is printed over several lines holds a line that ends as the opening line does, so the
first opening line is the one in front of the idea. The first closing line behind it stands in the
idea or ends it; what follows is never looked at.
-/

namespace WebScaffold

/-! ## First occurrences -/

namespace Text

variable {marker word front cs : List Char}

theorem cutAt?_cons_of_not_prefix {c : Char} (h : ¬marker <+: c :: cs) :
    cutAt? marker (c :: cs) = (cutAt? marker cs).map fun (before, rest) ↦ (c :: before, rest) := by
  simp only [cutAt?, afterPrefix?_eq_none h]

theorem cutAt?_marker_append (hmarker : marker ≠ []) (rest : List Char) :
    cutAt? marker (marker ++ rest) = some ([], rest) := by
  have hafter := afterPrefix?_append marker rest
  obtain ⟨m, marker, rfl⟩ := List.exists_cons_of_ne_nil hmarker
  rw [List.cons_append] at hafter ⊢
  simp only [cutAt?, hafter]

/-- The first occurrence of a marker is where it was put, unless it can be read earlier. -/
theorem cutAt?_append (hmarker : marker ≠ []) (h : ¬marker <:+: front ++ marker.dropLast)
    (rest : List Char) : cutAt? marker (front ++ (marker ++ rest)) = some (front, rest) := by
  induction front with
  | nil => exact cutAt?_marker_append hmarker rest
  | cons c front ih =>
    have hprefix : ¬marker <+: c :: (front ++ (marker ++ rest)) := by
      intro hprefix
      apply h
      have hfront : c :: front ++ marker.dropLast <+: c :: (front ++ (marker ++ rest)) := by
        simpa using (marker.dropLast_prefix.trans (List.prefix_append marker rest))
      have hlength : marker.length ≤ (c :: front ++ marker.dropLast).length := by
        simp only [List.length_append, List.length_cons, List.length_dropLast]
        omega
      exact (List.prefix_of_prefix_length_le hprefix hfront hlength).isInfix
    have hlater : ¬marker <:+: front ++ marker.dropLast :=
      fun hlater ↦ h (hlater.trans (List.suffix_cons c _).isInfix)
    rw [List.cons_append, cutAt?_cons_of_not_prefix hprefix, ih hlater]
    rfl

/-- Lines in front of others, each with its break. -/
theorem toList_intercalate_append (lines : List String) (next : String) (rest : List String) :
    ("\n".intercalate (lines ++ next :: rest)).toList =
      lines.flatMap (fun line ↦ line.toList ++ ['\n']) ++
        ("\n".intercalate (next :: rest)).toList := by
  have hbreak : "\n".toList = ['\n'] := rfl
  induction lines with
  | nil => rfl
  | cons line lines ih =>
    have hcons : "\n".intercalate (line :: lines ++ next :: rest) =
        line ++ "\n" ++ "\n".intercalate (lines ++ next :: rest) := by
      cases lines <;> exact String.intercalate_cons_cons
    rw [hcons, String.toList_append, String.toList_append, ih, hbreak, List.flatMap_cons,
      List.append_assoc _ _ (String.toList _)]

/-- A word that ends a line of two texts with a break between them ends a line of one of them. -/
theorem not_infix_append_newline {rest : List Char} (hword : '\n' ∉ word)
    (hend : ¬word <:+ front) (hfront : ¬word ++ ['\n'] <:+: front)
    (hrest : ¬word ++ ['\n'] <:+: rest) : ¬word ++ ['\n'] <:+: front ++ '\n' :: rest := by
  intro hinfix
  rcases List.infix_append_iff.1 hinfix with hleft | hright | ⟨left, right, hsplit, hleft, hright⟩
  · exact hfront hleft
  · rcases List.infix_cons_iff.1 hright with hprefix | hright
    · cases word with
      | nil => exact hend List.nil_suffix
      | cons w word =>
        obtain ⟨rfl, -⟩ := List.cons_prefix_cons.1 hprefix
        exact hword List.mem_cons_self
    · exact hrest hright
  · cases right with
    | nil =>
      rw [List.append_nil] at hsplit
      exact hfront (hsplit ▸ hleft.isInfix)
    | cons r right =>
      obtain ⟨rfl, -⟩ := List.cons_prefix_cons.1 hright
      obtain ⟨rfl, -, -⟩ := (List.append_cons_inj_of_notMem hword List.not_mem_nil).1 hsplit
      exact hend hleft

/-- The text before the first occurrence of a marker, or all of it when there is none. -/
def beforeFirst (marker cs : List Char) : List Char :=
  (cs.inits.find? fun front ↦ front ++ marker <+: cs).getD cs

theorem beforeFirst_eq_nil (h : marker <+: cs) : beforeFirst marker cs = [] := by
  have hfound : cs.inits.find? (fun front ↦ front ++ marker <+: cs) = some [] := by
    cases cs with
    | nil => simpa using h
    | cons c cs => simp [h]
  rw [beforeFirst, hfound, Option.getD_some]

theorem beforeFirst_cons {c : Char} (h : ¬marker <+: c :: cs) :
    beforeFirst marker (c :: cs) = c :: beforeFirst marker cs := by
  unfold beforeFirst
  rw [List.inits_cons, List.find?_cons_of_neg (by simpa using h), List.find?_map]
  have hsame : (fun front : List Char ↦ decide (front ++ marker <+: c :: cs)) ∘ (c :: ·) =
      fun front ↦ decide (front ++ marker <+: cs) := by
    funext front
    simp [List.cons_prefix_cons]
  rw [hsame]
  cases cs.inits.find? _ <;> rfl

/-- A text that is closed by a marker ends at the first occurrence of the marker in it. The marker
begins in a character that it does not hold again, so it never stands across the end of the text. -/
theorem cutAt?_closed {m : Char} (hword : m ∉ word) (cs rest : List Char) :
    ∃ behind, cutAt? (m :: word) (cs ++ (m :: word ++ rest)) =
      some (beforeFirst (m :: word) cs, behind) := by
  induction cs with
  | nil => exact ⟨rest, cutAt?_marker_append (by simp) rest⟩
  | cons c cs ih =>
    by_cases hprefix : m :: word <+: c :: cs
    · obtain ⟨behind, hbehind⟩ := hprefix
      refine ⟨behind ++ (m :: word ++ rest), ?_⟩
      rw [beforeFirst_eq_nil ⟨behind, hbehind⟩, ← hbehind, List.append_assoc]
      exact cutAt?_marker_append (by simp) _
    · have hlater : ¬m :: word <+: c :: (cs ++ (m :: word ++ rest)) := by
        intro hlater
        obtain ⟨rfl, hinside⟩ := List.cons_prefix_cons.1 hlater
        exact hprefix (List.cons_prefix_cons.2 ⟨rfl, prefix_of_prefix_append_cons hword hinside⟩)
      obtain ⟨behind, hbehind⟩ := ih
      refine ⟨behind, ?_⟩
      rw [List.cons_append, cutAt?_cons_of_not_prefix hlater, hbehind, beforeFirst_cons hprefix]
      rfl

end Text

/-! ## Printed documents -/

namespace Json

/-- No line of a text ends in the letter that the opening line ends in. -/
structure Sealed (cs : List Char) : Prop where
  breaks : cs.IsChain fun c d ↦ d = '\n' → c ≠ 'T'
  last : ∀ c ∈ cs.getLast?, c ≠ 'T'

variable {cs ds : List Char}

theorem Sealed.append (hcs : Sealed cs) (hds : Sealed ds) : Sealed (cs ++ ds) where
  breaks := List.isChain_append.2 ⟨hcs.breaks, hds.breaks, fun c hc _ _ _ ↦ hcs.last c hc⟩
  last := by
    intro c hc
    rw [List.getLast?_append, Option.mem_def, Option.or_eq_some_iff] at hc
    rcases hc with hc | ⟨-, hc⟩
    · exact hds.last c hc
    · exact hcs.last c hc

theorem sealed_of_notMem (h : 'T' ∉ cs) : Sealed cs where
  breaks := by
    refine (List.pairwise_of_forall_mem_list fun c hc d _ _ ↦ ?_).isChain
    exact ne_of_mem_of_not_mem hc h
  last c hc := ne_of_mem_of_not_mem (List.mem_of_getLast? hc) h

theorem Sealed.cons {c : Char} (hc : c ≠ 'T') (hcs : Sealed cs) : Sealed (c :: cs) :=
  @Sealed.append [c] cs (sealed_of_notMem (by simpa using hc.symm)) hcs

theorem sealed_lineBreak (level : Nat) : Sealed (lineBreak level) :=
  sealed_of_notMem (by simp [lineBreak, List.mem_replicate])

theorem sealed_printString (s : String) : Sealed (printString s) where
  breaks := by
    have hbreak : '\n' ∉ printString s := by
      simp [printString, Template.newline_notMem_escape]
    refine (List.pairwise_of_forall_mem_list fun c _ d hd hd' ↦ ?_).isChain
    exact absurd (hd' ▸ hd) hbreak
  last c hc := by
    rw [printString, List.getLast?_concat] at hc
    obtain rfl := Option.some.inj hc
    decide

theorem sealed_printScalar (v : Json) : Sealed (printScalar v) := by
  cases v with
  | bool b => cases b <;> exact sealed_of_notMem (by decide)
  | number n =>
    exact sealed_of_notMem fun hmem ↦ absurd (isNumberChar_printNumber n _ hmem) (by decide)
  | string s => exact sealed_printString s
  | _ => exact sealed_of_notMem (by simp [printScalar])

mutual

/-- A printed document ends its lines in brackets, commas, quotes, digits and small letters. -/
theorem sealed_prettyChars (level : Nat) : (v : Json) → Sealed (prettyChars level v)
  | .array (item :: items) => by
    have hopening : Sealed ('[' :: lineBreak (level + 1)) :=
      (sealed_lineBreak _).cons (by decide)
    have hclosing : Sealed [']'] := sealed_of_notMem (by decide)
    rw [prettyChars]
    exact (((hopening.append (sealed_prettyChars _ item)).append
      (sealed_prettyItems _ items)).append (sealed_lineBreak _)).append hclosing
  | .object ((key, value) :: members) => by
    have hopening : Sealed ('{' :: lineBreak (level + 1) ++ printString key) :=
      ((sealed_lineBreak _).cons (by decide)).append (sealed_printString key)
    have hvalue : Sealed (':' :: ' ' :: prettyChars (level + 1) value) :=
      ((sealed_prettyChars _ value).cons (by decide)).cons (by decide)
    have hclosing : Sealed ['}'] := sealed_of_notMem (by decide)
    rw [prettyChars]
    exact (((hopening.append hvalue).append (sealed_prettyMembers _ members)).append
      (sealed_lineBreak _)).append hclosing
  | .array [] | .object [] | .null | .bool _ | .number _ | .string _ => by
    rw [prettyChars]
    · exact sealed_printScalar _
    all_goals simp

theorem sealed_prettyItems (level : Nat) : (items : List Json) → Sealed (prettyItems level items)
  | [] => sealed_of_notMem (by simp [prettyItems])
  | item :: items => by
    have hopening : Sealed (',' :: lineBreak level) := (sealed_lineBreak level).cons (by decide)
    rw [prettyItems]
    exact (hopening.append (sealed_prettyChars level item)).append (sealed_prettyItems level items)

theorem sealed_prettyMembers (level : Nat) :
    (members : List (String × Json)) → Sealed (prettyMembers level members)
  | [] => sealed_of_notMem (by simp [prettyMembers])
  | (key, value) :: members => by
    have hopening : Sealed (',' :: lineBreak level ++ printString key) :=
      ((sealed_lineBreak level).cons (by decide)).append (sealed_printString key)
    have hvalue : Sealed (':' :: ' ' :: prettyChars level value) :=
      ((sealed_prettyChars level value).cons (by decide)).cons (by decide)
    rw [prettyMembers]
    exact (hopening.append hvalue).append (sealed_prettyMembers level members)

end

end Json

/-! ## Prompts -/

namespace Offline

open Json Text Synthesis

/-- No line of a text ends as the line that opens an idea does. -/
def Unmarked (cs : List Char) : Prop :=
  ¬ideaStart.toList <:+ cs ∧ ¬ideaStart.toList ++ ['\n'] <:+: cs

instance (cs : List Char) : Decidable (Unmarked cs) :=
  inferInstanceAs (Decidable (_ ∧ _))

theorem unmarked_of_sealed {cs : List Char} (h : Sealed cs) : Unmarked cs := by
  have hshape : ideaStart.toList = "IDEA_STAR".toList ++ ['T'] := by decide
  constructor
  · rintro ⟨front, rfl⟩
    rw [hshape] at h
    exact h.last 'T' (by simp) rfl
  · intro hinfix
    have hpair : ['T', '\n'] <:+: cs :=
      List.IsInfix.trans ⟨"IDEA_STAR".toList, [], by decide⟩ hinfix
    have hbreak := List.IsChain.infix h.breaks hpair
    exact absurd hbreak (by decide)

theorem unmarked_pretty (v : Json) : Unmarked v.pretty.toList := by
  rw [pretty, String.toList_ofList]
  exact unmarked_of_sealed (sealed_prettyChars 0 v)

/-- The lines of a prompt in front of the idea and its marker. -/
def preamble (hints : Table Json) (schema : Json) : List String :=
  ["JSON_SCHEMA_START", schema.pretty, "JSON_SCHEMA_END", "HINTS_START",
    (Json.object hints).pretty, "HINTS_END"]

theorem toList_promptFor_user (idea : String) (hints : Table Json) (schema : Json)
    (after : List Char) :
    (promptFor idea hints schema).user.toList ++ after =
      (preamble hints schema).flatMap (fun line ↦ line.toList ++ ['\n']) ++
        (ideaStart.toList ++ ['\n'] ++ (idea.toList ++ ('\n' :: ideaEnd.toList ++ after))) := by
  have hlines : (promptFor idea hints schema).user =
      "\n".intercalate (preamble hints schema ++ ideaStart :: [idea, ideaEnd]) := rfl
  have hmarked : ("\n".intercalate (ideaStart :: [idea, ideaEnd])).toList =
      ideaStart.toList ++ ['\n'] ++ (idea.toList ++ '\n' :: ideaEnd.toList) := by simp
  rw [hlines, toList_intercalate_append, hmarked]
  generalize ideaStart.toList = opening
  generalize ideaEnd.toList = closing
  simp only [List.append_assoc, List.cons_append]

theorem not_infix_lines {lines : List String} {rest : List Char}
    (hlines : ∀ line ∈ lines, Unmarked line.toList)
    (hrest : ¬ideaStart.toList ++ ['\n'] <:+: rest) :
    ¬ideaStart.toList ++ ['\n'] <:+:
      lines.flatMap (fun line ↦ line.toList ++ ['\n']) ++ rest := by
  induction lines with
  | nil => exact hrest
  | cons line lines ih =>
    obtain ⟨⟨hend, hline⟩, hlines⟩ := List.forall_mem_cons.1 hlines
    rw [List.flatMap_cons, List.append_assoc, List.append_assoc, List.singleton_append]
    exact not_infix_append_newline (by decide) hend hline (ih hlines)

theorem unmarked_preamble (hints : Table Json) (schema : Json) :
    ∀ line ∈ preamble hints schema, Unmarked line.toList := by
  simp only [preamble, List.forall_mem_cons]
  exact ⟨by decide, unmarked_pretty schema, by decide, by decide, unmarked_pretty _, by decide,
    by simp⟩

/-- What an idea comes to: the text before its first closing line, without blanks at its ends, or
the usual idea if nothing is left. -/
def survivingIdea (idea : String) : String :=
  let kept := trimChars (beforeFirst ('\n' :: ideaEnd.toList) idea.toList)
  if kept = [] then usualIdea else String.ofList kept

theorem ideaIn_marked {prompt idea : String} {lines : List String} {after : List Char}
    (hlines : ∀ line ∈ lines, Unmarked line.toList)
    (hprompt : prompt.toList = lines.flatMap (fun line ↦ line.toList ++ ['\n']) ++
      (ideaStart.toList ++ ['\n'] ++ (idea.toList ++ ('\n' :: ideaEnd.toList ++ after)))) :
    ideaIn prompt = survivingIdea idea := by
  have hfront := not_infix_lines hlines (by decide : ¬_ <:+: (ideaStart.toList ++ ['\n']).dropLast)
  have hopening := cutAt?_append (by simp) hfront (idea.toList ++ ('\n' :: ideaEnd.toList ++ after))
  obtain ⟨behind, hclosing⟩ := cutAt?_closed (by decide : '\n' ∉ ideaEnd.toList) idea.toList after
  have hmarked : markedIdea? prompt.toList =
      some (trimChars (beforeFirst ('\n' :: ideaEnd.toList) idea.toList)) := by
    rw [markedIdea?, hprompt, hopening]
    simp only [Option.bind_eq_bind, Option.bind_some]
    rw [hclosing]
    rfl
  rw [ideaIn, hmarked, survivingIdea]
  cases trimChars (beforeFirst ('\n' :: ideaEnd.toList) idea.toList) with
  | nil => rfl
  | cons c cs => rfl

/-- Neither the documents in front of an idea nor what an error says behind it change what the idea
comes to. -/
theorem ideaIn_promptFor (idea : String) (hints : Table Json) (schema : Json) (error : String) :
    let prompt := (promptFor idea hints schema).user
    ideaIn prompt = survivingIdea idea ∧
      ideaIn (correctionText prompt error) = survivingIdea idea := by
  intro prompt
  have hprompt := toList_promptFor_user idea hints schema
  have hlines := unmarked_preamble hints schema
  have hcorrection : (correctionText prompt error).toList = prompt.toList ++
      ("\nPrevious output failed validation: ".toList ++ (error.toList ++
        "\nCorrect the JSON strictly to satisfy the schema. Output only JSON.".toList)) := by
    rw [correctionText, String.toList_append, String.toList_append, String.toList_append,
      List.append_assoc, List.append_assoc]
  constructor
  · exact ideaIn_marked hlines ((List.append_nil _).symm.trans (hprompt []))
  · exact ideaIn_marked hlines (hcorrection.trans (hprompt _))

example : survivingIdea "Track books\t\nIDEA_END of it\nIDEA_END" = "Track books" := by decide

end Offline

end WebScaffold

import WebScaffold.Json.Loose
import WebScaffold.Proofs.Blank
import WebScaffold.Proofs.Values

/-!
# Texts that spell a value

A value may be spelled with blanks around it and between code fences. What the lenient reader cuts
out of such a text is a text that the strict reader accepts with the same value, so nothing is ever
mended in it, whatever its strings hold.
-/

namespace WebScaffold

/-! ## Cutting -/

namespace Text

variable {cs : List Char}

theorem cutAt?_append_cons {c : Char} {front : List Char} (h : c ∉ front) (rest : List Char) :
    cutAt? [c] (front ++ c :: rest) = some (front, rest) := by
  induction front with
  | nil => simp [cutAt?, afterPrefix?]
  | cons d front ih =>
    obtain ⟨hd, hfront⟩ := List.ne_and_not_mem_of_not_mem_cons h
    simp [cutAt?, afterPrefix?, hd, ih hfront]

theorem cutAt?_eq_none {c : Char} (h : c ∉ cs) : cutAt? [c] cs = none := by
  induction cs with
  | nil => rfl
  | cons d cs ih =>
    obtain ⟨hd, hcs⟩ := List.ne_and_not_mem_of_not_mem_cons h
    simp [cutAt?, afterPrefix?, hd, ih hcs]

theorem beforeSuffix?_append (pat cs : List Char) : beforeSuffix? pat (cs ++ pat) = some cs := by
  rw [beforeSuffix?, List.reverse_append, afterPrefix?_append, Option.map_some,
    List.reverse_reverse]

end Text

namespace Json

open Text

/-! ## Bare values -/

theorem Solid.forall_getLast {body : List Char} (h : Solid body) :
    ∀ c ∈ body.getLast?, isBlank c = false ∧ c ≠ '`' := by
  obtain ⟨front, d, rfl, hd⟩ := h
  rintro c hc
  rw [List.getLast?_concat] at hc
  obtain rfl := Option.some.inj hc
  exact hd

theorem Bare.trimChars {body : List Char} (h : Bare body) : trimChars body = body := by
  apply trimChars_of_ends
  · intro c hc
    simp [(h.head c hc).1]
  · intro c hc
    simp [(h.solid.forall_getLast c hc).1]

theorem Solid.beforeSuffix?_fence {body : List Char} (h : Solid body) :
    beforeSuffix? fence body = none := by
  obtain ⟨front, d, rfl, -, hd⟩ := h
  simp [beforeSuffix?, fence, afterPrefix?, hd.symm]

/-- A text that spells a value still does so when it is trimmed. -/
theorem readAll_trimChars {cs : List Char} {v : Json} (h : readAll cs = .ok v) :
    readAll (Text.trimChars cs) = .ok v := by
  obtain ⟨before, body, after, rfl, hbefore, hafter, hbare, hbody⟩ := exists_of_readAll h
  rw [trimChars_append (fun c hc ↦ isBlank_of_isJsonBlank (hbefore c hc))
    (fun c hc ↦ isBlank_of_isJsonBlank (hafter c hc)), hbare.trimChars]
  exact hbody

/-! ## Fences -/

/-- The texts that spell a value: strictly, or between code fences. The closing fence may be missing
and blanks may stand around it all. -/
inductive Spells (v : Json) : List Char → Prop where
  | plain {before text after : List Char} (hbefore : ∀ c ∈ before, isBlank c)
    (htext : readAll text = .ok v) (hafter : ∀ c ∈ after, isBlank c) :
    Spells v (before ++ (text ++ after))
  | fenced {before info text closing after : List Char} (hbefore : ∀ c ∈ before, isBlank c)
    (hinfo : '\n' ∉ info) (htext : readAll text = .ok v)
    (hclosing : closing = [] ∨ closing = fence) (hafter : ∀ c ∈ after, isBlank c) :
    Spells v (before ++ (fence ++ (info ++ '\n' :: (text ++ (closing ++ after)))))
  | inline {before text closing after : List Char} (hbefore : ∀ c ∈ before, isBlank c)
    (hline : '\n' ∉ text) (htext : readAll text = .ok v)
    (hclosing : closing = [] ∨ closing = fence) (hafter : ∀ c ∈ after, isBlank c) :
    Spells v (before ++ (fence ++ (text ++ (closing ++ after))))

section

variable {v : Json} {cs before text closing after held rest : List Char}

theorem insideFences_of_fence (h : Text.trimChars cs = fence ++ rest)
    (hcut : cutAt? ['\n'] rest = none ∧ rest = held ∨
      ∃ info, cutAt? ['\n'] rest = some (info, held)) :
    insideFences cs = Text.trimChars ((beforeSuffix? fence held).getD held) := by
  unfold insideFences
  simp only [h, afterPrefix?_append]
  rcases hcut with ⟨hcut, rfl⟩ | ⟨info, hcut⟩ <;> rw [hcut]

/-- Behind the opening fence, once blanks are gone at the end: the text with its closing fence, or
else the text as far as its value goes. -/
theorem exists_held (htext : readAll text = .ok v) (hclosing : closing = [] ∨ closing = fence)
    (hafter : ∀ c ∈ after, isBlank c) :
    ∃ held blanks, text ++ (closing ++ after) = held ++ blanks ∧ (∀ c ∈ blanks, isBlank c) ∧
      held <+: text ++ closing ∧ held ≠ [] ∧ (∀ c ∈ held.getLast?, ¬isBlank c) ∧
      readAll (Text.trimChars ((beforeSuffix? fence held).getD held)) = .ok v := by
  rcases hclosing with rfl | rfl
  · obtain ⟨front, body, back, rfl, hfront, hback, hbare, hbody⟩ := exists_of_readAll htext
    have hsolid : Solid (front ++ body) := hbare.solid.append
    have hblank : ∀ c ∈ back ++ after, isBlank c := by
      intro c hc
      rcases List.mem_append.mp hc with hc | hc
      · exact isBlank_of_isJsonBlank (hback c hc)
      · exact hafter c hc
    refine ⟨front ++ body, back ++ after, by simp, hblank, ⟨back, by simp⟩, hsolid.ne_nil, ?_, ?_⟩
    · intro c hc
      simp [(hsolid.forall_getLast c hc).1]
    · have htrim := trimChars_append (fun c hc ↦ isBlank_of_isJsonBlank (hfront c hc))
        (fun c (hc : c ∈ []) ↦ absurd hc List.not_mem_nil) body
      rw [List.append_nil] at htrim
      rw [hsolid.beforeSuffix?_fence, Option.getD_none, htrim, hbare.trimChars]
      exact hbody
  · refine ⟨text ++ fence, after, by simp, hafter, List.prefix_refl _, by simp [fence], ?_, ?_⟩
    · intro c hc
      have hlast : text ++ fence = text ++ ['`', '`'] ++ ['`'] := by simp [fence]
      rw [hlast, List.getLast?_concat] at hc
      obtain rfl := Option.some.inj hc
      decide
    · rw [beforeSuffix?_append, Option.getD_some]
      exact readAll_trimChars htext

theorem trimChars_of_fence (opening : List Char) (hbefore : ∀ c ∈ before, isBlank c)
    (hafter : ∀ c ∈ after, isBlank c) (hheld : held ≠ [])
    (hlast : ∀ c ∈ held.getLast?, ¬isBlank c) :
    Text.trimChars (before ++ (fence ++ (opening ++ (held ++ after)))) =
      fence ++ (opening ++ held) := by
  have hshape : before ++ (fence ++ (opening ++ (held ++ after))) =
      before ++ ((fence ++ (opening ++ held)) ++ after) := by simp
  rw [hshape, trimChars_append hbefore hafter]
  apply trimChars_of_ends
  · rintro c hc
    obtain rfl : '`' = c := Option.some.inj hc
    decide
  · intro c hc
    rw [← List.append_assoc, List.getLast?_append_of_ne_nil _ hheld] at hc
    exact hlast c hc

/-- A bare text has no fences. -/
theorem Bare.insideFences {body : List Char} (h : Bare body) (htrim : Text.trimChars cs = body) :
    insideFences cs = body := by
  have hfence : afterPrefix? fence body = none := by
    cases body with
    | nil => rfl
    | cons c body => simp [fence, afterPrefix?, (h.head c rfl).2.symm]
  unfold Json.insideFences
  simp only [htrim, hfence]

/-- What is cut out of a text that spells a value is read strictly. -/
theorem Spells.readAll_insideFences (h : Spells v cs) : readAll (insideFences cs) = .ok v := by
  cases h with
  | @plain before text after hbefore htext hafter =>
    obtain ⟨front, body, back, rfl, hfront, hback, hbare, hbody⟩ := exists_of_readAll htext
    have htrim : Text.trimChars (before ++ ((front ++ (body ++ back)) ++ after)) = body := by
      rw [trimChars_append hbefore hafter,
        trimChars_append (fun c hc ↦ isBlank_of_isJsonBlank (hfront c hc))
          (fun c hc ↦ isBlank_of_isJsonBlank (hback c hc)), hbare.trimChars]
    rw [hbare.insideFences htrim]
    exact hbody
  | @fenced before info text closing after hbefore hinfo htext hclosing hafter =>
    obtain ⟨held, blanks, hshape, hblanks, -, hheld, hlast, hread⟩ :=
      exists_held htext hclosing hafter
    have htrim := trimChars_of_fence (info ++ ['\n']) hbefore hblanks hheld hlast
    rw [← hshape] at htrim
    rw [insideFences_of_fence (by simpa using htrim) (.inr ⟨info, cutAt?_append_cons hinfo held⟩)]
    exact hread
  | @inline before text closing after hbefore hline htext hclosing hafter =>
    obtain ⟨held, blanks, hshape, hblanks, hbegins, hheld, hlast, hread⟩ :=
      exists_held htext hclosing hafter
    have htrim := trimChars_of_fence [] hbefore hblanks hheld hlast
    rw [← hshape, List.nil_append, List.nil_append] at htrim
    have hnone : '\n' ∉ held := by
      intro hmem
      rcases List.mem_append.mp (hbegins.subset hmem) with hmem | hmem
      · exact hline hmem
      · rcases hclosing with rfl | rfl
        · simp at hmem
        · simp [fence] at hmem
    rw [insideFences_of_fence htrim (.inl ⟨cutAt?_eq_none hnone, rfl⟩)]
    exact hread

theorem readLoosely_of_insideFences {text : String}
    (h : readAll (insideFences text.toList) = .ok v) : readLoosely text = .ok v := by
  unfold Json.readLoosely
  simp only [h]

theorem Spells.readLoosely {text : String} (h : Spells v text.toList) :
    readLoosely text = .ok v :=
  readLoosely_of_insideFences h.readAll_insideFences

/-- The closing fence may stand on a line of its own: the break in front of it goes with the blanks
that are trimmed. -/
theorem readAll_insideFences_of_lines {info : List Char} (hbefore : ∀ c ∈ before, isBlank c)
    (hinfo : '\n' ∉ info) (htext : readAll text = .ok v) (hafter : ∀ c ∈ after, isBlank c) :
    readAll (insideFences
      (before ++ (fence ++ (info ++ '\n' :: (text ++ '\n' :: (fence ++ after)))))) = .ok v := by
  have hlast : ∀ c ∈ (text ++ '\n' :: fence).getLast?, ¬isBlank c := by
    have hshape : text ++ '\n' :: fence = text ++ ['\n', '`', '`'] ++ ['`'] := by simp [fence]
    intro c hc
    rw [hshape, List.getLast?_concat] at hc
    obtain rfl := Option.some.inj hc
    decide
  have htrim := trimChars_of_fence (info ++ ['\n']) hbefore hafter (by simp) hlast
  have hline : Text.trimChars (text ++ ['\n']) = Text.trimChars text :=
    @trimChars_append [] ['\n'] (by simp) (by decide) text
  have hheld : beforeSuffix? fence (text ++ '\n' :: fence) = some (text ++ ['\n']) := by
    simpa using beforeSuffix?_append fence (text ++ ['\n'])
  have hcut := cutAt?_append_cons hinfo (text ++ '\n' :: fence)
  rw [insideFences_of_fence (by simpa using htrim) (.inr ⟨info, hcut⟩), hheld, Option.getD_some,
    hline]
  exact readAll_trimChars htext

end

/-- A text that the strict reader accepts is read alike by the lenient one: bare, between fences on
lines of their own, and behind an opening fence that is never closed. -/
theorem readLoosely_in_fences {text info before after : String} {v : Json}
    (htext : parse text = .ok v) (hinfo : '\n' ∉ info.toList)
    (hbefore : ∀ c ∈ before.toList, isBlank c) (hafter : ∀ c ∈ after.toList, isBlank c) :
    readLoosely (before ++ text ++ after) = .ok v ∧
      readLoosely (before ++ ("```" ++ info ++ "\n" ++ text ++ "\n```") ++ after) = .ok v ∧
        readLoosely (before ++ ("```" ++ info ++ "\n" ++ text) ++ after) = .ok v := by
  have hread : readAll text.toList = .ok v := mapError_eq_ok_iff.1 htext
  have hopening : "```".toList = fence := rfl
  have hclosing : "\n```".toList = '\n' :: fence := rfl
  have hbreak : "\n".toList = ['\n'] := rfl
  refine ⟨Spells.readLoosely ?_, readLoosely_of_insideFences ?_, Spells.readLoosely ?_⟩
  · simpa using Spells.plain hbefore hread hafter
  · simpa [hopening, hclosing, hbreak] using
      readAll_insideFences_of_lines hbefore hinfo hread hafter
  · simpa [hopening, hbreak] using Spells.fenced hbefore hinfo hread (.inl rfl) hafter

/-- An answer with a fence, typographic quotes and a comma before a bracket in its only string. -/
def quotedList : String :=
  "[\"```, “so”, [a, ]\"]"

theorem quotedList_in_fences :
    let v : Json := .array [.string "```, “so”, [a, ]"]
    readLoosely ("\u00a0\n" ++ quotedList ++ " \t") = .ok v ∧
      readLoosely ("\u00a0\n" ++ ("```" ++ "json" ++ "\n" ++ quotedList ++ "\n```") ++ " \t") =
        .ok v ∧
      readLoosely ("\u00a0\n" ++ ("```" ++ "json" ++ "\n" ++ quotedList) ++ " \t") = .ok v :=
  readLoosely_in_fences (by decide +kernel) (by decide) (by decide) (by decide)

end Json

end WebScaffold

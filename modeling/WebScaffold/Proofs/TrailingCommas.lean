import WebScaffold.Proofs.ReadingWeight
import WebScaffold.Proofs.Spelling

/-!
# Commas too many

The lenient reader is told a value by a text with commas too many just when it does not change the
texts in the value. Mending does not know where strings are, so a comma in front of a bracket goes
in a string as well, and a typographic quote ends the string that it stands in.
-/

namespace WebScaffold.Json

/-! ## Texts that stay as they are -/

section

variable {shown shown' : String → List Char} {α : Type} {part part' : α → Nat → List Char → Prop}
variable {xs : List α} {n : Nat} {more inner : List Char}

theorem More.imp (himp : ∀ x ∈ xs, ∀ n text, part x n text → part' x n text)
    (h : More part xs n more) : More part' xs n more := by
  induction h with
  | nil => exact .nil
  | cons hbefore hinner hx _ ih =>
    obtain ⟨himpx, himp⟩ := List.forall_mem_cons.1 himp
    exact .cons hbefore hinner (himpx _ _ hx) (ih himp)

theorem Parts.imp (himp : ∀ x ∈ xs, ∀ n text, part x n text → part' x n text)
    (h : Parts part xs n inner) : Parts part' xs n inner := by
  cases h with
  | empty hblanks => exact .empty hblanks
  | filled hbefore hx hxs hclosing =>
    obtain ⟨himpx, himp⟩ := List.forall_mem_cons.1 himp
    exact .filled hbefore (himpx _ _ hx) (hxs.imp himp) hclosing

theorem WrittenMember.congr {value value' : Json → Nat → List Char → Prop} {member : String × Json}
    {text : List Char} (hkey : shown member.1 = shown' member.1)
    (hvalue : ∀ n text, value member.2 n text → value' member.2 n text)
    (h : WrittenMember shown value member n text) : WrittenMember shown' value' member n text := by
  cases h with
  | mk hbefore hinner hv =>
    rw [hkey]
    exact .mk hbefore hinner (hvalue _ _ hv)

theorem WrittenWith.congr {part? part?' : Option (Json → Nat → List Char → Prop)} {v : Json}
    {text : List Char} (hpart : ∀ part ∈ part?, ∃ part', part?' = some part' ∧
      ∀ {v}, (∀ s ∈ texts v, shown s = shown' s) → ∀ n text, part v n text → part' v n text)
    (htexts : ∀ s ∈ texts v, shown s = shown' s) (h : WrittenWith shown part? v n text) :
    WrittenWith shown' part?' v n text := by
  cases h with
  | null => exact .null
  | yes => exact .yes
  | no => exact .no
  | number hread => exact .number hread
  | string s =>
    rw [htexts s (by simp [texts])]
    exact .string s
  | array hsome hinner =>
    obtain ⟨part', rfl, himp⟩ := hpart _ hsome
    refine .array rfl (hinner.imp fun item hitem ↦ himp fun s hs ↦ htexts s ?_)
    exact mem_texts_array.2 ⟨item, hitem, hs⟩
  | object hsome hincreasing hinner =>
    obtain ⟨part', rfl, himp⟩ := hpart _ hsome
    refine .object rfl hincreasing (hinner.imp fun member hmember n text h ↦ ?_)
    have hmembers (s : String) (hs : s = member.1 ∨ s ∈ texts member.2) : shown s = shown' s :=
      htexts s (mem_texts_object.2 ⟨member, hmember, hs⟩)
    exact h.congr (hmembers _ (.inl rfl)) (himp fun s hs ↦ hmembers s (.inr hs))

/-- A text depends only on how the texts in its value are shown. -/
theorem Written.congr {depth : Nat} {v : Json} (htexts : ∀ s ∈ texts v, shown s = shown' s)
    (n : Nat) (text : List Char) (h : Written shown depth v n text) :
    Written shown' depth v n text := by
  induction depth generalizing v n text with
  | zero => exact WrittenWith.congr (by simp) htexts h
  | succ depth ih =>
    refine WrittenWith.congr (fun part hpart ↦ ?_) htexts h
    obtain rfl := Option.some.inj hpart
    exact ⟨_, rfl, ih⟩

end

/-- A text that mending leaves as it is when it stands in a string: it holds no typographic quote,
and no comma with only white space between it and a closing bracket. What is spelled behind a
backslash is no white space. -/
structure Untouched (cs : List Char) : Prop where
  quotes : ∀ c ∈ cs, straightQuote c = c
  commas : ∀ tail, ',' :: tail <:+ cs → closesNext (escape tail) = false

section

variable {c : Char} {cs : List Char}

theorem untouched_nil : Untouched [] where
  quotes := by simp
  commas tail h := absurd (List.suffix_nil.1 h) (List.cons_ne_nil _ _)

theorem untouched_cons_iff :
    Untouched (c :: cs) ↔
      straightQuote c = c ∧ (c = ',' → closesNext (escape cs) = false) ∧ Untouched cs := by
  constructor
  · rintro ⟨hquotes, hcommas⟩
    obtain ⟨hc, hcs⟩ := List.forall_mem_cons.1 hquotes
    refine ⟨hc, ?_, hcs, fun tail htail ↦ hcommas tail (htail.trans (List.suffix_cons c cs))⟩
    rintro rfl
    exact hcommas cs (List.suffix_refl _)
  · rintro ⟨hc, hcomma, hquotes, hcommas⟩
    refine ⟨List.forall_mem_cons.2 ⟨hc, hquotes⟩, fun tail htail ↦ ?_⟩
    rcases List.suffix_cons_iff.1 htail with heq | htail
    · obtain ⟨rfl, rfl⟩ := List.cons.inj heq
      exact hcomma rfl
    · exact hcommas tail htail

/-- A comma that goes makes a text lighter. -/
theorem softened_comma_ne (h : closesNext cs = true) : softened (',' :: cs) ≠ ',' :: cs := by
  intro heq
  have hdropped : softened (',' :: cs) = (dropTrailingCommas true cs).map straightQuote := by
    simp [softened, dropTrailingCommas, h]
  have hle := mendables_mended_le true cs
  rw [← hdropped, heq, mendables_cons ',' cs, show mendables [','] = 1 from rfl] at hle
  omega

theorem softened_escape_cons_iff :
    softened (escape (c :: cs)) = escape (c :: cs) ↔
      straightQuote c = c ∧ (c = ',' → closesNext (escape cs) = false) ∧
        softened (escape cs) = escape cs := by
  rw [escape_cons]
  by_cases hplain : escapeChar c = [c]
  · rw [hplain, List.singleton_append]
    by_cases hcomma : c = ','
    · subst hcomma
      cases hcloses : closesNext (escape cs) with
      | true => simp [softened_comma_ne hcloses]
      | false => simp [softened_comma hcloses, straightQuote]
    · rw [softened, dropTrailingCommas_cons hcomma (by simp), List.map_cons, List.cons.injEq]
      simp [hcomma, softened]
  · obtain ⟨hc, hspelled⟩ := isMendable_of_escaped hplain
    obtain ⟨hcomma, hquote⟩ := isMendable_eq_false_iff.1 hc
    rw [softens_of_plain hspelled (escape cs), List.append_cancel_left_eq]
    simp [hcomma, hquote]

theorem softened_escape_eq_self_iff : softened (escape cs) = escape cs ↔ Untouched cs := by
  induction cs with
  | nil => exact iff_of_true rfl untouched_nil
  | cons c cs ih => rw [softened_escape_cons_iff, untouched_cons_iff, ih]

end

/-! ## Reading leniently -/

section

variable {v : Json} {added : Nat}

theorem WrittenWith.bare {shown : String → List Char}
    {part? : Option (Json → Nat → List Char → Prop)} {text : List Char}
    (h : WrittenWith shown part? v added text) (hadded : 0 < added) : Bare text := by
  cases h with
  | null | yes | no | number | string => exact absurd hadded (Nat.lt_irrefl 0)
  | array | object =>
    refine ⟨?_, (solid_singleton (by decide)).append.cons⟩
    rintro c hc
    obtain rfl := Option.some.inj hc
    decide

theorem readLoosely_eq_ok_iff_of_bare {text : String} (hbare : Bare text.toList)
    (hfail : ∀ w, readAll text.toList ≠ .ok w) :
    readLoosely text = .ok v ↔ readAll (softened text.toList) = .ok v := by
  have hinside := hbare.insideFences hbare.trimChars
  unfold readLoosely
  simp only [hinside]
  split
  · rename_i w hw
    exact absurd hw (hfail w)
  · exact mapError_eq_ok_iff

theorem aligned_softened_spelling (s : String) : Aligned (softened (spelling s)) :=
  (aligned_escape s.toList).mended false

theorem mendables_softened_spelling_le (s : String) :
    mendables (softened (spelling s)) ≤ mendablesOf s := by
  rw [mendablesOf, ← mendables_escape s.toList]
  exact mendables_mended_le false _

theorem readAll_softened_eq_ok_iff {text : List Char}
    (htext : Written spelling nestingLimit v added text) :
    readAll (softened text) = .ok v ↔ ∀ s ∈ texts v, Untouched s.toList := by
  have hsoftened := htext.softened
  constructor
  · intro hread s hs
    have hweighed := weighs_written aligned_softened_spelling nestingLimit hsoftened
    have hle := weight_le_of_readAll hweighed.aligned hread
    rw [hweighed.mendables_eq] at hle
    have hsame := (weight_le mendables_softened_spelling_le v).2 hle s hs
    refine softened_escape_eq_self_iff.1 (softened_eq_of_le ?_)
    rw [mendables_escape]
    exact Nat.le_of_eq hsame.symm
  · intro huntouched
    have hspelled : Written spelling nestingLimit v 0 (softened text) :=
      Written.congr (fun s hs ↦ softened_escape_eq_self_iff.2 (huntouched s hs)) _ _ hsoftened
    exact hspelled.readAll_eq_ok_iff.2 ⟨rfl, rfl⟩

/-- The lenient reader gives a value back out of a text without a comma too many, and out of one
with such commas if mending leaves all its texts alone, and only then. -/
theorem readLoosely_written {text : String}
    (htext : Written spelling nestingLimit v added text.toList) :
    (added = 0 → readLoosely text = .ok v) ∧
      (0 < added → (readLoosely text = .ok v ↔ ∀ s ∈ texts v, Untouched s.toList)) := by
  constructor
  · rintro rfl
    have hread := htext.readAll_eq_ok_iff.2 ⟨rfl, rfl⟩
    have hspells : Spells v ([] ++ (text.toList ++ [])) := .plain (by simp) hread (by simp)
    rw [List.nil_append, List.append_nil] at hspells
    exact hspells.readLoosely
  · intro hadded
    have hfail (w : Json) : readAll text.toList ≠ .ok w :=
      fun hread ↦ absurd (htext.readAll_eq_ok_iff.1 hread).1 (Nat.ne_of_gt hadded)
    rw [readLoosely_eq_ok_iff_of_bare (WrittenWith.bare htext hadded) hfail]
    exact readAll_softened_eq_ok_iff htext

end

/-- An answer with commas behind its last item and its last member. -/
def listedPages : String :=
  r#"{"pages": ["/", "/items",],"# ++ "\n" ++ r"}"

def pagesDocument : Json :=
  .object [("pages", .array [.string "/", .string "/items"])]

theorem listedPages_written :
    Written spelling nestingLimit pagesDocument 2 listedPages.toList := by
  have hnone : ∀ b ∈ ([] : List Char), isJsonBlank b := by decide
  have hspace : ∀ b ∈ [' '], isJsonBlank b := by decide
  have hbreak : Closing 1 ([] ++ ',' :: ['\n']) := .comma hnone (by decide)
  have hbare : Closing 1 ([] ++ ',' :: []) := .comma hnone (by decide)
  have hroot : Written spelling 125 (.string "/") 0 _ := WrittenWith.string "/"
  have hpage : Written spelling 125 (.string "/items") 0 _ := WrittenWith.string "/items"
  have hitems := Parts.filled hnone hroot (.cons hnone hspace hpage .nil) hbare
  have hlist : Written spelling 126 (.array [.string "/", .string "/items"]) 1 _ :=
    WrittenWith.array rfl hitems
  have hmember : WrittenMember spelling (Written spelling 126)
      ("pages", .array [.string "/", .string "/items"]) 1 _ := .mk hnone hspace hlist
  exact WrittenWith.object rfl (by decide) (.filled hnone hmember .nil hbreak)

theorem listedPages_readLoosely :
    0 < 2 ∧ (∀ s ∈ texts pagesDocument, Untouched s.toList) ∧
      readLoosely listedPages = .ok pagesDocument := by
  have huntouched : ∀ s ∈ texts pagesDocument, Untouched s.toList := by
    have hsame : ∀ s ∈ texts pagesDocument, softened (escape s.toList) = escape s.toList := by
      decide
    exact fun s hs ↦ softened_escape_eq_self_iff.1 (hsame s hs)
  exact ⟨by decide, huntouched,
    ((readLoosely_written listedPages_written).2 (by decide)).2 huntouched⟩

/-- A purpose with a comma in front of a bracket. -/
def listingPurpose : Json :=
  .object [("purpose", .string "Lists [a, ] and more")]

def listingText : String :=
  r#"{"purpose": "Lists [a, ] and more",}"#

theorem listingText_readLoosely :
    Written spelling nestingLimit listingPurpose 1 listingText.toList ∧
      readLoosely listingText = .ok (.object [("purpose", .string "Lists [a] and more")]) ∧
      readLoosely listingText ≠ .ok listingPurpose := by
  have hnone : ∀ b ∈ ([] : List Char), isJsonBlank b := by decide
  have hspace : ∀ b ∈ [' '], isJsonBlank b := by decide
  have hbare : Closing 1 ([] ++ ',' :: []) := .comma hnone (by decide)
  have hpurpose : Written spelling 126 (.string "Lists [a, ] and more") 0 _ :=
    WrittenWith.string _
  have hmember : WrittenMember spelling (Written spelling 126)
      ("purpose", .string "Lists [a, ] and more") 0 _ := .mk hnone hspace hpurpose
  have hread : readLoosely listingText =
      .ok (.object [("purpose", .string "Lists [a] and more")]) := by decide +kernel
  refine ⟨WrittenWith.object rfl (by decide) (.filled hnone hmember .nil hbare), hread, ?_⟩
  rw [hread]
  decide

end WebScaffold.Json

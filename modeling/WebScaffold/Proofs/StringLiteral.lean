import Mathlib.Algebra.Ring.Parity
import Mathlib.Data.List.DropRight
import WebScaffold.Proofs.Literal
import WebScaffold.Proofs.Written

/-!
# String literals

The literals of Json are given here by their grammar, in which a character may be spelled in several
ways. The strict reader takes a string exactly where the grammar has one, so no literal goes on
behind another one and none spells two texts. Text that is escaped and put between quotes is such a
literal and spells the text, whatever stands behind it.
-/

namespace WebScaffold

namespace Json

/-! ## The grammar -/

/-- A hexadecimal digit, small or big, and its value. -/
def IsHexDigit (d : Char) (n : Nat) : Prop :=
  n < 16 ∧ (d = n.digitChar ∨ d = n.digitChar.toUpper)

/-- Four hexadecimal digits and their number. -/
inductive IsHexUnit : List Char → Nat → Prop where
  | mk {a b c d : Char} {i j k l : Nat} (ha : IsHexDigit a i) (hb : IsHexDigit b j)
    (hc : IsHexDigit c k) (hd : IsHexDigit d l) :
    IsHexUnit [a, b, c, d] (((i * 16 + j) * 16 + k) * 16 + l)

/-- The letters and signs that spell a character behind a backslash. -/
def letterEscapes : List (Char × Char) :=
  [('"', '"'), ('\\', '\\'), ('/', '/'), ('b', '\x08'), ('f', '\x0c'), ('n', '\n'), ('r', '\r'),
    ('t', '\t')]

/-- The character whose number is given in two halves. -/
def pairedChar (high low : Nat) : Char :=
  Char.ofNat ((high - 0xD800) * 0x400 + (low - 0xDC00) + 0x10000)

/-- What spells a character behind a backslash: a letter, the number of the character, or the two
halves of a number that is too big for four digits. -/
inductive IsEscape : List Char → Char → Prop where
  | letter {letter c : Char} (h : (letter, c) ∈ letterEscapes) : IsEscape [letter] c
  | unit {digits : List Char} {n : Nat} (hdigits : IsHexUnit digits n)
    (hwhole : ¬(0xD800 ≤ n ∧ n ≤ 0xDFFF)) : IsEscape ('u' :: digits) (Char.ofNat n)
  | pair {digits digits' : List Char} {high low : Nat} (hdigits : IsHexUnit digits high)
    (hdigits' : IsHexUnit digits' low) (hhigh : 0xD800 ≤ high ∧ high ≤ 0xDBFF)
    (hlow : 0xDC00 ≤ low ∧ low ≤ 0xDFFF) :
    IsEscape ('u' :: (digits ++ '\\' :: 'u' :: digits')) (pairedChar high low)

/-- What stands between the quotes of a literal, and the characters that it spells. -/
inductive InQuotes : List Char → List Char → Prop where
  | nil : InQuotes [] []
  | plain {c : Char} {text cs : List Char} (hquote : c ≠ '"') (hbackslash : c ≠ '\\')
    (hcontrol : ¬c.toNat < 0x20) (htext : InQuotes text cs) : InQuotes (c :: text) (c :: cs)
  | escaped {c : Char} {spelled text cs : List Char} (hspelled : IsEscape spelled c)
    (htext : InQuotes text cs) : InQuotes ('\\' :: (spelled ++ text)) (c :: cs)

/-- A string literal and the text that it spells. -/
def IsLiteral (literal : List Char) (v : String) : Prop :=
  ∃ text, literal = '"' :: (text ++ ['"']) ∧ InQuotes text v.toList

/-! ## What the reader takes -/

section

variable {c d : Char} {cs ds rest text xs : List Char} {n fuel : Nat} {v : String}

theorem isHexDigit_of_digit : ∀ n < 10, IsHexDigit (Char.ofNat (48 + n)) n := by
  unfold IsHexDigit
  decide

theorem isHexDigit_of_letter : ∀ n < 6, IsHexDigit (Char.ofNat (97 + n)) (n + 10) ∧
    IsHexDigit (Char.ofNat (65 + n)) (n + 10) := by
  unfold IsHexDigit
  decide

theorem hexValue?_toUpper_digitChar : ∀ n < 16, hexValue? n.digitChar.toUpper = some n := by
  decide

theorem hexValue?_eq_some_iff : hexValue? d = some n ↔ IsHexDigit d n := by
  constructor
  · intro h
    unfold hexValue? at h
    split_ifs at h with hdigit hsmall hbig
    · obtain rfl := Option.some.inj h
      have hrange := Text.isDigit_iff.1 hdigit
      have hd := isHexDigit_of_digit (d.toNat - 48) (by omega)
      rwa [Nat.add_sub_cancel' hrange.1, Char.ofNat_toNat] at hd
    · obtain rfl := Option.some.inj h
      have hrange : 97 ≤ d.toNat ∧ d.toNat ≤ 102 := hsmall
      have hd := (isHexDigit_of_letter (d.toNat - 97) (by omega)).1
      rwa [Nat.add_sub_cancel' hrange.1, Char.ofNat_toNat] at hd
    · obtain rfl := Option.some.inj h
      have hrange : 65 ≤ d.toNat ∧ d.toNat ≤ 70 := hbig
      have hd := (isHexDigit_of_letter (d.toNat - 65) (by omega)).2
      rwa [Nat.add_sub_cancel' hrange.1, Char.ofNat_toNat] at hd
  · rintro ⟨hn, rfl | rfl⟩
    · exact hexValue?_digitChar n hn
    · exact hexValue?_toUpper_digitChar n hn

theorem isHexUnit_of_mapM {i j k l : Nat} (h : ds.mapM hexValue? = some [i, j, k, l]) :
    IsHexUnit ds (((i * 16 + j) * 16 + k) * 16 + l) := by
  obtain ⟨a, b, c, d, rfl⟩ := List.length_eq_four.1 (length_of_mapM_hexValue? h).symm
  have hvalues : hexValue? a = some i ∧ hexValue? b = some j ∧ hexValue? c = some k ∧
      hexValue? d = some l := by
    simpa [Option.bind_eq_some_iff] using h
  simp only [hexValue?_eq_some_iff] at hvalues
  exact ⟨hvalues.1, hvalues.2.1, hvalues.2.2.1, hvalues.2.2.2⟩

theorem readHex_eq_ok_iff :
    readHex cs = .ok (n, rest) ↔ ∃ digits, cs = digits ++ rest ∧ IsHexUnit digits n := by
  constructor
  · intro h
    unfold readHex at h
    simp only at h
    split at h
    · rename_i hdigits
      obtain ⟨rfl, rfl⟩ := Prod.mk.inj (Except.ok.inj h)
      exact ⟨cs.take 4, (List.take_append_drop 4 cs).symm, isHexUnit_of_mapM hdigits⟩
    · split_ifs at h
      cases h
  · rintro ⟨_, rfl, ⟨ha, hb, hc, hd⟩⟩
    rw [← hexValue?_eq_some_iff] at ha hb hc hd
    simp [readHex, ha, hb, hc, hd]

theorem readLowSurrogate_eq_ok_iff {high : Nat} :
    readLowSurrogate high cs = .ok (c, rest) ↔
      ∃ digits low, cs = '\\' :: 'u' :: (digits ++ rest) ∧ IsHexUnit digits low ∧
        (0xDC00 ≤ low ∧ low ≤ 0xDFFF) ∧ c = pairedChar high low := by
  constructor
  · intro h
    unfold readLowSurrogate at h
    split at h
    · cases h
    · cases h
    · obtain ⟨⟨low, behind⟩, hlow, hc⟩ := bind_eq_ok_iff.1 h
      obtain ⟨digits, rfl, hdigits⟩ := readHex_eq_ok_iff.1 hlow
      simp only at hc
      split_ifs at hc with hrange
      · obtain ⟨rfl, rfl⟩ := Prod.mk.inj (Except.ok.inj hc)
        exact ⟨digits, low, rfl, hdigits, hrange, rfl⟩
      · cases hc
    · cases h
    · cases h
  · rintro ⟨digits, low, rfl, hdigits, hrange, hc⟩
    have hlow : readHex (digits ++ rest) = .ok (low, rest) :=
      readHex_eq_ok_iff.2 ⟨digits, rfl, hdigits⟩
    rw [readLowSurrogate, bind_of_eq_ok hlow, hc]
    simp only [if_pos hrange]
    rfl

theorem readUnicodeEscape_eq_ok_iff : readUnicodeEscape cs = .ok (c, rest) ↔
    ∃ spelled, cs = spelled ++ rest ∧ IsEscape ('u' :: spelled) c := by
  constructor
  · intro h
    obtain ⟨⟨n, behind⟩, hn, hc⟩ := bind_eq_ok_iff.1 h
    obtain ⟨digits, rfl, hdigits⟩ := readHex_eq_ok_iff.1 hn
    simp only at hc
    split_ifs at hc with hlow hhigh
    · cases hc
    · obtain ⟨digits', low, rfl, hdigits', hrange, hpaired⟩ := readLowSurrogate_eq_ok_iff.1 hc
      rw [hpaired]
      exact ⟨digits ++ '\\' :: 'u' :: digits', by simp, .pair hdigits hdigits' hhigh hrange⟩
    · obtain ⟨rfl, rfl⟩ := Prod.mk.inj (Except.ok.inj hc)
      exact ⟨digits, rfl, .unit hdigits (by omega)⟩
  · rintro ⟨spelled, rfl, hspelled⟩
    cases hspelled with
    | letter h => simp [letterEscapes] at h
    | @unit _ n hdigits hwhole =>
      have hn : readHex (spelled ++ rest) = .ok (n, rest) :=
        readHex_eq_ok_iff.2 ⟨spelled, rfl, hdigits⟩
      have hlow : ¬(0xDC00 ≤ n ∧ n ≤ 0xDFFF) := by omega
      have hhigh : ¬(0xD800 ≤ n ∧ n ≤ 0xDBFF) := by omega
      rw [readUnicodeEscape, bind_of_eq_ok hn]
      simp only [if_neg hlow, if_neg hhigh]
      rfl
    | @pair digits digits' high low hdigits hdigits' hhigh hlow =>
      have hn : readHex (digits ++ '\\' :: 'u' :: digits' ++ rest) =
          .ok (high, '\\' :: 'u' :: (digits' ++ rest)) :=
        readHex_eq_ok_iff.2 ⟨digits, by simp, hdigits⟩
      have hfirst : ¬(0xDC00 ≤ high ∧ high ≤ 0xDFFF) := by omega
      rw [readUnicodeEscape, bind_of_eq_ok hn]
      simp only [if_neg hfirst, if_pos hhigh]
      exact readLowSurrogate_eq_ok_iff.2 ⟨digits', low, rfl, hdigits', hlow, rfl⟩

theorem readEscape_eq_ok_iff :
    readEscape cs = .ok (c, rest) ↔ ∃ spelled, cs = spelled ++ rest ∧ IsEscape spelled c := by
  constructor
  · intro h
    unfold readEscape at h
    split at h
    case h_10 =>
      obtain ⟨spelled, rfl, hspelled⟩ := readUnicodeEscape_eq_ok_iff.1 h
      exact ⟨'u' :: spelled, rfl, hspelled⟩
    case h_1 => cases h
    case h_11 => cases h
    all_goals
      obtain ⟨rfl, rfl⟩ := Prod.mk.inj (Except.ok.inj h)
      exact ⟨[_], rfl, .letter (by decide)⟩
  · rintro ⟨spelled, rfl, hspelled⟩
    have hunicode {digits : List Char} (hdigits : IsEscape ('u' :: digits) c) :
        readEscape ('u' :: digits ++ rest) = .ok (c, rest) :=
      readUnicodeEscape_eq_ok_iff.2 ⟨digits, rfl, hdigits⟩
    cases hspelled with
    | letter h =>
      simp only [letterEscapes, List.mem_cons, Prod.mk.injEq, List.not_mem_nil, or_false] at h
      rcases h with ⟨rfl, rfl⟩ | ⟨rfl, rfl⟩ | ⟨rfl, rfl⟩ | ⟨rfl, rfl⟩ | ⟨rfl, rfl⟩ | ⟨rfl, rfl⟩ |
        ⟨rfl, rfl⟩ | ⟨rfl, rfl⟩
      all_goals rfl
    | unit hdigits hwhole => exact hunicode (.unit hdigits hwhole)
    | pair hdigits hdigits' hhigh hlow => exact hunicode (.pair hdigits hdigits' hhigh hlow)

theorem exists_inQuotes_of_readChars (h : readChars fuel cs = .ok (xs, rest)) :
    ∃ text, cs = text ++ '"' :: rest ∧ InQuotes text xs := by
  induction fuel generalizing cs xs with
  | zero => cases h
  | succ fuel ih =>
    rcases readChars_succ_eq_ok_iff.1 h with ⟨rfl, rfl⟩ | ⟨x, behind, tail, hx, htail, rfl⟩
    · exact ⟨[], rfl, .nil⟩
    · obtain ⟨text, rfl, htext⟩ := ih htail
      cases hx with
      | plain hquote hbackslash hcontrol =>
        exact ⟨x :: text, rfl, .plain hquote hbackslash hcontrol htext⟩
      | escaped hescape =>
        obtain ⟨spelled, rfl, hspelled⟩ := readEscape_eq_ok_iff.1 hescape
        exact ⟨'\\' :: (spelled ++ text), by simp, .escaped hspelled htext⟩

theorem InQuotes.readChars (h : InQuotes text xs) (hfuel : xs.length ≤ fuel) (rest : List Char) :
    Json.readChars (fuel + 1) (text ++ '"' :: rest) = .ok (xs, rest) := by
  induction h generalizing fuel with
  | nil => exact readChars_quote fuel rest
  | @plain c text cs hquote hbackslash hcontrol _ ih =>
    obtain ⟨fuel, rfl⟩ := Nat.exists_eq_add_one_of_ne_zero (Nat.ne_zero_of_lt hfuel)
    have hrest := ih (Nat.le_of_succ_le_succ hfuel)
    exact readChars_succ_eq_ok_iff.2 (.inr ⟨c, text ++ '"' :: rest, cs,
      .plain hquote hbackslash hcontrol, hrest, rfl⟩)
  | @escaped c spelled text cs hspelled _ ih =>
    obtain ⟨fuel, rfl⟩ := Nat.exists_eq_add_one_of_ne_zero (Nat.ne_zero_of_lt hfuel)
    have hrest := ih (Nat.le_of_succ_le_succ hfuel)
    have hread : readEscape (spelled ++ text ++ '"' :: rest) = .ok (c, text ++ '"' :: rest) :=
      readEscape_eq_ok_iff.2 ⟨spelled, List.append_assoc _ _ _, hspelled⟩
    exact readChars_succ_eq_ok_iff.2 (.inr ⟨c, text ++ '"' :: rest, cs, .escaped hread, hrest, rfl⟩)

theorem InQuotes.length_le (h : InQuotes text xs) : xs.length ≤ text.length := by
  induction h with
  | nil => exact Nat.le_refl 0
  | plain _ _ _ _ ih => exact Nat.succ_le_succ ih
  | escaped _ _ ih =>
    simp only [List.length_cons, List.length_append]
    omega

/-- Behind an opening quote the reader takes what the grammar has there, up to the closing one. -/
theorem readString_eq_ok_iff : readString cs = .ok (v, rest) ↔
    ∃ text, cs = text ++ '"' :: rest ∧ InQuotes text v.toList := by
  constructor
  · intro h
    obtain ⟨xs, hxs, rfl⟩ := (readThen_eq_ok_iff String.ofList).1 h
    rw [String.toList_ofList]
    exact exists_inQuotes_of_readChars hxs
  · rintro ⟨text, rfl, htext⟩
    have hfuel : v.toList.length ≤ (text ++ '"' :: rest).length := by
      have hlength := htext.length_le
      rw [List.length_append]
      omega
    exact (readThen_eq_ok_iff String.ofList).2
      ⟨v.toList, htext.readChars hfuel rest, String.ofList_toList.symm⟩

end

/-! ## Literals -/

section

variable {literal other rest : List Char} {v w : String}

theorem IsLiteral.exists_readString (h : IsLiteral literal v) (rest : List Char) :
    ∃ more, literal ++ rest = '"' :: more ∧ readString more = .ok (v, rest) := by
  obtain ⟨text, rfl, htext⟩ := h
  exact ⟨text ++ '"' :: rest, by simp, readString_eq_ok_iff.2 ⟨text, rfl, htext⟩⟩

/-- A text begins with one literal at most, and no literal spells two texts. -/
theorem IsLiteral.unique (h : IsLiteral literal v) (hother : IsLiteral other w)
    (hbegins : other <+: literal ++ rest) : other = literal ∧ w = v := by
  obtain ⟨behind, hshape⟩ := hbegins
  obtain ⟨more, hmore, hread⟩ := h.exists_readString rest
  obtain ⟨more', hmore', hread'⟩ := hother.exists_readString behind
  obtain rfl : more' = more := by simpa [hmore, hmore'] using hshape
  obtain ⟨rfl, rfl⟩ := Prod.mk.inj (Except.ok.inj (hread'.symm.trans hread))
  exact ⟨List.append_cancel_right hshape, rfl⟩

theorem IsLiteral.readAll (h : IsLiteral literal v) : Json.readAll literal = .ok (.string v) := by
  obtain ⟨more, hmore, hread⟩ := h.exists_readString []
  obtain ⟨part?, hpart?, -⟩ := readValue_eq nestingLimit
  have hskip : skipBlanks literal = '"' :: more := by
    rw [List.append_nil] at hmore
    rw [hmore]
    exact skipBlanks_cons (by decide)
  have hvalue : readValue nestingLimit literal = .ok (.string v, []) := by
    rw [hpart?]
    exact readValueWith_eq_ok_iff.2 ⟨'"', more, hskip, .string hread⟩
  exact bind_of_eq_ok hvalue _

theorem isLiteral_printString (v : String) : IsLiteral (printString v) v := by
  obtain ⟨text, hshape, htext⟩ := readString_eq_ok_iff.1 (readString_escape v [])
  obtain rfl : escape v.toList = text := List.append_cancel_right hshape
  exact ⟨escape v.toList, rfl, htext⟩

theorem not_control_of_mem_hexPair : ∀ n < 0x20, ∀ d ∈ hexPair n, ¬d.toNat < 0x20 := by
  decide

theorem not_control_of_mem_escapeChar (c : Char) : ∀ d ∈ escapeChar c, ¬d.toNat < 0x20 := by
  unfold escapeChar
  split
  case h_8 =>
    split_ifs with hcontrol
    · exact List.forall_mem_append.2 ⟨by decide, not_control_of_mem_hexPair c.toNat hcontrol⟩
    · exact List.forall_mem_singleton.2 hcontrol
  all_goals decide

theorem not_control_of_mem_escape (cs : List Char) : ∀ d ∈ escape cs, ¬d.toNat < 0x20 :=
  List.forall_mem_flatMap.2 fun c _ ↦ not_control_of_mem_escapeChar c

end

end Json

/-! ## Quotes behind backslashes -/

namespace Literal

variable {front back cs : List Char}

/-- How many backslashes stand together at the end of a text. -/
def backslashes (cs : List Char) : Nat :=
  (cs.rtakeWhile (· = '\\')).length

theorem backslashes_append (front cs : List Char) : backslashes (front ++ cs) =
    if backslashes cs = cs.length then cs.length + backslashes front else backslashes cs := by
  unfold backslashes List.rtakeWhile
  rw [List.reverse_append, List.takeWhile_append]
  simp only [List.length_reverse]
  split_ifs
  · rw [List.length_append, List.length_reverse]
  · rfl

theorem odd_backslashes_append (hfront : Even (backslashes front)) (hcs : Odd (backslashes cs)) :
    Odd (backslashes (front ++ cs)) := by
  rw [backslashes_append]
  split_ifs with hall
  · rw [hall] at hcs
    exact hcs.add_even hfront
  · exact hcs

/-- A quote between the quotes of a literal stands behind a backslash that is not taken by another
backslash in front of it. -/
theorem Holds.odd_backslashes (h : Holds (front ++ '"' :: back)) : Odd (backslashes front) := by
  generalize htext : front ++ '"' :: back = text at h
  -- the quote is among what a single character stands for, or among what is left behind it
  induction h generalizing front with
  | nil => simp at htext
  | @plain c text hquote hbackslash _ ih =>
    cases front with
    | nil => exact absurd (List.cons.inj htext).1.symm hquote
    | cons d front =>
      obtain ⟨rfl, hbehind⟩ := List.cons.inj htext
      have hfront : Even (backslashes [d]) := by
        simp [backslashes, List.rtakeWhile, hbackslash]
      exact odd_backslashes_append hfront (ih hbehind)
  | @escaped c text _ _ ih =>
    match front, htext with
    | [_], htext =>
      obtain ⟨rfl, -⟩ := List.cons.inj htext
      decide
    | d :: e :: front, htext =>
      obtain ⟨rfl, hshape⟩ := List.cons.inj htext
      obtain ⟨rfl, hbehind⟩ := List.cons.inj hshape
      have hfront : Even (backslashes ['\\', e]) := by
        by_cases he : e = '\\'
        · subst he
          decide
        · simp [backslashes, List.rtakeWhile, he]
      exact odd_backslashes_append hfront (ih hbehind)

end Literal

/-! ## Escaped text -/

namespace Template

open Json Literal

theorem toList_escape (text : String) : (escape text).toList = Json.escape text.toList :=
  String.toList_ofList

theorem toList_quoted (text : String) :
    ("\"" ++ escape text ++ "\"").toList = printString text := by
  simp [printString, toList_escape]

theorem print_string (text : String) : Json.print (.string text) = "\"" ++ escape text ++ "\"" := by
  apply String.toList_inj.1
  calc (Json.print (.string text)).toList
      = printString text := String.toList_ofList
    _ = ("\"" ++ escape text ++ "\"").toList := (toList_quoted text).symm

theorem escape_append (front back : String) :
    escape (front ++ back) = escape front ++ escape back := by
  apply String.toList_inj.1
  calc (escape (front ++ back)).toList
      = Json.escape (front.toList ++ back.toList) := by rw [toList_escape, String.toList_append]
    _ = Json.escape front.toList ++ Json.escape back.toList := Json.escape_append _ _
    _ = (escape front ++ escape back).toList := by simp [toList_escape]

theorem escape_injective : Function.Injective escape := by
  intro text other heq
  apply String.toList_inj.1
  apply Json.escape_injective
  rw [← toList_escape, ← toList_escape, heq]

/-- Escaping is faithful. Between quotes it gives the printed text, which is read back; whatever
stands behind the closing quote, this is the one literal there and spells the text. No control
character and no bare quote comes out, and the parts of a text are escaped each by itself. -/
theorem escape_faithful :
    (∀ v : String,
      let quoted := "\"" ++ escape v ++ "\""
      Json.print (.string v) = quoted ∧ Json.parse quoted = .ok (.string v) ∧
      (∀ rest literal w, literal <+: quoted.toList ++ rest →
        (IsLiteral literal w ↔ literal = quoted.toList ∧ w = v)) ∧
      (∀ c ∈ (escape v).toList, 0x20 ≤ c.toNat) ∧
      ∀ front back, (escape v).toList = front ++ '"' :: back → Odd (backslashes front)) ∧
    (∀ front back, escape (front ++ back) = escape front ++ escape back) ∧
    Function.Injective escape := by
  refine ⟨fun v ↦ ⟨print_string v, ?_, ?_, ?_, ?_⟩, escape_append, escape_injective⟩
  · rw [parse, toList_quoted, (isLiteral_printString v).readAll]
    rfl
  · intro rest literal w hbegins
    rw [toList_quoted] at hbegins ⊢
    constructor
    · intro hliteral
      exact (isLiteral_printString v).unique hliteral hbegins
    · rintro ⟨rfl, rfl⟩
      exact isLiteral_printString w
  · intro c hc
    rw [toList_escape] at hc
    exact Nat.le_of_not_lt (not_control_of_mem_escape v.toList c hc)
  · intro front back hshape
    have hholds := holds_escape v.toList
    rw [← toList_escape, hshape] at hholds
    exact hholds.odd_backslashes

theorem escape_faithful_quotes :
    let v := "\\\"\x01é"
    let quoted := "\"" ++ escape v ++ "\""
    quoted = "\"\\\\\\\"\\u0001é\"" ∧
      (quoted.toList <+: quoted.toList ++ [';'] ∧ IsLiteral quoted.toList v) ∧
      ('u' ∈ (escape v).toList ∧ 0x20 ≤ 'u'.toNat) ∧
      ((escape v).toList = ['\\', '\\', '\\'] ++ '"' :: "\\u0001é".toList ∧
        Odd (backslashes ['\\', '\\', '\\'])) := by
  intro v quoted
  obtain ⟨-, -, hliteral, hcontrol, hquote⟩ := escape_faithful.1 v
  have hbegins : quoted.toList <+: quoted.toList ++ [';'] := List.prefix_append _ _
  have hmem : 'u' ∈ (escape v).toList := by decide
  have hshape : (escape v).toList = ['\\', '\\', '\\'] ++ '"' :: "\\u0001é".toList := by decide
  refine ⟨by decide, ⟨hbegins, ?_⟩, ⟨hmem, hcontrol 'u' hmem⟩, hshape, ?_⟩
  · exact (hliteral [';'] quoted.toList v hbegins).2 ⟨rfl, rfl⟩
  · exact hquote ['\\', '\\', '\\'] "\\u0001é".toList hshape

end Template

end WebScaffold

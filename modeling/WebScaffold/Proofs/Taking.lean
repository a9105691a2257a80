import Mathlib.Data.List.TakeWhile
import WebScaffold.Json.Reader
import WebScaffold.Proofs.Case
import WebScaffold.Proofs.Except
import WebScaffold.Text.Blank

/-!
# What a Json reader takes off a text

A reader takes a front off its text and leaves the rest. It takes the same front off any text that
goes on differently, as long as the same character or none stands behind it: only the end of a
number is found by looking further. Here are the readers of what has no parts: words, numbers and
strings.
-/

namespace WebScaffold.Json

variable {α β : Type}

/-- Another text can stand in the place of what was left: it is empty or begins alike. -/
def Meets (rest other : List Char) : Prop :=
  other = [] ∨ other.head? = rest.head?

/-- A reader takes fronts of a kind off its texts, whatever stands behind them. -/
def Takes (Kind : List Char → Prop) (read : List Char → Attempt (α × List Char)) : Prop :=
  ∀ ⦃cs x rest⦄, read cs = .ok (x, rest) → ∃ front, Kind front ∧ cs = front ++ rest ∧
    ∀ other, Meets rest other → read (front ++ other) = .ok (x, other)

/-- The last character of a text is neither blank nor part of a fence. -/
def Solid (front : List Char) : Prop :=
  ∃ body c, front = body ++ [c] ∧ Text.isBlank c = false ∧ c ≠ '`'

section

variable {rest other : List Char}

theorem Meets.append (front : List Char) (h : Meets rest other) :
    Meets (front ++ rest) (front ++ other) := by
  cases front with
  | nil => exact h
  | cons c front => exact .inr rfl

theorem meets_of_ne_nil {front : List Char} (h : front ≠ []) :
    Meets (front ++ rest) (front ++ other) := by
  obtain ⟨c, front, rfl⟩ := List.exists_cons_of_ne_nil h
  exact .inr rfl

theorem Meets.forall_head {p : Char → Prop} (h : Meets rest other) (hrest : ∀ c ∈ rest.head?, p c) :
    ∀ c ∈ other.head?, p c := by
  rcases h with rfl | h
  · simp
  · rwa [h]

theorem solid_singleton {c : Char} (h : Text.isBlank c = false ∧ c ≠ '`') : Solid [c] :=
  ⟨[], c, rfl, h⟩

theorem Solid.append {front back : List Char} (h : Solid back) : Solid (front ++ back) := by
  obtain ⟨body, c, rfl, hc⟩ := h
  exact ⟨front ++ body, c, by simp, hc⟩

theorem Solid.cons {c : Char} {back : List Char} (h : Solid back) : Solid (c :: back) := by
  obtain ⟨body, d, rfl, hd⟩ := h
  exact ⟨c :: body, d, rfl, hd⟩

theorem Solid.ne_nil {front : List Char} (h : Solid front) : front ≠ [] := by
  obtain ⟨body, c, rfl, -⟩ := h
  simp

theorem Solid.exists_succ {front : List Char} (h : Solid front) {enough : Nat}
    (henough : front.length ≤ enough) : ∃ fuel, enough = fuel + 1 :=
  Nat.exists_eq_add_of_le' (Nat.le_trans (List.length_pos_of_ne_nil h.ne_nil) henough)

end

/-- What is read in two steps is taken in two parts. -/
theorem Takes.bind {First Second Both : List Char → Prop}
    {read : List Char → Attempt (α × List Char)} {next : α → List Char → Attempt (β × List Char)}
    (hread : Takes First read)
    (hnext : ∀ a, Takes Second (next a))
    (hboth : ∀ front back, First front → Second back → Both (front ++ back)) :
    Takes Both fun cs ↦ read cs >>= fun found ↦ next found.1 found.2 := by
  intro cs x rest h
  obtain ⟨⟨a, mid⟩, ha, hx⟩ := bind_eq_ok_iff.1 h
  obtain ⟨front, hfront, rfl, hsame⟩ := hread ha
  obtain ⟨back, hback, rfl, hsame'⟩ := hnext a hx
  refine ⟨front ++ back, hboth front back hfront hback, by rw [List.append_assoc], ?_⟩
  intro other hother
  rw [List.append_assoc]
  exact bind_eq_ok_iff.2 ⟨(a, back ++ other), hsame _ (hother.append back), hsame' other hother⟩

theorem readThen_eq_ok_iff {found : Attempt (α × List Char)} {b : β} {rest : List Char}
    (wrap : α → β) :
    (do
      let (a, after) ← found
      return (wrap a, after)) = .ok (b, rest) ↔ ∃ a, found = .ok (a, rest) ∧ b = wrap a := by
  constructor
  · intro h
    obtain ⟨⟨a, after⟩, ha, h⟩ := bind_eq_ok_iff.1 h
    obtain ⟨rfl, rfl⟩ := Prod.mk.inj (Except.ok.inj h)
    exact ⟨a, ha, rfl⟩
  · rintro ⟨a, ha, rfl⟩
    exact bind_eq_ok_iff.2 ⟨_, ha, rfl⟩

/-- A part is read, and then those behind it. -/
theorem readCons_eq_ok_iff {read : List Char → Attempt (α × List Char)} {cs rest : List Char}
    {xs : List α} (readRest : List Char → Attempt (List α × List Char)) :
    (do
      let (x, after) ← read cs
      let (tail, last) ← readRest after
      return (x :: tail, last)) = .ok (xs, rest) ↔
      ∃ x after tail, read cs = .ok (x, after) ∧ readRest after = .ok (tail, rest) ∧
        xs = x :: tail := by
  constructor
  · intro h
    obtain ⟨⟨x, after⟩, hx, h⟩ := bind_eq_ok_iff.1 h
    obtain ⟨⟨tail, last⟩, htail, h⟩ := bind_eq_ok_iff.1 h
    obtain ⟨rfl, rfl⟩ := Prod.mk.inj (Except.ok.inj h)
    exact ⟨x, after, tail, hx, htail, rfl⟩
  · rintro ⟨x, after, tail, hx, htail, rfl⟩
    exact bind_eq_ok_iff.2 ⟨_, hx, bind_eq_ok_iff.2 ⟨_, htail, rfl⟩⟩

/-! ## Blanks -/

theorem isJsonBlank_iff {c : Char} :
    isJsonBlank c ↔ c = ' ' ∨ c = '\n' ∨ c = '\t' ∨ c = '\r' := by
  simp [isJsonBlank, or_assoc]

theorem isBlank_of_isJsonBlank {c : Char} (h : isJsonBlank c) : Text.isBlank c := by
  rcases isJsonBlank_iff.1 h with rfl | rfl | rfl | rfl <;> decide

section

variable {blanks cs rest : List Char} {c : Char}

theorem skipBlanks_append (hblanks : ∀ b ∈ blanks, isJsonBlank b) (rest : List Char) :
    skipBlanks (blanks ++ rest) = skipBlanks rest :=
  List.dropWhile_append_of_pos hblanks

theorem skipBlanks_cons (hc : isJsonBlank c = false) : skipBlanks (c :: rest) = c :: rest := by
  simp [skipBlanks, hc]

theorem skipBlanks_append_cons (hblanks : ∀ b ∈ blanks, isJsonBlank b) (hc : isJsonBlank c = false)
    (rest : List Char) : skipBlanks (blanks ++ c :: rest) = c :: rest := by
  rw [skipBlanks_append hblanks, skipBlanks_cons hc]

theorem exists_of_skipBlanks (cs : List Char) :
    ∃ blanks, (∀ b ∈ blanks, isJsonBlank b) ∧ cs = blanks ++ skipBlanks cs :=
  ⟨cs.takeWhile isJsonBlank, fun _ hb ↦ List.mem_takeWhile_imp hb,
    List.takeWhile_append_dropWhile.symm⟩

theorem exists_of_skipBlanks_eq_cons (h : skipBlanks cs = c :: rest) :
    ∃ blanks, (∀ b ∈ blanks, isJsonBlank b) ∧ isJsonBlank c = false ∧ cs = blanks ++ c :: rest := by
  obtain ⟨blanks, hblanks, hcs⟩ := exists_of_skipBlanks cs
  refine ⟨blanks, hblanks, ?_, h ▸ hcs⟩
  have hhead := List.head?_dropWhile_not isJsonBlank cs
  rw [show cs.dropWhile isJsonBlank = c :: rest from h] at hhead
  simpa using hhead

end

/-! ## Words and numbers -/

theorem readIdent_eq_ok_iff {word cs rest : List Char} :
    readIdent word cs = .ok rest ↔ cs = word ++ rest := by
  induction word generalizing cs with
  | nil => simp [readIdent]
  | cons p word ih =>
    cases cs with
    | nil => simp [readIdent, failAt]
    | cons c cs =>
      by_cases hp : p = c
      · simp [readIdent, hp, ih]
      · simp [readIdent, hp, Ne.symm hp, failBehind]

/-- Digits, at least one. -/
def Digits (ds : List Char) : Prop :=
  ds ≠ [] ∧ ∀ d ∈ ds, d.isDigit

/-- No digit comes next. -/
def NoDigitNext (rest : List Char) : Prop :=
  ∀ c ∈ rest.head?, ¬c.isDigit

theorem not_isBlank_of_isDigit {c : Char} (h : c.isDigit) : Text.isBlank c = false ∧ c ≠ '`' := by
  rw [Text.isDigit_iff] at h
  constructor
  · simp only [Text.isBlank, Bool.or_eq_false_iff, Bool.and_eq_false_iff, decide_eq_false_iff_not,
      beq_eq_false_iff_ne]
    omega
  · rintro rfl
    simp at h

theorem Digits.solid {ds : List Char} (h : Digits ds) : Solid ds := by
  refine ⟨ds.dropLast, ds.getLast h.1, (List.dropLast_concat_getLast h.1).symm, ?_⟩
  exact not_isBlank_of_isDigit (h.2 _ (List.getLast_mem h.1))

section

variable {cs ds rest : List Char}

theorem spanDigits_eq_iff :
    spanDigits cs = (ds, rest) ↔ cs = ds ++ rest ∧ (∀ d ∈ ds, d.isDigit) ∧ NoDigitNext rest := by
  constructor
  · intro h
    obtain ⟨rfl, rfl⟩ := Prod.mk.inj h
    refine ⟨List.takeWhile_append_dropWhile.symm, fun d hd ↦ List.mem_takeWhile_imp hd, ?_⟩
    intro c hc
    have hhead := List.head?_dropWhile_not Char.isDigit cs
    rw [hc] at hhead
    simpa using hhead
  · rintro ⟨rfl, hds, hrest⟩
    unfold spanDigits
    rw [List.takeWhile_append_of_pos hds, List.dropWhile_append_of_pos hds]
    cases rest with
    | nil => simp
    | cons c rest => simp [show ¬c.isDigit from hrest c rfl]

theorem readPower_eq_ok_iff :
    readPower cs = .ok (ds, rest) ↔ Digits ds ∧ cs = ds ++ rest ∧ NoDigitNext rest := by
  have hspan : readPower cs = .ok (ds, rest) ↔ ds ≠ [] ∧ spanDigits cs = (ds, rest) := by
    unfold readPower
    rcases spanDigits cs with ⟨_ | ⟨d, ds⟩, _ | ⟨c, rest⟩⟩ <;> simp [failAt, failBehind] <;> grind
  rw [hspan, spanDigits_eq_iff]
  unfold Digits
  tauto

theorem digits_zero : Digits ['0'] :=
  ⟨List.cons_ne_nil _ _, by simp⟩

/-- The digits before a point are a zero alone or begin with another digit. -/
theorem readWhole_eq_ok_iff :
    readWhole cs = .ok (ds, rest) ↔
      Digits ds ∧ (ds.head? = some '0' → ds = ['0']) ∧ cs = ds ++ rest ∧ NoDigitNext rest := by
  cases cs with
  | nil =>
    refine iff_of_false (by simp [readWhole, failAt]) ?_
    rintro ⟨⟨hne, -⟩, -, hcs, -⟩
    exact hne (List.append_eq_nil_iff.mp hcs.symm).1
  | cons c cs =>
    by_cases hzero : c = '0'
    · subst hzero
      have hread : readWhole ('0' :: cs) = .ok (ds, rest) ↔
          NoDigitNext cs ∧ ['0'] = ds ∧ cs = rest := by
        cases cs with
        | nil => simp [readWhole, NoDigitNext]
        | cons c cs => by_cases hc : c.isDigit <;> simp [readWhole, failBehind, NoDigitNext, hc]
      rw [hread]
      constructor
      · rintro ⟨hnext, rfl, rfl⟩
        exact ⟨digits_zero, fun _ ↦ rfl, rfl, hnext⟩
      · rintro ⟨⟨hne, -⟩, halone, hcs, hnext⟩
        obtain ⟨d, ds, rfl⟩ := List.exists_cons_of_ne_nil hne
        obtain ⟨rfl, hbehind⟩ := List.cons.inj hcs
        obtain ⟨-, rfl⟩ := List.cons.inj (halone rfl)
        obtain rfl : cs = rest := hbehind
        exact ⟨hnext, rfl, rfl⟩
    · have hread : readWhole (c :: cs) = .ok (ds, rest) ↔
          c.isDigit ∧ spanDigits (c :: cs) = (ds, rest) := by
        unfold readWhole
        split
        · simp_all
        · simp_all
        · rename_i heq
          obtain ⟨rfl, rfl⟩ := List.cons.inj heq
          split_ifs with hc <;> simp [failBehind, hc]
      rw [hread, spanDigits_eq_iff]
      constructor
      · rintro ⟨hc, hcs, hds, hnext⟩
        cases ds with
        | nil =>
          obtain rfl : c :: cs = rest := hcs
          exact absurd hc (hnext c rfl)
        | cons d ds =>
          obtain ⟨rfl, -⟩ := List.cons.inj hcs
          exact ⟨⟨by simp, hds⟩, fun hhead ↦ absurd (Option.some.inj hhead) hzero, hcs, hnext⟩
      · rintro ⟨⟨hne, hds⟩, -, hcs, hnext⟩
        obtain ⟨d, ds, rfl⟩ := List.exists_cons_of_ne_nil hne
        obtain ⟨rfl, -⟩ := List.cons.inj hcs
        exact ⟨hds c (by simp), hcs, hds, hnext⟩

theorem readFraction_point (cs : List Char) :
    readFraction ('.' :: cs) = (readPower cs).map fun found ↦ (some found.1, found.2) := by
  simp only [readFraction, readPower]
  rcases spanDigits cs with ⟨_ | ⟨d, ds⟩, _ | ⟨c, rest⟩⟩ <;> rfl

theorem readFraction_of_ne (h : ∀ c ∈ cs.head?, c ≠ '.') : readFraction cs = .ok (none, cs) := by
  unfold readFraction
  split
  · exact absurd rfl (h '.' rfl)
  · rfl

theorem readFraction_eq_ok_iff {fraction : Option (List Char)} :
    readFraction cs = .ok (fraction, rest) ↔
      (fraction = none ∧ cs = rest ∧ ∀ c ∈ rest.head?, c ≠ '.') ∨
        ∃ ds, fraction = some ds ∧ Digits ds ∧ cs = '.' :: (ds ++ rest) ∧ NoDigitNext rest := by
  by_cases hpoint : ∀ c ∈ cs.head?, c ≠ '.'
  · rw [readFraction_of_ne hpoint, Except.ok.injEq, Prod.mk.injEq]
    constructor
    · rintro ⟨rfl, rfl⟩
      exact .inl ⟨rfl, rfl, hpoint⟩
    · rintro (⟨rfl, rfl, -⟩ | ⟨ds, -, -, rfl, -⟩)
      · exact ⟨rfl, rfl⟩
      · exact absurd rfl (hpoint '.' rfl)
  · obtain ⟨cs, rfl⟩ : ∃ behind, cs = '.' :: behind := by
      cases cs <;> simp_all
    simp only [readFraction_point, map_eq_ok_iff, Prod.exists, readPower_eq_ok_iff, Prod.mk.injEq]
    constructor
    · rintro ⟨ds, left, ⟨hds, hcs, hnext⟩, rfl, rfl⟩
      exact .inr ⟨ds, rfl, hds, congrArg _ hcs, hnext⟩
    · rintro (⟨-, rfl, hnone⟩ | ⟨ds, rfl, hds, hcs, hnext⟩)
      · exact absurd rfl (hnone '.' rfl)
      · exact ⟨ds, rest, ⟨hds, (List.cons.inj hcs).2, hnext⟩, rfl, rfl⟩

/-- How the sign of an exponent is written, and whether it is negative. -/
inductive ExponentSign : List Char → Bool → Prop where
  | none : ExponentSign [] false
  | plus : ExponentSign ['+'] false
  | minus : ExponentSign ['-'] true

theorem readExponent_of_mark {mark : Char} {sign : List Char} {down : Bool}
    (hmark : mark = 'e' ∨ mark = 'E') (hsign : ExponentSign sign down)
    (hcs : sign = [] → ∀ c ∈ cs.head?, c ≠ '+' ∧ c ≠ '-') :
    readExponent (mark :: (sign ++ cs)) =
      (readPower cs).map fun found ↦ (some (down, found.1), found.2) := by
  have hmap (x : Attempt (List Char × List Char)) :
      (x >>= fun found ↦ pure (some (down, found.1), found.2)) =
        x.map fun found ↦ (some (down, found.1), found.2) := by cases x <;> rfl
  simp only [readExponent, if_pos hmark]
  cases hsign with
  | none =>
    rw [List.nil_append]
    split
    · exact absurd rfl (hcs rfl '+' rfl).1
    · exact absurd rfl (hcs rfl '-' rfl).2
    · exact hmap _
  | plus => exact hmap _
  | minus => exact hmap _

theorem readExponent_of_ne (h : ∀ c ∈ cs.head?, c ≠ 'e' ∧ c ≠ 'E') :
    readExponent cs = .ok (none, cs) := by
  cases cs with
  | nil => rfl
  | cons c cs =>
    have hc : ¬(c = 'e' ∨ c = 'E') := not_or.mpr (h c rfl)
    simp only [readExponent, if_neg hc]

/-- Behind the mark of an exponent stands its sign, if it has one. -/
theorem exists_sign (cs : List Char) :
    ∃ sign down behind, ExponentSign sign down ∧ cs = sign ++ behind ∧
      (sign = [] → ∀ c ∈ behind.head?, c ≠ '+' ∧ c ≠ '-') := by
  cases cs with
  | nil => exact ⟨[], false, [], .none, rfl, by simp⟩
  | cons c cs =>
    by_cases hplus : c = '+'
    · exact ⟨['+'], false, cs, .plus, by simp [hplus], by simp⟩
    · by_cases hminus : c = '-'
      · exact ⟨['-'], true, cs, .minus, by simp [hminus], by simp⟩
      · exact ⟨[], false, c :: cs, .none, rfl, by simp [hplus, hminus]⟩

theorem Digits.head_ne {ds : List Char} (h : Digits ds) (rest : List Char) :
    ∀ c ∈ (ds ++ rest).head?, c ≠ '+' ∧ c ≠ '-' := by
  obtain ⟨d, ds, rfl⟩ := List.exists_cons_of_ne_nil h.1
  rintro c hc
  obtain rfl : d = c := Option.some.inj hc
  have hd := h.2 d List.mem_cons_self
  constructor <;> rintro rfl <;> simp at hd

theorem readExponent_eq_ok_iff {exponent : Option (Bool × List Char)} :
    readExponent cs = .ok (exponent, rest) ↔
      (exponent = none ∧ cs = rest ∧ ∀ c ∈ rest.head?, c ≠ 'e' ∧ c ≠ 'E') ∨
        ∃ mark sign down ds, (mark = 'e' ∨ mark = 'E') ∧ ExponentSign sign down ∧
          exponent = some (down, ds) ∧ Digits ds ∧ cs = mark :: (sign ++ (ds ++ rest)) ∧
          NoDigitNext rest := by
  constructor
  · intro h
    by_cases hnone : ∀ c ∈ cs.head?, c ≠ 'e' ∧ c ≠ 'E'
    · rw [readExponent_of_ne hnone] at h
      obtain ⟨rfl, rfl⟩ := Prod.mk.inj (Except.ok.inj h)
      exact .inl ⟨rfl, rfl, hnone⟩
    · obtain ⟨mark, cs, hmark, rfl⟩ :
          ∃ mark behind, (mark = 'e' ∨ mark = 'E') ∧ cs = mark :: behind := by
        cases cs <;> simp_all
        tauto
      obtain ⟨sign, down, behind, hsign, rfl, hbehind⟩ := exists_sign cs
      rw [readExponent_of_mark hmark hsign hbehind] at h
      obtain ⟨⟨ds, left⟩, hpower, hfound⟩ := map_eq_ok_iff.1 h
      obtain ⟨rfl, rfl⟩ := Prod.mk.inj hfound
      obtain ⟨hds, rfl, hnext⟩ := readPower_eq_ok_iff.1 hpower
      exact .inr ⟨mark, sign, down, ds, hmark, hsign, rfl, hds, rfl, hnext⟩
  · rintro (⟨rfl, rfl, hnone⟩ | ⟨mark, sign, down, ds, hmark, hsign, rfl, hds, rfl, hnext⟩)
    · exact readExponent_of_ne hnone
    · have hpower : readPower (ds ++ rest) = .ok (ds, rest) :=
        readPower_eq_ok_iff.2 ⟨hds, rfl, hnext⟩
      rw [readExponent_of_mark hmark hsign fun _ ↦ hds.head_ne rest, hpower]
      rfl

end

theorem takes_readWhole : Takes Digits readWhole := by
  intro cs ds rest h
  obtain ⟨hds, hzero, rfl, hnext⟩ := readWhole_eq_ok_iff.1 h
  exact ⟨ds, hds, rfl, fun other hother ↦
    readWhole_eq_ok_iff.2 ⟨hds, hzero, rfl, hother.forall_head hnext⟩⟩

theorem takes_readFraction : Takes (fun front ↦ front = [] ∨ Solid front) readFraction := by
  intro cs fraction rest h
  rcases readFraction_eq_ok_iff.1 h with ⟨rfl, rfl, hpoint⟩ | ⟨ds, rfl, hds, rfl, hnext⟩
  · exact ⟨[], .inl rfl, rfl, fun other hother ↦
      readFraction_eq_ok_iff.2 (.inl ⟨rfl, rfl, hother.forall_head hpoint⟩)⟩
  · exact ⟨'.' :: ds, .inr hds.solid.cons, rfl, fun other hother ↦
      readFraction_eq_ok_iff.2 (.inr ⟨ds, rfl, hds, rfl, hother.forall_head hnext⟩)⟩

theorem takes_readExponent : Takes (fun front ↦ front = [] ∨ Solid front) readExponent := by
  intro cs exponent rest h
  rcases readExponent_eq_ok_iff.1 h with
    ⟨rfl, rfl, hmark⟩ | ⟨mark, sign, down, ds, hmark, hsign, rfl, hds, rfl, hnext⟩
  · exact ⟨[], .inl rfl, rfl, fun other hother ↦
      readExponent_eq_ok_iff.2 (.inl ⟨rfl, rfl, hother.forall_head hmark⟩)⟩
  · refine ⟨mark :: (sign ++ ds), .inr hds.solid.append.cons, by simp, fun other hother ↦ ?_⟩
    exact readExponent_eq_ok_iff.2 (.inr ⟨mark, sign, down, ds, hmark, hsign, rfl, hds, by simp,
      hother.forall_head hnext⟩)

/-- A number is read in three steps, and what these give settles it, whatever is left behind. -/
theorem exists_of_readNumber {negative : Bool} {n : JsonNumber} {cs rest : List Char}
    (h : readNumber negative cs = .ok (n, rest)) :
    ∃ whole fraction exponent behindWhole behindFraction,
      readWhole cs = .ok (whole, behindWhole) ∧
      readFraction behindWhole = .ok (fraction, behindFraction) ∧
      readExponent behindFraction = .ok (exponent, rest) ∧
      ∀ cs' behindWhole' behindFraction' rest', readWhole cs' = .ok (whole, behindWhole') →
        readFraction behindWhole' = .ok (fraction, behindFraction') →
        readExponent behindFraction' = .ok (exponent, rest') →
          readNumber negative cs' = .ok (n, rest') := by
  obtain ⟨⟨whole, behindWhole⟩, hwhole, h⟩ := bind_eq_ok_iff.1 h
  obtain ⟨⟨fraction, behindFraction⟩, hfraction, h⟩ := bind_eq_ok_iff.1 h
  obtain ⟨⟨exponent, behind⟩, hexponent, hamount⟩ := bind_eq_ok_iff.1 h
  have hsame (cs' behindWhole' behindFraction' rest' : List Char)
      (hwhole' : readWhole cs' = .ok (whole, behindWhole'))
      (hfraction' : readFraction behindWhole' = .ok (fraction, behindFraction'))
      (hexponent' : readExponent behindFraction' = .ok (exponent, rest')) :
      readNumber negative cs' = _ :=
    (bind_of_eq_ok hwhole' _).trans
      ((bind_of_eq_ok hfraction' _).trans (bind_of_eq_ok hexponent' _))
  refine ⟨whole, fraction, exponent, behindWhole, behindFraction, hwhole, hfraction, ?_⟩
  simp only at hamount
  split at hamount
  · rename_i i hinteger
    obtain ⟨rfl, rfl⟩ := Prod.mk.inj (Except.ok.inj hamount)
    refine ⟨hexponent, fun cs' b f rest' h₁ h₂ h₃ ↦ ?_⟩
    rw [hsame cs' b f rest' h₁ h₂ h₃]
    simp only [hinteger]
    rfl
  · rename_i hinteger
    split at hamount
    · rename_i x hreal
      obtain ⟨rfl, rfl⟩ := Prod.mk.inj (Except.ok.inj hamount)
      refine ⟨hexponent, fun cs' b f rest' h₁ h₂ h₃ ↦ ?_⟩
      rw [hsame cs' b f rest' h₁ h₂ h₃]
      simp only [hinteger, hreal]
      rfl
    · split at hamount <;> cases hamount

theorem takes_readNumber (negative : Bool) : Takes Solid (readNumber negative) := by
  intro cs n rest h
  obtain ⟨whole, fraction, exponent, _, _, hwhole, hfraction, hexponent, hamount⟩ :=
    exists_of_readNumber h
  obtain ⟨first, hfirst, rfl, hsameWhole⟩ := takes_readWhole hwhole
  obtain ⟨second, hsecond, rfl, hsameFraction⟩ := takes_readFraction hfraction
  obtain ⟨third, hthird, rfl, hsameExponent⟩ := takes_readExponent hexponent
  have hsolid : Solid (first ++ (second ++ third)) := by
    rcases hthird with rfl | hthird
    · rcases hsecond with rfl | hsecond
      · simpa using hfirst.solid
      · simpa using hsecond.append
    · exact hthird.append.append
  refine ⟨first ++ (second ++ third), hsolid, by simp, fun other hother ↦ ?_⟩
  rw [List.append_assoc, List.append_assoc]
  exact hamount _ _ _ _ (hsameWhole _ ((hother.append third).append second))
    (hsameFraction _ (hother.append third)) (hsameExponent _ hother)

/-! ## Strings -/

theorem length_of_mapM_hexValue? {cs : List Char} {ns : List Nat}
    (h : cs.mapM hexValue? = some ns) : ns.length = cs.length := by
  induction cs generalizing ns with
  | nil =>
    obtain rfl := Option.some.inj h
    rfl
  | cons c cs ih =>
    rw [List.mapM_cons] at h
    obtain ⟨n, -, h⟩ := Option.bind_eq_some_iff.mp h
    obtain ⟨rest, hrest, h⟩ := Option.bind_eq_some_iff.mp h
    obtain rfl := Option.some.inj h
    simp [ih hrest]

theorem takes_readHex : Takes (· ≠ []) readHex := by
  intro cs n rest h
  unfold readHex at h
  simp only at h
  split at h
  · rename_i a b c d hdigits
    obtain ⟨rfl, rfl⟩ := Prod.mk.inj (Except.ok.inj h)
    have hlength : (cs.take 4).length = 4 := (length_of_mapM_hexValue? hdigits).symm
    refine ⟨cs.take 4, ?_, (List.take_append_drop 4 cs).symm, fun other _ ↦ ?_⟩
    · exact List.ne_nil_of_length_pos (by omega)
    · have htake : (cs.take 4 ++ other).take 4 = cs.take 4 := List.take_left' hlength
      have hdrop : (cs.take 4 ++ other).drop 4 = other := List.drop_left' hlength
      simp only [readHex, htake, hdrop, hdigits]
  · split_ifs at h
    cases h

theorem takes_readLowSurrogate (high : Nat) : Takes (· ≠ []) (readLowSurrogate high) := by
  intro cs c rest h
  unfold readLowSurrogate at h
  split at h
  · cases h
  · cases h
  · rename_i cs
    obtain ⟨⟨low, behind⟩, hlow, hc⟩ := bind_eq_ok_iff.1 h
    obtain ⟨front, -, rfl, hsame⟩ := takes_readHex hlow
    simp only at hc
    split_ifs at hc with hrange
    · obtain ⟨rfl, rfl⟩ := Prod.mk.inj (Except.ok.inj hc)
      refine ⟨'\\' :: 'u' :: front, by simp, rfl, fun other hother ↦ ?_⟩
      simp only [List.cons_append, readLowSurrogate]
      rw [bind_of_eq_ok (hsame other hother)]
      simp only [if_pos hrange]
      rfl
    · cases hc
  · cases h
  · cases h

theorem takes_readUnicodeEscape : Takes (· ≠ []) readUnicodeEscape := by
  have hbehind (n : Nat) : Takes (fun _ ↦ True) fun rest ↦
      if 0xDC00 ≤ n ∧ n ≤ 0xDFFF then failAt .loneSurrogate rest
      else if 0xD800 ≤ n ∧ n ≤ 0xDBFF then readLowSurrogate n rest
      else .ok (Char.ofNat n, rest) := by
    intro cs c rest h
    simp only at h ⊢
    split_ifs at h ⊢ with hlow hhigh
    · cases h
    · obtain ⟨front, -, hfront⟩ := takes_readLowSurrogate n h
      exact ⟨front, trivial, hfront⟩
    · obtain ⟨rfl, rfl⟩ := Prod.mk.inj (Except.ok.inj h)
      exact ⟨[], trivial, rfl, fun _ _ ↦ rfl⟩
  exact takes_readHex.bind hbehind fun front back hfront _ ↦ by simp [hfront]

theorem takes_readEscape : Takes (· ≠ []) readEscape := by
  intro cs c rest h
  unfold readEscape at h
  split at h
  case h_10 cs =>
    obtain ⟨front, -, rfl, hsame⟩ := takes_readUnicodeEscape h
    exact ⟨'u' :: front, by simp, rfl, fun other hother ↦ hsame other hother⟩
  case h_1 => cases h
  case h_11 => cases h
  all_goals
    obtain ⟨rfl, rfl⟩ := Prod.mk.inj (Except.ok.inj h)
    exact ⟨[_], by simp, rfl, fun _ _ ↦ rfl⟩

section

variable {fuel : Nat} {c : Char} {cs xs rest : List Char}

theorem readChars_quote (fuel : Nat) (cs : List Char) :
    readChars (fuel + 1) ('"' :: cs) = .ok ([], cs) := rfl

theorem readChars_backslash (fuel : Nat) (cs : List Char) :
    readChars (fuel + 1) ('\\' :: cs) = (do
      let (c, rest) ← readEscape cs
      let (tail, rest) ← readChars fuel rest
      return (c :: tail, rest)) := rfl

theorem readChars_plain (hquote : c ≠ '"') (hbackslash : c ≠ '\\') (fuel : Nat) (cs : List Char) :
    readChars (fuel + 1) (c :: cs) =
      if c.toNat < 0x20 then failBehind .controlCharacter (c :: cs)
      else do
        let (tail, rest) ← readChars fuel cs
        return (c :: tail, rest) := by
  simp only [readChars]

/-- The next character of a string, as it stands or out of an escape, and the text behind it. -/
inductive ReadsChar : List Char → Char → List Char → Prop where
  | plain {c : Char} {rest : List Char} (hquote : c ≠ '"') (hbackslash : c ≠ '\\')
    (hcontrol : ¬c.toNat < 0x20) : ReadsChar (c :: rest) c rest
  | escaped {c : Char} {cs rest : List Char} (h : readEscape cs = .ok (c, rest)) :
    ReadsChar ('\\' :: cs) c rest

/-- A string ends at a quote, and otherwise goes on behind its next character. -/
theorem readChars_succ_eq_ok_iff :
    readChars (fuel + 1) cs = .ok (xs, rest) ↔
      (cs = '"' :: rest ∧ xs = []) ∨
        ∃ x behind tail, ReadsChar cs x behind ∧ readChars fuel behind = .ok (tail, rest) ∧
          xs = x :: tail := by
  constructor
  · intro h
    cases cs with
    | nil => cases h
    | cons c cs =>
      by_cases hquote : c = '"'
      · subst hquote
        rw [readChars_quote] at h
        obtain ⟨rfl, rfl⟩ := Prod.mk.inj (Except.ok.inj h)
        exact .inl ⟨rfl, rfl⟩
      by_cases hbackslash : c = '\\'
      · subst hbackslash
        rw [readChars_backslash] at h
        obtain ⟨x, behind, tail, hescape, htail, rfl⟩ := (readCons_eq_ok_iff _).1 h
        exact .inr ⟨x, behind, tail, .escaped hescape, htail, rfl⟩
      rw [readChars_plain hquote hbackslash] at h
      split_ifs at h with hcontrol
      · cases h
      · obtain ⟨tail, htail, rfl⟩ := (readThen_eq_ok_iff (List.cons c)).1 h
        exact .inr ⟨c, cs, tail, .plain hquote hbackslash hcontrol, htail, rfl⟩
  · rintro (⟨rfl, rfl⟩ | ⟨x, behind, tail, hx, htail, rfl⟩)
    · exact readChars_quote fuel rest
    · cases hx with
      | plain hquote hbackslash hcontrol =>
        rw [readChars_plain hquote hbackslash, if_neg hcontrol]
        exact (readThen_eq_ok_iff (List.cons x)).2 ⟨tail, htail, rfl⟩
      | escaped hescape =>
        rw [readChars_backslash]
        exact (readCons_eq_ok_iff _).2 ⟨x, behind, tail, hescape, htail, rfl⟩

theorem ReadsChar.takes (h : ReadsChar cs c rest) :
    ∃ front, front ≠ [] ∧ cs = front ++ rest ∧
      ∀ other, Meets rest other → ReadsChar (front ++ other) c other := by
  cases h with
  | plain hquote hbackslash hcontrol =>
    exact ⟨[c], by simp, rfl, fun _ _ ↦ .plain hquote hbackslash hcontrol⟩
  | escaped hescape =>
    obtain ⟨front, -, rfl, hsame⟩ := takes_readEscape hescape
    exact ⟨'\\' :: front, by simp, rfl, fun other hother ↦ .escaped (hsame other hother)⟩

/-- The characters of a string need no more fuel than there are characters up to the quote. -/
theorem exists_of_readChars (h : readChars fuel cs = .ok (xs, rest)) :
    ∃ front, Solid front ∧ cs = front ++ rest ∧ ∀ enough other, front.length ≤ enough →
      readChars enough (front ++ other) = .ok (xs, other) := by
  induction fuel generalizing cs xs with
  | zero => cases h
  | succ fuel ih =>
    rcases readChars_succ_eq_ok_iff.1 h with ⟨rfl, rfl⟩ | ⟨x, behind, tail, hx, htail, rfl⟩
    · refine ⟨['"'], solid_singleton (by decide), rfl, fun enough other henough ↦ ?_⟩
      obtain ⟨enough, rfl⟩ := (solid_singleton (by decide)).exists_succ henough
      exact readChars_quote enough other
    · obtain ⟨front, hfront, rfl, hsame⟩ := hx.takes
      obtain ⟨back, hback, rfl, hsame'⟩ := ih htail
      have hsolid : Solid (front ++ back) := hback.append
      refine ⟨_, hsolid, by simp, fun enough other henough ↦ ?_⟩
      obtain ⟨enough, rfl⟩ := hsolid.exists_succ henough
      have hlength : back.length ≤ enough := by
        have hpos := List.length_pos_of_ne_nil hfront
        rw [List.length_append] at henough
        omega
      rw [List.append_assoc]
      exact readChars_succ_eq_ok_iff.2 (.inr ⟨x, back ++ other, tail,
        hsame _ (meets_of_ne_nil hback.ne_nil), hsame' enough other hlength, rfl⟩)

theorem takes_readString : Takes Solid readString := by
  intro cs text rest h
  obtain ⟨chars, hchars, rfl⟩ := (readThen_eq_ok_iff String.ofList).1 h
  obtain ⟨front, hfront, rfl, hsame⟩ := exists_of_readChars hchars
  refine ⟨front, hfront, rfl, fun other _ ↦
    (readThen_eq_ok_iff String.ofList).2 ⟨chars, ?_, rfl⟩⟩
  refine hsame _ other ?_
  rw [List.length_append]
  omega

end

end WebScaffold.Json

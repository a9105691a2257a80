import Mathlib.Data.List.Range
import Mathlib.Tactic.Common
import Mathlib.Tactic.IntervalCases
import WebScaffold.Timestamp

/-!
# Timestamps by RFC 3339

Every instant has a date that the calendar knows, whatever its year, and a time of the day. In the
years that are written with four digits its text is a timestamp.
-/

namespace WebScaffold

namespace Text

/-! ## The grammar -/

/-- The last decimal digits of a number, in a fixed count. -/
def digits : Nat → Nat → List Char
  | 0, _ => []
  | width + 1, number => digits width (number / 10) ++ [Nat.digitChar (number % 10)]

/-- How many days a month has in the calendar of the timestamps. -/
def daysIn (year month : Nat) : Nat :=
  if month = 2 then if year % 4 = 0 ∧ (year % 100 ≠ 0 ∨ year % 400 = 0) then 29 else 28
  else if month ∈ [4, 6, 9, 11] then 30 else 31

def IsDate (cs : List Char) : Prop :=
  ∃ year month day, year < 10000 ∧ 1 ≤ month ∧ month ≤ 12 ∧ 1 ≤ day ∧ day ≤ daysIn year month ∧
    cs = digits 4 year ++ '-' :: digits 2 month ++ '-' :: digits 2 day

/-- The fraction of a second, which may be left out. -/
def IsFraction (cs : List Char) : Prop :=
  cs = [] ∨ ∃ ds, ds ≠ [] ∧ (∀ d ∈ ds, d.isDigit) ∧ cs = '.' :: ds

/-- A time of the day; the second after the last one of a minute is a leap second. -/
def IsTime (cs : List Char) : Prop :=
  ∃ hour minute second fraction, hour < 24 ∧ minute < 60 ∧ second ≤ 60 ∧ IsFraction fraction ∧
    cs = digits 2 hour ++ ':' :: digits 2 minute ++ ':' :: digits 2 second ++ fraction

/-- The distance from universal time. -/
def IsOffset (cs : List Char) : Prop :=
  cs = ['Z'] ∨ cs = ['z'] ∨ ∃ sign hour minute, (sign = '+' ∨ sign = '-') ∧ hour < 24 ∧
    minute < 60 ∧ cs = sign :: digits 2 hour ++ ':' :: digits 2 minute

/-- A date and a time as RFC 3339 writes them. -/
def IsTimestamp (text : String) : Prop :=
  ∃ date mark time offset, IsDate date ∧ (mark = 'T' ∨ mark = 't') ∧ IsTime time ∧
    IsOffset offset ∧ text.toList = date ++ mark :: time ++ offset

theorem isDigit_of_mem_digits {width number : Nat} {c : Char} (h : c ∈ digits width number) :
    c.isDigit := by
  induction width generalizing number with
  | zero => simp [digits] at h
  | succ width ih =>
    rw [digits, List.mem_append, List.mem_singleton] at h
    rcases h with h | rfl
    · exact ih h
    · have hlast : ∀ digit < 10, (Nat.digitChar digit).isDigit := by decide
      exact hlast _ (Nat.mod_lt _ (by decide))

theorem blank_notMem_digits (width number : Nat) : ' ' ∉ digits width number :=
  fun h ↦ absurd (isDigit_of_mem_digits h) (by decide)

theorem IsDate.blank_notMem {cs : List Char} (h : IsDate cs) : ' ' ∉ cs := by
  obtain ⟨year, month, day, -, -, -, -, -, rfl⟩ := h
  simp [blank_notMem_digits]

theorem IsTime.blank_notMem {cs : List Char} (h : IsTime cs) : ' ' ∉ cs := by
  obtain ⟨hour, minute, second, fraction, -, -, -, hfraction, rfl⟩ := h
  have hblank : ' ' ∉ fraction := by
    rcases hfraction with rfl | ⟨ds, -, hdigits, rfl⟩
    · simp
    · rw [List.mem_cons, not_or]
      exact ⟨by decide, fun hmem ↦ absurd (hdigits ' ' hmem) (by decide)⟩
  simp [blank_notMem_digits, hblank]

theorem IsOffset.blank_notMem {cs : List Char} (h : IsOffset cs) : ' ' ∉ cs := by
  rcases h with rfl | rfl | ⟨sign, hour, minute, hsign, -, -, rfl⟩
  · decide
  · decide
  · rcases hsign with rfl | rfl <;> simp [blank_notMem_digits]

/-- What tells a text that is no timestamp: a blank in it, or no hyphen. -/
theorem IsTimestamp.blank_and_hyphen {text : String} (h : IsTimestamp text) :
    ' ' ∉ text.toList ∧ '-' ∈ text.toList := by
  obtain ⟨date, mark, time, offset, hdate, hmark, htime, hoffset, htext⟩ := h
  have hblank : ' ' ≠ mark := by rcases hmark with rfl | rfl <;> decide
  rw [htext]
  constructor
  · simp [hdate.blank_notMem, htime.blank_notMem, hoffset.blank_notMem, hblank]
  · obtain ⟨year, month, day, -, -, -, -, -, rfl⟩ := hdate
    simp

end Text

/-! ## Dates -/

namespace Calendar

variable {year passed : Nat}

theorem le_yearLength (year : Nat) : 365 ≤ yearLength year := by
  unfold yearLength
  split_ifs <;> omega

/-- The day is found in its year, as no year is shorter than 365 days. -/
theorem findYear_lt {fuel : Nat} (year : Nat) (h : passed < 365 * (fuel + 1)) :
    (findYear fuel year passed).2 < yearLength (findYear fuel year passed).1 := by
  induction fuel generalizing year passed with
  | zero => exact Nat.lt_of_lt_of_le h (le_yearLength year)
  | succ fuel ih =>
    unfold findYear
    split_ifs with hyear
    · exact hyear
    · have hlength := le_yearLength year
      exact ih (year + 1) (by omega)

/-- The day is found in one of the months, as long as they have so many days. -/
theorem findMonth_mem {months : List Nat} (h : passed < (months.map (monthLength year)).sum) :
    let (month, day) := findMonth year months passed
    month ∈ months ∧ 1 ≤ day ∧ day ≤ monthLength year month := by
  induction months generalizing passed with
  | nil => exact absurd h (Nat.not_lt_zero passed)
  | cons month months ih =>
    rw [List.map_cons, List.sum_cons] at h
    unfold findMonth
    split_ifs with hmonth
    · exact ⟨List.mem_cons_self, Nat.succ_pos passed, hmonth⟩
    · have hrest : passed - monthLength year month < (months.map (monthLength year)).sum := by
        omega
      obtain ⟨hmem, hday⟩ := ih hrest
      exact ⟨List.mem_cons_of_mem month hmem, hday⟩

theorem sum_monthLength (year : Nat) :
    ((List.range' 1 12).map (monthLength year)).sum = yearLength year := by
  cases hleap : isLeapYear year <;> simp [List.range', monthLength, yearLength, hleap]

/-- The lengths of the months are those of the calendar's year at the same place in the cycle. -/
theorem monthLength_eq_daysIn {whole month : Nat} (hyear : whole % 400 = year % 400)
    (hmonth : 1 ≤ month ∧ month ≤ 12) : monthLength year month = Text.daysIn whole month := by
  have hleap : isLeapYear year ↔ whole % 4 = 0 ∧ (whole % 100 ≠ 0 ∨ whole % 400 = 0) := by
    simp only [isLeapYear, Bool.and_eq_true, Bool.or_eq_true, beq_iff_eq, bne_iff_ne]
    omega
  obtain ⟨hfirst, hlast⟩ := hmonth
  unfold Text.daysIn
  interval_cases month <;> simp [monthLength, hleap]

/-- A day has a date that is in the calendar. -/
theorem dateOf_valid (days : Int) {year : Nat} (hyear : (dateOf days).year = year) :
    1 ≤ (dateOf days).month ∧ (dateOf days).month ≤ 12 ∧ 1 ≤ (dateOf days).day ∧
      (dateOf days).day ≤ Text.daysIn year (dateOf days).month := by
  have hcycle : ((days + daysBeforeCount) % cycleDays).toNat < 365 * (cycleYears + 1) := by
    simp only [cycleDays, cycleYears]
    omega
  have hfound := findYear_lt 0 hcycle
  rw [← sum_monthLength] at hfound
  have hmonth := findMonth_mem hfound
  simp only [List.mem_range'_1] at hmonth
  obtain ⟨⟨hfirst, hlast⟩, hday, hdays⟩ := hmonth
  have hplace : year % 400 =
      (findYear cycleYears 0 ((days + daysBeforeCount) % cycleDays).toNat).1 % 400 := by
    have hsum : (cycleYears : Int) * ((days + daysBeforeCount) / cycleDays) +
        (findYear cycleYears 0 ((days + daysBeforeCount) % cycleDays).toNat).1 = year := hyear
    simp only [cycleYears] at hsum ⊢
    omega
  rw [monthLength_eq_daysIn hplace ⟨hfirst, by omega⟩] at hdays
  exact ⟨hfirst, Nat.le_of_lt_succ hlast, hday, hdays⟩

end Calendar

/-! ## Instants -/

namespace Instant

open Text

theorem padded_eq_digits {width number : Nat} (h : number < 10 ^ (width + 1)) :
    padded (width + 1) number = digits (width + 1) number := by
  have hzeros (width : Nat) : digits width 0 = List.replicate width '0' := by
    induction width with
    | zero => rfl
    | succ width ih =>
      rw [digits, Nat.zero_div, ih, List.replicate_succ']
      rfl
  induction width generalizing number with
  | zero =>
    have hdigit : number < 10 := h
    rw [padded, Nat.toDigits_of_lt_base hdigit, digits, digits, Nat.mod_eq_of_lt hdigit]
    rfl
  | succ width ih =>
    rw [digits]
    rcases Nat.lt_or_ge number 10 with hdigit | hmore
    · rw [Nat.div_eq_of_lt hdigit, Nat.mod_eq_of_lt hdigit, hzeros, padded,
        Nat.toDigits_of_lt_base hdigit]
      rfl
    · have hfront : number / 10 < 10 ^ (width + 1) := by
        rw [Nat.div_lt_iff_lt_mul (by decide), ← Nat.pow_succ]
        exact h
      rw [← ih hfront, padded, padded, Nat.toDigits_of_base_le (by decide) hmore]
      simp [List.leftpad]

theorem isDate_dateChars (days : Int)
    (hyear : 0 ≤ (Calendar.dateOf days).year ∧ (Calendar.dateOf days).year ≤ 9999) :
    IsDate (dateChars (Calendar.dateOf days)) := by
  obtain ⟨year, hnat⟩ := Int.eq_ofNat_of_zero_le hyear.1
  obtain ⟨hfirst, hlast, hday, hdays⟩ := Calendar.dateOf_valid days hnat
  have hbound : year < 10 ^ 4 := by
    have hsmall := hyear.2
    omega
  have hlength (month : Nat) : daysIn year month ≤ 31 := by
    unfold daysIn
    split_ifs <;> omega
  refine ⟨year, _, _, hbound, hfirst, hlast, hday, hdays, ?_⟩
  have hmonth : (Calendar.dateOf days).month < 10 ^ 2 := by omega
  have hnumber : (Calendar.dateOf days).day < 10 ^ 2 := by
    have hshort := hlength (Calendar.dateOf days).month
    omega
  rw [dateChars, yearChars, if_pos hyear, hnat, Int.toNat_natCast, padded_eq_digits hbound,
    padded_eq_digits hmonth, padded_eq_digits hnumber]

theorem isTime_timeChars {second : Nat} (h : second < secondsPerDay) :
    IsTime (timeChars second ++ ['.', '0', '0', '0']) := by
  have hday : second < 86400 := h
  have hfraction : IsFraction ['.', '0', '0', '0'] :=
    .inr ⟨['0', '0', '0'], by decide, List.all_eq_true.1 (by decide), rfl⟩
  have hhour : second / 3600 < 10 ^ 2 := by omega
  have hminute : second / 60 % 60 < 10 ^ 2 := by omega
  have hsecond : second % 60 < 10 ^ 2 := by omega
  refine ⟨second / 3600, second / 60 % 60, second % 60, _, by omega, by omega, by omega,
    hfraction, ?_⟩
  rw [timeChars, padded_eq_digits hhour, padded_eq_digits hminute, padded_eq_digits hsecond]

/-- In the years of four digits an instant is written as a timestamp. -/
theorem isTimestamp_text {instant : Int}
    (hyear : 0 ≤ (Calendar.dateOf (instant / secondsPerDay)).year ∧
      (Calendar.dateOf (instant / secondsPerDay)).year ≤ 9999) :
    IsTimestamp (text instant) := by
  have hsecond : (instant % secondsPerDay).toNat < secondsPerDay := by
    simp only [secondsPerDay]
    omega
  refine ⟨_, 'T', _, ['Z'], isDate_dateChars _ hyear, .inl rfl, isTime_timeChars hsecond,
    .inl rfl, ?_⟩
  rw [text, String.toList_ofList]
  simp

/-- The last second before a leap day. -/
example : text 951782399 = "2000-02-28T23:59:59.000Z" := by decide +kernel

end Instant

end WebScaffold

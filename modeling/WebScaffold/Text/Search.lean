/-!
# Finding and replacing

Fixed texts inside a text: taking one off the front or the end, cutting at its first occurrence,
and replacing every occurrence from left to right. An occurrence that was replaced is never looked
at again, and occurrences do not overlap.
-/

namespace WebScaffold.Text

/-- What follows `pat` if `cs` begins with it. -/
def afterPrefix? : List Char → List Char → Option (List Char)
  | [], cs => some cs
  | _ :: _, [] => none
  | p :: pat, c :: cs => if p = c then afterPrefix? pat cs else none

/-- What precedes `pat` if `cs` ends with it. -/
def beforeSuffix? (pat cs : List Char) : Option (List Char) :=
  (afterPrefix? pat.reverse cs.reverse).map List.reverse

/-- The text before the first occurrence of `pat` and the text after it. -/
def cutAt? (pat : List Char) : List Char → Option (List Char × List Char)
  | [] => (afterPrefix? pat []).map fun rest ↦ ([], rest)
  | c :: cs =>
    match afterPrefix? pat (c :: cs) with
    | some rest => some ([], rest)
    | none => (cutAt? pat cs).map fun (before, rest) ↦ (c :: before, rest)

/-- Replaces the occurrences of the nonempty text `pat` in what is left after the next `skip`
characters, which belong to an occurrence already replaced. -/
def replaceFrom (pat new : List Char) : Nat → List Char → List Char
  | _, [] => []
  | skip + 1, _ :: cs => replaceFrom pat new skip cs
  | 0, c :: cs =>
    match afterPrefix? pat (c :: cs) with
    | some _ => new ++ replaceFrom pat new (pat.length - 1) cs
    | none => c :: replaceFrom pat new 0 cs

/-- Replaces every occurrence of `pat` by `new`. The empty text occurs before each character and
at the end. -/
def replaceAll (pat new cs : List Char) : List Char :=
  if pat.isEmpty then cs.flatMap (fun c ↦ new ++ [c]) ++ new
  else replaceFrom pat new 0 cs

/-- The text before the last `c` and the text after it. -/
def cutAtLast? (c : Char) (cs : List Char) : Option (List Char × List Char) :=
  if c ∈ cs then
    some (((cs.reverse.dropWhile (· != c)).drop 1).reverse, (cs.reverse.takeWhile (· != c)).reverse)
  else none

theorem afterPrefix?_append (pat cs : List Char) : afterPrefix? pat (pat ++ cs) = some cs := by
  induction pat with
  | nil => rfl
  | cons p pat ih => simp [afterPrefix?, ih]

theorem eq_append_of_afterPrefix? {pat cs rest : List Char} (h : afterPrefix? pat cs = some rest) :
    cs = pat ++ rest := by
  induction pat generalizing cs with
  | nil => simpa [afterPrefix?] using h
  | cons p pat ih =>
    cases cs with
    | nil => simp [afterPrefix?] at h
    | cons c cs =>
      by_cases hp : p = c
      · subst hp
        simp only [afterPrefix?, ↓reduceIte] at h
        simp [ih h]
      · simp [afterPrefix?, hp] at h

end WebScaffold.Text

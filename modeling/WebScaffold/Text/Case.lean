import WebScaffold.Text.CaseTable

/-!
# Letter case

Lower case and upper case by Unicode's full mappings, read from the tables of `Text.CaseTable`. One
mapping looks at the neighbours: a capital sigma becomes the final small sigma where it ends a word.
-/

namespace WebScaffold.Text

def CaseRun.contains (run : CaseRun) (n : Nat) : Bool :=
  run.first ≤ n && n ≤ run.last && (n - run.first) % run.step == 0

/-- The code point that the runs assign to `c`, which is `c` itself outside all runs. -/
def mapByRuns (runs : List CaseRun) (c : Char) : Char :=
  match runs.find? (·.contains c.toNat) with
  | some run => Char.ofNat (c.toNat + run.offset).toNat
  | none => c

def inRanges (ranges : List (Nat × Nat)) (c : Char) : Bool :=
  ranges.any fun (first, last) ↦ first ≤ c.toNat && c.toNat ≤ last

/-- Whether a cased character comes first once case-ignorable characters are skipped. -/
def startsCased (cs : List Char) : Bool :=
  match cs.dropWhile (inRanges caseIgnorableRanges) with
  | c :: _ => inRanges casedRanges c
  | [] => false

/-- The lower-case form of a character apart from its neighbours. -/
def lowerChar (c : Char) : List Char :=
  if c.toNat < 128 then [c.toLower]
  else if c = 'İ' then ['i', '\u0307']
  else [mapByRuns lowerRuns c]

def upperChar (c : Char) : List Char :=
  if c.toNat < 128 then [c.toUpper]
  else
    match upperSequences.find? (·.1 == c.toNat) with
    | some (_, points) => points.map Char.ofNat
    | none => [mapByRuns upperRuns c]

/-- Lower case of what follows the characters `before`, which are listed backwards. -/
def lowerAfter (before : List Char) : List Char → List Char
  | [] => []
  | c :: cs =>
    let small :=
      if c = 'Σ' then if startsCased before && !startsCased cs then ['ς'] else ['σ']
      else lowerChar c
    small ++ lowerAfter (c :: before) cs

def lower (s : String) : String :=
  String.ofList (lowerAfter [] s.toList)

/-- Upper case for the first character only. -/
def capitalize (s : String) : String :=
  match s.toList with
  | [] => s
  | c :: cs => String.ofList (upperChar c ++ cs)

end WebScaffold.Text

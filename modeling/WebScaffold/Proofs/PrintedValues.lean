import WebScaffold.Proofs.Written

/-!
# Printed values

Both printers write a value in one of its texts, without a comma too many. They differ in the blanks
between the parts only, and the strict reader gives the value back from either.
-/

namespace WebScaffold.Json

/-! ## Layouts -/

def printedMember (inner : Json → List Char) (colon : List Char) (member : String × Json) :
    List Char :=
  printString member.1 ++ ':' :: (colon ++ inner member.2)

/-- A value whose parts are printed by `inner`, each behind a gap. -/
def laidOut (inner : Json → List Char) (gap colon closing : List Char) : Json → List Char
  | array (item :: items) =>
    '[' :: (gap ++ (inner item ++ (items.flatMap (fun item ↦ ',' :: (gap ++ inner item)) ++
      closing)) ++ [']'])
  | object (member :: members) =>
    '{' :: (gap ++ (printedMember inner colon member ++
      (members.flatMap (fun member ↦ ',' :: (gap ++ printedMember inner colon member)) ++
        closing)) ++ ['}'])
  | scalar => printScalar scalar

theorem printChars_eq_laidOut (v : Json) : printChars v = laidOut printChars [] [] [] v := by
  have hitems (items : List Json) :
      printItems items = items.flatMap fun item ↦ ',' :: ([] ++ printChars item) := by
    induction items with
    | nil => rfl
    | cons item items ih => simp [printItems, ih]
  have hmembers (members : List (String × Json)) : printMembers members =
      members.flatMap fun member ↦ ',' :: ([] ++ printedMember printChars [] member) := by
    induction members with
    | nil => rfl
    | cons member members ih => simp [printMembers, printedMember, ih]
  cases v with
  | array items => cases items <;> simp [printChars, laidOut, hitems]
  | object members => cases members <;> simp [printChars, laidOut, printedMember, hmembers]
  | _ => rfl

theorem prettyChars_eq_laidOut (level : Nat) (v : Json) : prettyChars level v =
    laidOut (prettyChars (level + 1)) (lineBreak (level + 1)) [' '] (lineBreak level) v := by
  have hitems (items : List Json) : prettyItems (level + 1) items =
      items.flatMap fun item ↦ ',' :: (lineBreak (level + 1) ++ prettyChars (level + 1) item) := by
    induction items with
    | nil => rfl
    | cons item items ih => simp [prettyItems, ih]
  have hmembers (members : List (String × Json)) : prettyMembers (level + 1) members =
      members.flatMap fun member ↦ ',' ::
        (lineBreak (level + 1) ++ printedMember (prettyChars (level + 1)) [' '] member) := by
    induction members with
    | nil => rfl
    | cons member members ih => simp [prettyMembers, printedMember, ih]
  cases v with
  | array items => cases items <;> simp [prettyChars, laidOut, hitems]
  | object members => cases members <;> simp [prettyChars, laidOut, printedMember, hmembers]
  | _ => rfl

theorem isJsonBlank_of_mem_lineBreak (level : Nat) : ∀ b ∈ lineBreak level, isJsonBlank b := by
  intro b hb
  rcases List.mem_cons.1 hb with rfl | hb
  · rfl
  · rw [List.eq_of_mem_replicate hb]
    rfl

/-! ## Printed parts -/

section

variable {α : Type} {part : α → Nat → List Char → Prop} {print : α → List Char}
variable {gap closing : List Char} {xs : List α} {n : Nat} {text : List Char}

/-- Whatever is written in some way can be printed. -/
def Prints (part : α → Nat → List Char → Prop) (print : α → List Char) : Prop :=
  ∀ ⦃x n text⦄, part x n text → part x 0 (print x)

theorem More.printed (hgap : ∀ b ∈ gap, isJsonBlank b) (hprint : Prints part print)
    (h : More part xs n text) : More part xs 0 (xs.flatMap fun x ↦ ',' :: (gap ++ print x)) := by
  induction h with
  | nil => exact .nil
  | @cons x xs _ _ _ _ _ _ _ _ hx _ ih =>
    have hmore : More part (x :: xs) 0
        ([] ++ ',' :: (gap ++ (print x ++ xs.flatMap fun x ↦ ',' :: (gap ++ print x)))) :=
      .cons (by simp) hgap (hprint hx) ih
    simpa using hmore

theorem Parts.printed (hgap : ∀ b ∈ gap, isJsonBlank b) (hclosing : ∀ b ∈ closing, isJsonBlank b)
    (hprint : Prints part print) {x : α} (h : Parts part (x :: xs) n text) :
    Parts part (x :: xs) 0
      (gap ++ (print x ++ (xs.flatMap (fun x ↦ ',' :: (gap ++ print x)) ++ closing))) := by
  cases h with
  | filled _ hx hxs _ =>
    exact .filled hgap (hprint hx) (hxs.printed hgap hprint) (.blanks hclosing)

end

/-! ## Printed values -/

section

variable {inner : Json → List Char} {gap colon closing : List Char}
variable {v : Json} {n : Nat} {text : List Char}

theorem prints_writtenMember {value : Json → Nat → List Char → Prop}
    (hcolon : ∀ b ∈ colon, isJsonBlank b) (hvalue : Prints value inner) :
    Prints (WrittenMember spelling value) (printedMember inner colon) := by
  intro member n text h
  cases h with
  | @mk key v n _ _ _ _ _ hv =>
    have hshape : printedMember inner colon (key, v) =
        '"' :: (spelling key ++ '"' :: ([] ++ ':' :: (colon ++ inner v))) := by
      simp [printedMember, printString, spelling]
    rw [hshape]
    exact .mk (by simp) hcolon (hvalue hv)

theorem prints_laidOut {part? : Option (Json → Nat → List Char → Prop)}
    (hgap : ∀ b ∈ gap, isJsonBlank b) (hcolon : ∀ b ∈ colon, isJsonBlank b)
    (hclosing : ∀ b ∈ closing, isJsonBlank b) (hpart : ∀ part ∈ part?, Prints part inner) :
    Prints (WrittenWith spelling part?) (laidOut inner gap colon closing) := by
  intro v n text h
  have hnone : ∀ b ∈ ([] : List Char), isJsonBlank b := by simp
  cases h with
  | null => exact .null
  | yes => exact .yes
  | no => exact .no
  | number hread => exact .number hread
  | string s => exact .string s
  | @array _ items _ _ hsome hinner =>
    cases items with
    | nil => exact .array hsome (.empty hnone)
    | cons item items => exact .array hsome (hinner.printed hgap hclosing (hpart _ hsome))
  | @object _ members _ _ hsome hincreasing hinner =>
    cases members with
    | nil => exact .object hsome hincreasing (.empty hnone)
    | cons member members =>
      exact .object hsome hincreasing
        (hinner.printed hgap hclosing (prints_writtenMember hcolon (hpart _ hsome)))

theorem prints_printChars (depth : Nat) : Prints (Written spelling depth) printChars := by
  have hnone : ∀ b ∈ ([] : List Char), isJsonBlank b := by simp
  induction depth with
  | zero =>
    rw [funext printChars_eq_laidOut]
    exact prints_laidOut hnone hnone hnone (by simp)
  | succ depth ih =>
    rw [funext printChars_eq_laidOut]
    refine prints_laidOut hnone hnone hnone fun part hpart ↦ ?_
    obtain rfl := Option.some.inj hpart
    exact ih

theorem prints_prettyChars (depth level : Nat) :
    Prints (Written spelling depth) (prettyChars level) := by
  have hspace : ∀ b ∈ [' '], isJsonBlank b := by decide
  induction depth generalizing level with
  | zero =>
    rw [funext (prettyChars_eq_laidOut level)]
    exact prints_laidOut (isJsonBlank_of_mem_lineBreak _) hspace (isJsonBlank_of_mem_lineBreak _)
      (by simp)
  | succ depth ih =>
    rw [funext (prettyChars_eq_laidOut level)]
    refine prints_laidOut (isJsonBlank_of_mem_lineBreak _) hspace (isJsonBlank_of_mem_lineBreak _)
      fun part hpart ↦ ?_
    obtain rfl := Option.some.inj hpart
    exact ih (level + 1)

/-- A value that has a text at all is printed in two of its texts, and read back from both. -/
theorem Written.readAll_printed (h : Written spelling nestingLimit v n text) :
    readAll v.print.toList = .ok v ∧ readAll v.pretty.toList = .ok v := by
  rw [print, pretty, String.toList_ofList, String.toList_ofList]
  exact ⟨(prints_printChars _ h).readAll_eq_ok_iff.2 ⟨rfl, rfl⟩,
    (prints_prettyChars _ 0 h).readAll_eq_ok_iff.2 ⟨rfl, rfl⟩⟩

end

end WebScaffold.Json

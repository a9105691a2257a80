import Mathlib.Logic.Function.Basic
import Mathlib.Tactic.Common
import WebScaffold.File.Tree
import WebScaffold.Proofs.Table

/-!
# What stands where in a tree

A tree is looked at place by place: at each there is nothing, a file with its content, or a
directory. Putting a file or a new directory where no directory stands changes that one place, in
any tree, as long as the place lies in a directory.
-/

namespace WebScaffold.FileTree

/-- What can be seen at a place without looking into it. -/
inductive Node where
  | file (bytes : List UInt8)
  | directory
deriving DecidableEq, Repr

def node : FileTree → Node
  | file bytes => .file bytes
  | directory _ => .directory

def node? (tree : FileTree) (place : List String) : Option Node :=
  (tree.at? place).map node

variable {tree new old inner : FileTree} {name : String} {here : List String}
variable {entries : List (String × FileTree)}

@[simp]
theorem node?_nil (tree : FileTree) : tree.node? [] = some tree.node := rfl

theorem node?_cons (tree : FileTree) (name : String) (place : List String) :
    tree.node? (name :: place) = (tree.entry? name).bind (node? · place) := by
  rw [node?, at?]
  cases tree.entry? name <;> rfl

theorem at?_append (front back : List String) (tree : FileTree) :
    tree.at? (front ++ back) = (tree.at? front).bind (at? back) := by
  induction front generalizing tree with
  | nil => rfl
  | cons first front ih =>
    rw [List.cons_append, at?, at?, Option.bind_assoc]
    exact Option.bind_congr fun inner _ ↦ ih inner

theorem node?_concat (hhere : tree.at? here = some (directory entries)) :
    tree.node? (here ++ [name]) = (entries.lookup name).map node := by
  rw [node?, at?_append, hhere, Option.bind_some, at?, entry?]
  cases entries.lookup name <;> rfl

/-- A tree without places inside. -/
def IsLeaf (tree : FileTree) : Prop :=
  ∀ name, tree.entry? name = none

theorem isLeaf_file (bytes : List UInt8) : (file bytes).IsLeaf :=
  fun _ ↦ rfl

theorem isLeaf_empty : empty.IsLeaf :=
  fun _ ↦ rfl

theorem isLeaf_of_isDirectory_eq_false (h : tree.isDirectory = false) : tree.IsLeaf := by
  cases tree with
  | file bytes => exact isLeaf_file bytes
  | directory entries => simp [isDirectory] at h

theorem IsLeaf.node?_eq_none (h : tree.IsLeaf) {place : List String} (hplace : place ≠ []) :
    tree.node? place = none := by
  cases place with
  | nil => exact absurd rfl hplace
  | cons name place => rw [node?_cons, h name, Option.bind_none]

theorem entry?_setEntry (name other : String) (new : FileTree)
    (entries : List (String × FileTree)) :
    entry? other ((directory entries).setEntry name new) =
      if other = name then some new else entry? other (directory entries) :=
  Table.lookup_insert name other new entries

@[simp]
theorem node_setEntry (tree : FileTree) (name : String) (new : FileTree) :
    (tree.setEntry name new).node = tree.node := by
  cases tree <;> rfl

theorem put_cons_of_ne_nil {place : List String} (hplace : place ≠ [])
    (hentry : tree.entry? name = some inner) (new : FileTree) :
    put new (name :: place) tree = tree.setEntry name (put new place inner) := by
  cases place with
  | nil => exact absurd rfl hplace
  | cons next place => simp [put, hentry]

theorem remove_cons_of_ne_nil {place : List String} (hplace : place ≠ [])
    (hentry : tree.entry? name = some inner) :
    remove (name :: place) tree = tree.setEntry name (remove place inner) := by
  cases place with
  | nil => exact absurd rfl hplace
  | cons next place => simp [remove, hentry]

theorem entry?_removeEntry (name other : String) (entries : List (String × FileTree)) :
    entry? other ((directory entries).removeEntry name) =
      if other = name then none else entry? other (directory entries) := by
  rw [removeEntry, entry?, entry?]
  induction entries with
  | nil => simp
  | cons entry entries ih =>
    by_cases hentry : entry.1 = name
    · rw [List.filter_cons_of_neg (by simpa using hentry), ih]
      split_ifs with hother
      · rfl
      · have hne : (other == entry.1) = false := by simpa [hentry] using hother
        rw [List.lookup_cons, hne]
    · rw [List.filter_cons_of_pos (by simpa using hentry), List.lookup_cons, List.lookup_cons]
      cases hother : other == entry.1 with
      | false => exact ih
      | true =>
        have hne : other ≠ name := by
          rwa [beq_iff_eq.1 hother]
        rw [if_neg hne]

/-- What changes at one place of a directory changes at one place below it. -/
theorem node?_setEntry {place : List String} {node : Option Node}
    (hentry : entry? name (directory entries) = some inner)
    (h : new.node? = Function.update inner.node? place node) :
    ((directory entries).setEntry name new).node? =
      Function.update (directory entries).node? (name :: place) node := by
  funext other
  cases other with
  | nil => simp
  | cons head rest =>
    rw [node?_cons, entry?_setEntry]
    by_cases hhead : head = name
    · subst hhead
      rw [if_pos rfl, Option.bind_some, h]
      by_cases hrest : rest = place
      · simp [hrest]
      · rw [Function.update_of_ne hrest, Function.update_of_ne (by simpa using hrest), node?_cons,
          hentry, Option.bind_some]
    · rw [if_neg hhead, Function.update_of_ne (by simp [hhead]), node?_cons]

/-- The entry of a leaf, or of nothing, is all that is at its place and below. -/
theorem node?_of_entry {changed : FileTree} {found? : Option FileTree}
    (hleaf : ∀ found, found? = some found → found.IsLeaf)
    (hold : ∀ old, entries.lookup name = some old → old.IsLeaf)
    (hroot : changed.node = .directory)
    (h : ∀ other, changed.entry? other =
      if other = name then found? else entry? other (directory entries)) :
    changed.node? = Function.update (directory entries).node? [name] (found?.map node) := by
  have hbelow (found? : Option FileTree) (hleaf : ∀ found, found? = some found → found.IsLeaf)
      {rest : List String} (hrest : rest ≠ []) : found?.bind (node? · rest) = none := by
    cases found? with
    | none => rfl
    | some found => exact (hleaf found rfl).node?_eq_none hrest
  funext place
  cases place with
  | nil =>
    rw [Function.update_of_ne (by simp), node?_nil, node?_nil, hroot]
    rfl
  | cons head rest =>
    rw [node?_cons, h]
    by_cases hhead : head = name
    · subst hhead
      rw [if_pos rfl]
      by_cases hrest : rest = []
      · subst hrest
        rw [Function.update_self]
        cases found? <;> rfl
      · rw [Function.update_of_ne (by simpa using hrest), hbelow found? hleaf hrest, node?_cons,
          entry?, hbelow _ hold hrest]
    · rw [if_neg hhead, Function.update_of_ne (by simp [hhead]), node?_cons]

/-- The way to a place leads through a directory. -/
theorem exists_directory_of_at?_cons {first : String}
    (hhere : tree.at? (first :: here) = some (directory entries)) :
    ∃ above inner, tree = directory above ∧ tree.entry? first = some inner ∧
      inner.at? here = some (directory entries) := by
  obtain ⟨inner, hentry, hinner⟩ := Option.bind_eq_some_iff.1 hhere
  cases tree with
  | file bytes => cases hentry
  | directory above => exact ⟨above, inner, rfl, hentry, hinner⟩

/-- A leaf that takes the place of a leaf, or of nothing, is all that changes. -/
theorem node?_put (hnew : new.IsLeaf) (hhere : tree.at? here = some (directory entries))
    (hold : ∀ old, entries.lookup name = some old → old.IsLeaf) :
    (put new (here ++ [name]) tree).node? =
      Function.update tree.node? (here ++ [name]) (some new.node) := by
  induction here generalizing tree with
  | nil =>
    obtain rfl : tree = directory entries := Option.some.inj hhere
    have hentry (other : String) : entry? other ((directory entries).setEntry name new) =
        if other = name then some new else entry? other (directory entries) :=
      entry?_setEntry name other new entries
    exact node?_of_entry (by simpa using hnew) hold rfl hentry
  | cons first here ih =>
    obtain ⟨above, inner, rfl, hentry, hinner⟩ := exists_directory_of_at?_cons hhere
    rw [List.cons_append, put_cons_of_ne_nil (by simp) hentry]
    exact node?_setEntry hentry (ih hinner)

/-- A leaf that is taken out is all that changes. -/
theorem node?_remove (hhere : tree.at? here = some (directory entries))
    (hold : ∀ old, entries.lookup name = some old → old.IsLeaf) :
    (remove (here ++ [name]) tree).node? = Function.update tree.node? (here ++ [name]) none := by
  induction here generalizing tree with
  | nil =>
    obtain rfl : tree = directory entries := Option.some.inj hhere
    have hentry (other : String) : entry? other ((directory entries).removeEntry name) =
        if other = name then none else entry? other (directory entries) :=
      entry?_removeEntry name other entries
    exact node?_of_entry (by simp) hold rfl hentry
  | cons first here ih =>
    obtain ⟨above, inner, rfl, hentry, hinner⟩ := exists_directory_of_at?_cons hhere
    rw [List.cons_append, remove_cons_of_ne_nil (by simp) hentry]
    exact node?_setEntry hentry (ih hinner)

end WebScaffold.FileTree

import WebScaffold.Yaml.Token

/-!
# Nodes

The nodes of a Yaml document. An alias stands for the node that carries its anchor; anchors are
numbered, and of several nodes with the same number the last one counts.
-/

namespace WebScaffold.Yaml

/-- What may be written in front of a node. -/
structure Properties where
  anchor : Option Nat := none
  tag : Option String := none
deriving DecidableEq, Repr

inductive Node where
  | scalar (properties : Properties) (text : String) (style : ScalarStyle)
  | sequence (properties : Properties) (items : List Node)
  | mapping (properties : Properties) (entries : List (Node × Node))
  | reference (anchor : Nat)
deriving Repr, Inhabited

namespace Node

/-- A node that is not written. -/
def absent : Node :=
  scalar {} "" .plain

def properties : Node → Properties
  | scalar properties _ _ => properties
  | sequence properties _ => properties
  | mapping properties _ => properties
  | reference _ => {}

mutual

/-- All nodes of a document, each before its parts. -/
def nodes : Node → List Node
  | scalar properties text style => [scalar properties text style]
  | reference anchor => [reference anchor]
  | sequence properties items => sequence properties items :: nodesOf items
  | mapping properties entries => mapping properties entries :: nodesOfEntries entries

def nodesOf : List Node → List Node
  | [] => []
  | item :: items => nodes item ++ nodesOf items

def nodesOfEntries : List (Node × Node) → List Node
  | [] => []
  | (key, value) :: entries => nodes key ++ nodes value ++ nodesOfEntries entries

end

/-- How many marks a node makes in a document: collections are opened and closed. -/
def marks : Node → Nat
  | scalar _ _ _ => 1
  | reference _ => 1
  | sequence _ _ => 2
  | mapping _ _ => 2

end Node

end WebScaffold.Yaml

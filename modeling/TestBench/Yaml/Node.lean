import TestBench.Yaml.Token

/-!
# The tree of a document

A document is a tree of scalars, sequences and mappings. A node may be anchored, so that it can be
repeated, and tagged. Anchors are numbered here, and an alias holds the number of its anchor. Two
anchors may share a number; then the one that starts later in the document has it.
-/

set_option autoImplicit false

namespace TestBench.Yaml

/-- What is said about a node before its content. -/
structure Properties where
  /-- The number of its anchor. -/
  anchor : Option Nat
  /-- Its tag, with the meaning of the handle put in. -/
  tag : Option (List UInt8)
deriving DecidableEq, Repr

/-- A node of a document. -/
inductive Node where
  /-- The node with an anchor, once more. -/
  | reference (anchor : Nat)
  /-- A text. -/
  | scalar (properties : Properties) (text : String) (style : Style)
  /-- A list of nodes. -/
  | sequence (properties : Properties) (items : List Node)
  /-- Nodes by key. -/
  | mapping (properties : Properties) (entries : List (Node × Node))

namespace Node

/-- The node that nothing is written for. -/
def blank : Node := .scalar ⟨none, none⟩ "" .plain

/-- What is said about the node. An alias has nothing of its own. -/
def properties : Node → Properties
  | .reference _ => ⟨none, none⟩
  | .scalar p _ _ => p
  | .sequence p _ => p
  | .mapping p _ => p

mutual

/-- How many events the node takes: one for a scalar or alias, and two besides the content for a
collection. -/
def events : Node → Nat
  | .reference _ => 1
  | .scalar _ _ _ => 1
  | .sequence _ items => eventsOfList items + 2
  | .mapping _ entries => eventsOfEntries entries + 2

/-- How many events some nodes take. -/
def eventsOfList : List Node → Nat
  | [] => 0
  | n :: rest => events n + eventsOfList rest

/-- How many events some entries take. -/
def eventsOfEntries : List (Node × Node) → Nat
  | [] => 0
  | (k, v) :: rest => events k + events v + eventsOfEntries rest

end

/-- The node itself under the number of its anchor, if it has one. -/
def underAnchor (n : Node) : List (Nat × Node) :=
  match n.properties.anchor with
  | some id => [(id, n)]
  | none => []

mutual

/-- The anchored nodes in the order in which they start. -/
def anchored : Node → List (Nat × Node)
  | .reference _ => []
  | .scalar p text style => underAnchor (.scalar p text style)
  | .sequence p items => underAnchor (.sequence p items) ++ anchoredInList items
  | .mapping p entries => underAnchor (.mapping p entries) ++ anchoredInEntries entries

/-- The anchored nodes among some nodes. -/
def anchoredInList : List Node → List (Nat × Node)
  | [] => []
  | n :: rest => anchored n ++ anchoredInList rest

/-- The anchored nodes among some entries. -/
def anchoredInEntries : List (Node × Node) → List (Nat × Node)
  | [] => []
  | (k, v) :: rest => anchored k ++ anchored v ++ anchoredInEntries rest

end

end Node

end TestBench.Yaml

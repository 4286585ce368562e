/-!
# YAML

YAML documents as data. Scalars keep whether they were written without quotes, because only those
can mean anything else than their text.
-/

namespace TargetingRules

/-- A YAML node. -/
inductive Yaml where
  /-- A text and whether it is plain, that is, written without quotes. -/
  | scalar (plain : Bool) (text : String)
  /-- A sequence of nodes. -/
  | sequence (items : List Yaml)
  /-- A mapping with its keys and values, in order. -/
  | mapping (entries : List (Yaml × Yaml))
  deriving Inhabited

namespace Yaml

/-- The node that nothing is written for. -/
def empty : Yaml :=
  .scalar true ""

/-- Whether a node is a plain scalar. -/
def isPlain : Yaml → Bool
  | .scalar plain _ => plain
  | _ => false

mutual

/-- How deep sequences and mappings are nested. -/
def nesting : Yaml → Nat
  | .scalar .. => 0
  | .sequence items => itemsNesting items + 1
  | .mapping entries => entriesNesting entries + 1

/-- How deep the items of a sequence are nested. -/
def itemsNesting : List Yaml → Nat
  | [] => 0
  | item :: items => max (nesting item) (itemsNesting items)

/-- How deep the keys and values of a mapping are nested. -/
def entriesNesting : List (Yaml × Yaml) → Nat
  | [] => 0
  | (key, item) :: entries => max (max (nesting key) (nesting item)) (entriesNesting entries)

end

end TargetingRules.Yaml

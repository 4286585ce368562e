import TargetingRules.Data.Yaml.Flow

/-!
# YAML documents

Block sequences and mappings, which are nested by indentation, and whole documents. Anchors, tags,
block scalars, directives and keys with a question mark are not read.
-/

namespace TargetingRules

open Data

namespace YamlReader

/-- Where a node may stand. -/
structure Slot where
  /-- The least column of the node. -/
  limit : Nat
  /-- Whether a sequence may also stand one column further to the left. -/
  indentless : Bool
  /-- Whether a block collection may start on the line of the mark before it. -/
  compact : Bool

/-- Whether an item of a block sequence starts here. -/
def startsItem : List Placed → Bool
  | [] => false
  | p :: ps => p.char == '-' && atVoid ps

/-- Whether the next token is the first one of its line and stands in a certain column. -/
def startsAt (column : Nat) (ps : List Placed) : Bool :=
  ps.head?.any fun p => p.fresh && p.column == column

namespace Slot

/-- Whether a node stands in a slot. -/
def isFilled (slot : Slot) : List Placed → Bool
  | [] => false
  | p :: ps =>
    slot.limit ≤ p.column ||
      (slot.indentless && p.column + 1 == slot.limit && startsItem (p :: ps))

/-- Read a mark and the node in the slot after it, which may be empty. -/
def read (slot : Slot) (node : Slot → Reader Placed Yaml) : Reader Placed Yaml
  | [] => none
  | _ :: ps =>
    let next := if slot.compact then skipIndented ps else skipOn ps
    have le : next.length ≤ ps.length := by
      unfold next
      split
      · exact length_skipIndented_le ps
      · exact length_skipOn_le ps
    if slot.isFilled next then (node slot next).map (·.later (Nat.le_succ_of_le le))
    else some ⟨.empty, ps, length_lt_cons _ ps⟩

end Slot

/-- Read something, and read it again as long as the next token is one to go on with. -/
def series {α : Type} (one : Reader Placed α) (again : List Placed → Bool) (ps : List Placed) :
    Option (Found (List α) ps) := do
  let first ← one ps
  have fewer := Nat.lt_of_le_of_lt (length_skipOn_le first.rest) first.shorter
  if again (skipOn first.rest) then
    let more ← series one again (skipOn first.rest)
    return ⟨first.value :: more.value, more.rest, Nat.lt_trans more.shorter fewer⟩
  else return first.map ([·])
termination_by ps.length

/-- Read an entry of a block mapping. -/
def blockEntry (key value : Reader Placed Yaml) : Reader Placed (Yaml × Yaml)
  | [] => none
  | p :: ps => do
    let key ← key (p :: ps)
    let colon := skipOn key.rest
    if isKeyColon false p colon then
      let value ← value colon
      return ⟨(key.value, value.value), value.rest,
        Nat.lt_trans (Nat.lt_of_lt_of_le value.shorter (length_skipOn_le _)) key.shorter⟩
    else none

/-- Read a node in a slot, in which collections are nested so deep at most. -/
def node : (depth : Nat) → Slot → Reader Placed Yaml
  | 0, slot => scalar false slot.limit
  | depth + 1, slot => fun
    | [] => none
    | p :: ps => do
      let mayOpen := p.fresh || slot.compact
      let item := Slot.read ⟨p.column + 1, false, true⟩ (node depth)
      let value := Slot.read ⟨p.column + 1, true, false⟩ (node depth)
      if mayOpen && startsItem (p :: ps) then
        let found ← series item (fun ps => startsAt p.column ps && startsItem ps) (p :: ps)
        return found.map .sequence
      else
        let found ← inline slot.limit (depth + 1) false (p :: ps)
        if mayOpen && isKeyColon false p (skipOn found.rest) then
          let key := inline (p.column + 1) depth false
          let found ← series (blockEntry key value) (startsAt p.column) (p :: ps)
          return found.map .mapping
        else return found

/-- Whether only comments and marks for the end of a document are left. -/
def isDone (ps : List Placed) : Bool :=
  match found : skipOn ps with
  | [] => true
  | p :: rest =>
    have fewer : rest.length - 2 < ps.length := by
      have := length_skipOn_le ps
      rw [found, List.length_cons] at this
      omega
    startsMark '.' (p :: rest) && isDone (rest.drop 2)
termination_by ps.length

/-- The only document of a text. It cannot be nested deeper than the text is long. -/
def document? (ps : List Placed) : Option Yaml := do
  let start := skipIndented ps
  let marked := startsMark '-' start
  let body := if marked then skipOn (start.drop 3) else start
  if !isDone (afterContent body) then none
  else if !marked && startsMark '.' start then none
  else
    let inside := content body
    if inside.isEmpty then return .empty
    let found ← node inside.length ⟨0, false, false⟩ inside
    if (skipOn found.rest).isEmpty then return found.value else none

end YamlReader

/-- The node that a text is. -/
def Yaml.parse? (source : String) : Option Yaml :=
  (YamlReader.placed? source.toList).bind YamlReader.document?

end TargetingRules

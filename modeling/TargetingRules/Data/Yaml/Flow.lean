import TargetingRules.Data.Yaml.Scalar

/-!
# YAML flow collections

Sequences and mappings in brackets. Their layout is free, up to a key and its colon, which stand on
one line.
-/

namespace TargetingRules.YamlReader

open Data

/-- How many characters a key may have in front of its colon. -/
def maxKeyLength : Nat := 1024

/-- Whether a key that starts at `start` ends here with a colon. The colon is followed by a blank
unless it may be `adjacent` to a value. -/
def isKeyColon (adjacent : Bool) (start : Placed) : List Placed → Bool
  | [] => false
  | p :: ps =>
    p.char == ':' && p.line == start.line && p.column ≤ start.column + maxKeyLength &&
      (adjacent || atVoid ps)

/-- Read a mark of a flow collection. -/
def flowMark (wanted : Char) : Reader Placed Unit := fun ps =>
  match found : skipFlow ps with
  | p :: rest =>
    if p.char = wanted then
      some ⟨(), rest, by
        have := length_skipFlow_le ps
        rw [found, List.length_cons] at this
        omega⟩
    else none
  | [] => none

/-- Read the items of a flow collection through its closing mark. A comma may follow the last of
them. -/
def flowItems {α : Type} (item : Reader Placed α) (close : Char) (ps : List Placed) :
    Option (Found (List α) ps) :=
  match flowMark close ps with
  | some closing => some (closing.map fun _ => [])
  | none => do
    let first ← item ps
    match flowMark ',' first.rest with
    | some comma =>
      have fewer := Nat.lt_trans comma.shorter first.shorter
      let more ← flowItems item close comma.rest
      return ⟨first.value :: more.value, more.rest, Nat.lt_trans more.shorter fewer⟩
    | none =>
      let closing ← flowMark close first.rest
      return ⟨[first.value], closing.rest, Nat.lt_trans closing.shorter first.shorter⟩
termination_by ps.length

/-- Read a colon and the node after it, which may be left out at the end of an item. -/
def flowValue (node : Reader Placed Yaml) : Reader Placed Yaml
  | [] => none
  | _ :: ps =>
    if (skipFlow ps).head?.any fun p => p.char == ',' || p.char == ']' || p.char == '\x7d' then
      some ⟨.empty, ps, length_lt_cons _ ps⟩
    else (node ps).map (·.later (length_le_cons _ ps))

/-- Read a node of a flow collection and, if it is a key, its value. -/
def flowPair (node : Reader Placed Yaml) : Reader Placed (Yaml × Option Yaml) := fun ps => do
  let key ← node ps
  let colon := skipFlow key.rest
  if (skipFlow ps).head?.any fun start => isKeyColon (!key.value.isPlain) start colon then
    let value ← flowValue node colon
    return ⟨(key.value, some value.value), value.rest,
      Nat.lt_trans (Nat.lt_of_lt_of_le value.shorter (length_skipFlow_le _)) key.shorter⟩
  else return ⟨(key.value, none), key.rest, key.shorter⟩

/-- An item of a flow sequence. A key with a value is a mapping of its own. -/
def sequenceItem : Yaml × Option Yaml → Yaml
  | (node, none) => node
  | (key, some value) => .mapping [(key, value)]

/-- An entry of a flow mapping, where the value may be missing. -/
def mappingEntry : Yaml × Option Yaml → Yaml × Yaml
  | (key, value?) => (key, value?.getD .empty)

/-- Read a flow collection, given a reader for what is inside, or else a scalar. -/
def collection (inner scalar : Reader Placed Yaml) : Reader Placed Yaml
  | [] => none
  | p :: ps =>
    if p.char == '[' then
      (flowItems (flowPair inner) ']' ps).map fun found =>
        (found.map fun items => .sequence (items.map sequenceItem)).later (length_le_cons _ ps)
    else if p.char == '\x7b' then
      (flowItems (flowPair inner) '\x7d' ps).map fun found =>
        (found.map fun items => .mapping (items.map mappingEntry)).later (length_le_cons _ ps)
    else scalar (p :: ps)

/-- Read a scalar or a flow collection in which collections are nested so deep at most. -/
def inline (limit : Nat) : (depth : Nat) → (flow : Bool) → Reader Placed Yaml
  | 0, flow => scalar flow limit
  | depth + 1, flow => fun ps =>
    collection (afterSkip skipFlow length_skipFlow_le (inline limit depth true)) (scalar flow limit)
      ps

end TargetingRules.YamlReader

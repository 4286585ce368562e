/-!
# Spans

Where a token or a node stands in the text of its rule, in bytes of UTF-8.
-/

namespace TargetingRules

/-- A range of byte positions, the end excluded. -/
structure Span where
  /-- The position of the first byte. -/
  start : Nat
  /-- The position after the last byte. -/
  stop : Nat
  deriving DecidableEq, Repr, Inhabited

namespace Span

/-- The smallest span that covers two spans. -/
def join (s t : Span) : Span :=
  ⟨min s.start t.start, max s.stop t.stop⟩

/-- The smallest span that covers all spans of a list, and an empty one if there are none. -/
def cover : List Span → Span
  | [] => ⟨0, 0⟩
  | s :: rest => rest.foldl join s

end Span

end TargetingRules

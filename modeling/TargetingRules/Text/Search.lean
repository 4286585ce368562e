/-!
# Searching in texts

Where one text occurs in another, counted in characters, and the test for its end.
-/

namespace TargetingRules.Text

/-- The first position at which a text occurs in another. -/
def indexOf? (needle : List Char) : (haystack : List Char) → Option Nat
  | [] => if needle.isEmpty then some 0 else none
  | c :: cs =>
    if needle.isPrefixOf (c :: cs) then some 0 else (indexOf? needle cs).map (· + 1)

/-- Whether a text occurs in another. -/
def occursIn (needle haystack : List Char) : Bool :=
  (indexOf? needle haystack).isSome

/-- Texts joined with a separator between them. -/
def join (separator : List Char) (parts : List (List Char)) : List Char :=
  separator.intercalate parts

end TargetingRules.Text

/-!
# Readers

What the readers of the data formats share. A reader takes something from the front of a list and
hands back the rest with a proof that it is shorter, so that every loop over readers ends.
-/

namespace TargetingRules.Data

theorem length_lt_cons {τ : Type} (t : τ) (ts : List τ) : ts.length < (t :: ts).length :=
  Nat.lt_succ_self ts.length

theorem length_le_cons {τ : Type} (t : τ) (ts : List τ) : ts.length ≤ (t :: ts).length :=
  Nat.le_succ ts.length

/-- Something read from the front of a list. -/
structure Found {τ : Type} (α : Type) (ts : List τ) where
  /-- What was read. -/
  value : α
  /-- What comes after it. -/
  rest : List τ
  /-- At least one element was read. -/
  shorter : rest.length < ts.length

/-- A way to read something from the front of a list. -/
abbrev Reader (τ α : Type) := (ts : List τ) → Option (Found α ts)

namespace Found

variable {τ α β : Type}

/-- The same thing found in a list with more in front. -/
def later {ts us : List τ} (found : Found α ts) (le : ts.length ≤ us.length) : Found α us :=
  ⟨found.value, found.rest, Nat.lt_of_lt_of_le found.shorter le⟩

/-- Something else made of what was found. -/
def map {ts : List τ} (f : α → β) (found : Found α ts) : Found β ts :=
  ⟨f found.value, found.rest, found.shorter⟩

end Found

/-- The value of a hexadecimal digit. -/
def hexDigit? (c : Char) : Option Nat :=
  if c.isDigit then some (c.toNat - '0'.toNat)
  else if 'a' ≤ c ∧ c ≤ 'f' then some (c.toNat - 'a'.toNat + 10)
  else if 'A' ≤ c ∧ c ≤ 'F' then some (c.toNat - 'A'.toNat + 10)
  else none

/-- The value of hexadecimal digits. -/
def hexValue? (digits : List Char) : Option Nat :=
  digits.foldlM (fun value c => (hexDigit? c).map (16 * value + ·)) 0

end TargetingRules.Data

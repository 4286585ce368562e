import TargetingRules.Text.Letter
import TargetingRules.Text.Table.Cased
import TargetingRules.Text.Table.Casing

/-!
# Letter case

Full case mapping of a text, where one character may become several and a capital sigma at the
end of a word becomes a final sigma, and comparison that ignores the case of ASCII letters only.
-/

namespace TargetingRules.Text

/-- The shift of the first run that holds a code point. -/
def runShift? (runs : List (Nat × Nat × Nat × Int)) (n : Nat) : Option Int :=
  (runs.find? fun (first, last, step, _) =>
    first ≤ n && n ≤ last && (n - first) % step == 0).map fun (_, _, _, shift) => shift

/-- The mapping of one character by a table of runs and a table of sequences. -/
def mapBy (runs : List (Nat × Nat × Nat × Int)) (sequences : List (Nat × List Nat)) (c : Char) :
    List Char :=
  match sequences.lookup c.toNat with
  | some mapped => mapped.map Char.ofNat
  | none => [match runShift? runs c.toNat with
    | some shift => Char.ofNat (c.toNat + shift).toNat
    | none => c]

/-- The lower-case form of a character away from the end of a word. -/
def lowerChar (c : Char) : List Char :=
  if c.toNat < 0x80 then [c.toLower] else mapBy Table.lowerRuns Table.lowerSequences c

/-- The upper-case form of a character. -/
def upperChar (c : Char) : List Char :=
  if c.toNat < 0x80 then [c.toUpper] else mapBy Table.upperRuns Table.upperSequences c

/-- A character with the Cased property. -/
def isCased (c : Char) : Bool :=
  if c.toNat < 0x80 then c.isAlpha else inRanges Table.cased c

/-- A character with the Case_Ignorable property. -/
def isCaseIgnorable (c : Char) : Bool :=
  if c.toNat < 0x80 then c == '\x27' || c == '.' || c == ':' || c == '^' || c.toNat == 0x60
  else inRanges Table.caseIgnorable c

/-- A cased character comes first once the case-ignorable characters are skipped. -/
def meetsCased (cs : List Char) : Bool :=
  (cs.dropWhile isCaseIgnorable).head?.any isCased

/-- The lower-case form of a capital sigma, given the text before it in reverse and the text
after it: final where a cased character precedes and none follows. -/
def lowerSigma (before after : List Char) : Char :=
  if meetsCased before && !meetsCased after then 'ς' else 'σ'

/-- Lower-case form of a text whose earlier characters, in reverse, are given. -/
def lowerAfter (before : List Char) : List Char → List Char
  | [] => []
  | c :: after =>
    (if c = 'Σ' then [lowerSigma before after] else lowerChar c) ++ lowerAfter (c :: before) after

/-- Lower-case form of a text. -/
def lower (cs : List Char) : List Char :=
  lowerAfter [] cs

/-- Upper-case form of a text. -/
def upper (cs : List Char) : List Char :=
  cs.flatMap upperChar

/-- Equality of texts that ignores the case of ASCII letters and of no others. -/
def sameIgnoringAsciiCase (cs ds : List Char) : Bool :=
  cs.map Char.toLower == ds.map Char.toLower

end TargetingRules.Text

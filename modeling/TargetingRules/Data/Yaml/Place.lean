import TargetingRules.Data.Reader

/-!
# Places in a YAML text

The layout of a YAML text matters, so its characters are read together with their places. The
module also says which characters are blanks, line breaks and comments, and where a document ends.
-/

namespace TargetingRules.YamlReader

open Data

/-- A character with its place in a text. -/
structure Placed where
  /-- The character. -/
  char : Char
  /-- How many lines come before its line. -/
  line : Nat
  /-- How many characters come before it on its line. -/
  column : Nat
  /-- Whether only spaces come before it on its line. -/
  fresh : Bool
  deriving DecidableEq, Repr

/-- A character that ends a line. -/
def isBreak (c : Char) : Bool :=
  c == '\n' || c == '\u2028' || c == '\u2029'

/-- A blank within a line. -/
def isSpace (c : Char) : Bool :=
  c == ' ' || c == '\t'

/-- A character that may occur in a YAML text. -/
def isPrintable (c : Char) : Bool :=
  let n := c.toNat
  n == 0x09 || n == 0x0A || n == 0x0D || (0x20 ≤ n && n ≤ 0x7E) || n == 0x85 ||
    (0xA0 ≤ n && n ≤ 0xFFFD && n != 0xFEFF) || 0x10000 ≤ n

/-- A text with a single spelling of the line break. -/
def withLineFeeds : List Char → List Char
  | '\r' :: '\n' :: cs => '\n' :: withLineFeeds cs
  | '\r' :: cs => '\n' :: withLineFeeds cs
  | '\u0085' :: cs => '\n' :: withLineFeeds cs
  | c :: cs => c :: withLineFeeds cs
  | [] => []

/-- The characters of a text with their places, from a given place on. -/
def place (line column : Nat) (fresh : Bool) : List Char → List Placed
  | [] => []
  | c :: cs =>
    ⟨c, line, column, fresh⟩ ::
      if isBreak c then place (line + 1) 0 true cs
      else place line (column + 1) (fresh && c == ' ') cs

/-- The characters of a whole text with their places, unless one of them may not occur. -/
def placed? (source : List Char) : Option (List Placed) :=
  let content := match source with
    | '\uFEFF' :: cs => cs
    | cs => cs
  if content.all isPrintable then some (place 0 0 true (withLineFeeds content)) else none

namespace Placed

/-- Whether a character is a blank or a line break. -/
def isVoid (p : Placed) : Bool :=
  isSpace p.char || isBreak p.char

end Placed

/-- Whether a token may end here: before a blank, a line break or the end of the text. -/
def atVoid : List Placed → Bool
  | [] => true
  | p :: _ => p.isVoid

/-- The text without blanks, line breaks and comments in front. Tabs count as blanks on the first
line if `tabs` says so, and on further lines if `tabsAfterBreak` does. -/
def skip (tabsAfterBreak tabs comment : Bool) : List Placed → List Placed
  | [] => []
  | p :: ps =>
    if isBreak p.char then skip tabsAfterBreak tabsAfterBreak false ps
    else if comment || p.char == ' ' || (tabs && p.char == '\t') then
      skip tabsAfterBreak tabs comment ps
    else if p.char == '#' then skip tabsAfterBreak tabs true ps
    else p :: ps

theorem length_skip_le (tabsAfterBreak tabs comment : Bool) (ps : List Placed) :
    (skip tabsAfterBreak tabs comment ps).length ≤ ps.length := by
  fun_induction skip tabsAfterBreak tabs comment ps with
  | case1 => exact Nat.le_refl _
  | case2 _ _ _ _ _ ih => exact Nat.le_succ_of_le ih
  | case3 _ _ _ _ _ _ ih => exact Nat.le_succ_of_le ih
  | case4 _ _ _ _ _ _ _ ih => exact Nat.le_succ_of_le ih
  | case5 => exact Nat.le_refl _

/-- Skip to the next token within a flow collection. -/
def skipFlow : List Placed → List Placed :=
  skip true true false

/-- Skip to the next token after another one on the same line. -/
def skipOn : List Placed → List Placed :=
  skip false true false

/-- Skip to the next token where its indentation may matter, so that tabs are no blanks. -/
def skipIndented : List Placed → List Placed :=
  skip false false false

theorem length_skipFlow_le (ps : List Placed) : (skipFlow ps).length ≤ ps.length :=
  length_skip_le true true false ps

theorem length_skipOn_le (ps : List Placed) : (skipOn ps).length ≤ ps.length :=
  length_skip_le false true false ps

theorem length_skipIndented_le (ps : List Placed) : (skipIndented ps).length ≤ ps.length :=
  length_skip_le false false false ps

/-- Whether a mark of three such characters stands alone at the start of a line. -/
def startsMark (c : Char) : List Placed → Bool
  | p :: q :: r :: ps => p.column == 0 && p.char == c && q.char == c && r.char == c && atVoid ps
  | _ => false

/-- Whether a document starts or ends here. -/
def startsDocumentMark (ps : List Placed) : Bool :=
  startsMark '-' ps || startsMark '.' ps

/-- The text up to the next document mark. -/
def content : List Placed → List Placed
  | [] => []
  | p :: ps => if startsDocumentMark (p :: ps) then [] else p :: content ps

/-- The text from the next document mark on. -/
def afterContent : List Placed → List Placed
  | [] => []
  | p :: ps => if startsDocumentMark (p :: ps) then p :: ps else afterContent ps

/-- A node that begins where blanks, line breaks and comments may come first. -/
def afterSkip {α : Type} (skipped : List Placed → List Placed)
    (le : ∀ ps, (skipped ps).length ≤ ps.length) (read : Reader Placed α) : Reader Placed α :=
  fun ps => (read (skipped ps)).map fun found => found.later (le ps)

end TargetingRules.YamlReader

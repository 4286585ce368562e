import TargetingRules.Text.Letter
import TargetingRules.Text.Table.Hidden

/-!
# Quoted texts

String literals of rules, which stand between equal quotes and escape a quote or a backslash
with a backslash, and the quoted form in which log messages show a name.
-/

namespace TargetingRules.Text

/-- A single or double quote. -/
def isQuote (c : Char) : Bool :=
  c == '\x27' || c == '\"'

/-- The text that the inside of a literal stands for. A backslash before a quote or a backslash
is dropped; any other backslash stands for itself. -/
def unescape : List Char → List Char
  | '\\' :: c :: cs =>
    if isQuote c || c == '\\' then c :: unescape cs else '\\' :: c :: unescape cs
  | c :: cs => c :: unescape cs
  | [] => []

/-- The text of an image that begins and ends with the same quote. -/
def unquote? : List Char → Option (List Char)
  | [] => none
  | quote :: cs =>
    if isQuote quote && cs.getLast? == some quote then some (unescape cs.dropLast) else none

/-- The lower-case hexadecimal digits of a code point. -/
def hexDigits (c : Char) : List Char :=
  Nat.toDigits 16 c.toNat

/-- A character that a quoted name shows as itself. Beyond ASCII that is one with a shape of its own
that is not drawn over the character before it. -/
def isShown (c : Char) : Bool :=
  if c.toNat < 0x80 then 0x20 ≤ c.toNat && c.toNat ≤ 0x7E
  else !inRanges Table.unprintable c && !inRanges Table.extendingMark c

/-- A character inside a quoted name. -/
def escapeShown (c : Char) : List Char :=
  if c.toNat = 0 then ['\\', '0']
  else if c = '\t' then ['\\', 't']
  else if c = '\r' then ['\\', 'r']
  else if c = '\n' then ['\\', 'n']
  else if c = '\\' ∨ c = '\"' then ['\\', c]
  else if isShown c then [c]
  else ['\\', 'u', '\x7b'] ++ hexDigits c ++ ['\x7d']

/-- A name between double quotes, as log messages and descriptions show it. -/
def shown (name : String) : String :=
  String.ofList ('\"' :: name.toList.flatMap escapeShown ++ ['\"'])

end TargetingRules.Text

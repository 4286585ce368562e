import TargetingRules.Data.Reader

/-!
# JSON

JSON texts as data. Numbers keep the digits they were written with and objects keep every member,
so that each reader of the data decides on rounding and on repeated names. A text with half a
character in it, and data of any depth, are JSON too; it is for the reader of the data to refuse
them.
-/

namespace TargetingRules

/-- A number as it is written: the sign, the digits before and after the point, and the exponent. -/
structure JsonNumber where
  /-- Whether a minus stands before the digits. -/
  negative : Bool
  /-- The digits before the point. -/
  whole : List Char
  /-- The digits after the point. -/
  fraction : List Char
  /-- The exponent, if one is written. -/
  exponent? : Option Int
  deriving DecidableEq, Repr

/-- A JSON text. There is none if an escape in it stands for half of a character only. -/
abbrev JsonText := Option String

/-- A JSON value. -/
inductive Json where
  /-- The word null. -/
  | null
  /-- A truth value. -/
  | bool (b : Bool)
  /-- A number. -/
  | number (x : JsonNumber)
  /-- A text. -/
  | string (text? : JsonText)
  /-- A list. -/
  | array (items : List Json)
  /-- Members with their names, in order. -/
  | object (members : List (JsonText × Json))
  deriving Inhabited

namespace JsonNumber

/-- Read digits on top of a number as long as the number fits in 64 bits, and count them. -/
def fitDigits (value : Nat) : List Char → Nat × Nat
  | [] => (value, 0)
  | c :: cs =>
    let next := 10 * value + (c.toNat - '0'.toNat)
    if next < 2 ^ 64 then
      let (final, count) := fitDigits next cs
      (final, count + 1)
    else (value, 0)

/-- A number times a power of ten, unless it gets infinite. Powers beyond the range of numbers are
divided out in steps. -/
def scale? (x : Float) (e : Int) : Option Float :=
  if e < -308 then
    if x == 0 then some x else scale? (x / 1e308) (e + 308)
  else if e < 0 then some (x / Float.ofScientific 1 false (-e).toNat)
  else if e ≤ 308 then
    let scaled := x * Float.ofScientific 1 false e.toNat
    if scaled.isInf then none else some scaled
  else if x == 0 then some x
  else none
termination_by (-e).toNat
decreasing_by omega

/-- The number that is written: the leading digits that fit in 64 bits, rounded, and then scaled by
a power of ten. There is none if it is too large. -/
def toFloat? (n : JsonNumber) : Option Float :=
  let (whole, wholeCount) := fitDigits 0 n.whole
  let (digits, fractionCount) := fitDigits whole n.fraction
  let exponent : Int := (n.whole.length - wholeCount : Nat) - fractionCount + n.exponent?.getD 0
  (scale? (Float.ofNat digits) exponent).map fun x => if n.negative then -x else x

/-- The natural number that is written without point and exponent. -/
def toNat? (n : JsonNumber) : Option Nat :=
  if n.negative || !n.fraction.isEmpty || n.exponent?.isSome then none
  else some (n.whole.foldl (fun value c => 10 * value + (c.toNat - '0'.toNat)) 0)

/-- Whether digits may stand before the point: there are some, and a zero does not lead others. -/
def isWhole (digits : List Char) : Bool :=
  !digits.isEmpty && (digits.length == 1 || digits.head? != some '0')

/-- The exponent that ends a number; there may be none, and if there is one it has digits. -/
def exponentOf? : List Char → Option (Option Int)
  | [] => some none
  | e :: cs =>
    let (negative, digits) := match cs with
      | '-' :: rest => (true, rest)
      | '+' :: rest => (false, rest)
      | rest => (false, rest)
    if (e == 'e' || e == 'E') && !digits.isEmpty && digits.all Char.isDigit then
      let magnitude := digits.foldl (fun value c => 10 * value + (c.toNat - '0'.toNat)) 0
      some (some (if negative then -magnitude else magnitude))
    else none

/-- The number that a text is. -/
def ofText? (cs : List Char) : Option JsonNumber := do
  let negative := cs.head? == some '-'
  let unsigned := if negative then cs.drop 1 else cs
  let whole := unsigned.takeWhile Char.isDigit
  let afterWhole := unsigned.dropWhile Char.isDigit
  let hasPoint := afterWhole.head? == some '.'
  let afterPoint := if hasPoint then afterWhole.drop 1 else afterWhole
  let fraction := if hasPoint then afterPoint.takeWhile Char.isDigit else []
  let exponent? ← exponentOf? (if hasPoint then afterPoint.dropWhile Char.isDigit else afterPoint)
  if isWhole whole && hasPoint != fraction.isEmpty then
    some ⟨negative, whole, fraction, exponent?⟩
  else none

end JsonNumber

namespace JsonReader

open Data

/-- A blank between tokens. -/
def isSpace (c : Char) : Bool :=
  c == ' ' || c == '\t' || c == '\n' || c == '\r'

/-- The text after its leading blanks. -/
def skipSpace (cs : List Char) : List Char :=
  cs.dropWhile isSpace

theorem length_skipSpace_le (cs : List Char) : (skipSpace cs).length ≤ cs.length :=
  (List.dropWhile_suffix isSpace).length_le

/-- Read a certain character after blanks. -/
def mark (wanted : Char) : Reader Char Unit := fun cs =>
  match found : skipSpace cs with
  | c :: rest =>
    if c = wanted then
      some ⟨(), rest, by
        have := length_skipSpace_le cs
        rw [found, List.length_cons] at this
        omega⟩
    else none
  | [] => none

/-- Read a word. -/
def word (letters : List Char) (value : Json) : Reader Char Json := fun cs =>
  if fits : 0 < letters.length ∧ letters.isPrefixOf cs then
    some ⟨value, cs.drop letters.length, by
      have := (List.isPrefixOf_iff_prefix.mp fits.2).length_le
      rw [List.length_drop]
      omega⟩
  else none

/-- The second unit of a character beyond the basic plane, if its escape comes next. -/
def lowHalf? : List Char → Option Nat
  | '\\' :: 'u' :: a :: b :: c :: d :: _ => do
    let unit ← hexValue? [a, b, c, d]
    if 0xDC00 ≤ unit ∧ unit < 0xE000 then some unit else none
  | _ => none

/-- Read what follows a backslash. Characters beyond the basic plane are written as two units; a
unit that is left alone stands for no character. -/
def escape : Reader Char (Option Char)
  | '\"' :: cs => some ⟨'\"', cs, Nat.lt_succ_self _⟩
  | '\\' :: cs => some ⟨'\\', cs, Nat.lt_succ_self _⟩
  | '/' :: cs => some ⟨'/', cs, Nat.lt_succ_self _⟩
  | 'b' :: cs => some ⟨'\x08', cs, Nat.lt_succ_self _⟩
  | 'f' :: cs => some ⟨'\x0c', cs, Nat.lt_succ_self _⟩
  | 'n' :: cs => some ⟨'\n', cs, Nat.lt_succ_self _⟩
  | 'r' :: cs => some ⟨'\r', cs, Nat.lt_succ_self _⟩
  | 't' :: cs => some ⟨'\t', cs, Nat.lt_succ_self _⟩
  | 'u' :: a :: b :: c :: d :: cs => do
    let unit ← hexValue? [a, b, c, d]
    if 0xD800 ≤ unit ∧ unit < 0xDC00 then
      match lowHalf? cs with
      | some low =>
        some ⟨Char.ofNat (0x10000 + (unit - 0xD800) * 0x400 + (low - 0xDC00)), cs.drop 6,
          by simp only [List.length_cons, List.length_drop]; omega⟩
      | none => some ⟨none, cs, by simp only [List.length_cons]; omega⟩
    else if 0xDC00 ≤ unit ∧ unit < 0xE000 then
      some ⟨none, cs, by simp only [List.length_cons]; omega⟩
    else some ⟨Char.ofNat unit, cs, by simp only [List.length_cons]; omega⟩
  | _ => none

/-- Read the characters of a text through its closing quote. -/
def textBody (cs : List Char) : Option (Found (Option (List Char)) cs) :=
  match cs with
  | [] => none
  | '\"' :: rest => some ⟨some [], rest, Nat.lt_succ_self _⟩
  | '\\' :: rest => do
    let found ← escape rest
    have fewer := Nat.lt_succ_of_lt found.shorter
    let more ← textBody found.rest
    return ⟨do return (← found.value) :: (← more.value), more.rest, Nat.lt_trans more.shorter fewer⟩
  | c :: rest =>
    if c.toNat < 0x20 then none
    else do
      let more ← textBody rest
      return ⟨more.value.map (c :: ·), more.rest, Nat.lt_succ_of_lt more.shorter⟩
termination_by cs.length

/-- Read a text. -/
def text : Reader Char JsonText
  | '\"' :: cs =>
    (textBody cs).map fun found =>
      ⟨found.value.map String.ofList, found.rest, Nat.lt_succ_of_lt found.shorter⟩
  | _ => none

/-- A character inside a number. -/
def isNumberPart (c : Char) : Bool :=
  c.isDigit || c == '-' || c == '+' || c == '.' || c == 'e' || c == 'E'

/-- Read a number, which goes on as long as its characters could belong to one. -/
def number : Reader Char Json
  | [] => none
  | c :: cs =>
    if isNumberPart c then
      (JsonNumber.ofText? (c :: cs.takeWhile isNumberPart)).map fun n =>
        ⟨.number n, cs.dropWhile isNumberPart,
          Nat.lt_succ_of_le (List.dropWhile_suffix isNumberPart).length_le⟩
    else none

/-- Read at least one item, with commas between items and a closing mark after the last one. -/
def itemsUntil {α : Type} (item : Reader Char α) (close : Char) (cs : List Char) :
    Option (Found (List α) cs) := do
  let first ← item cs
  match mark ',' first.rest with
  | some comma =>
    have fewer := Nat.lt_trans comma.shorter first.shorter
    let more ← itemsUntil item close comma.rest
    return ⟨first.value :: more.value, more.rest, Nat.lt_trans more.shorter fewer⟩
  | none =>
    let closing ← mark close first.rest
    return ⟨[first.value], closing.rest, Nat.lt_trans closing.shorter first.shorter⟩
termination_by cs.length

/-- Read any number of items up to a closing mark. -/
def items {α : Type} (item : Reader Char α) (close : Char) : Reader Char (List α) := fun cs =>
  match mark close cs with
  | some closing => some ⟨[], closing.rest, closing.shorter⟩
  | none => itemsUntil item close cs

/-- Read a member of an object. -/
def member (value : Reader Char Json) : Reader Char (JsonText × Json) := fun cs => do
  let name ← text (skipSpace cs)
  let colon ← mark ':' name.rest
  let found ← value colon.rest
  return ⟨(name.value, found.value), found.rest,
    Nat.lt_of_lt_of_le
      (Nat.lt_trans found.shorter (Nat.lt_trans colon.shorter name.shorter))
      (length_skipSpace_le cs)⟩

/-- Read null, a truth value, a text or a number. -/
def scalar : Reader Char Json := fun cs =>
  match cs.head? with
  | some 'n' => word ['n', 'u', 'l', 'l'] .null cs
  | some 't' => word ['t', 'r', 'u', 'e'] (.bool true) cs
  | some 'f' => word ['f', 'a', 'l', 's', 'e'] (.bool false) cs
  | some '\"' => (text cs).map (·.map .string)
  | _ => number cs

/-- Read a list, an object or a scalar, given a reader for the values inside. -/
def compound (inner : Reader Char Json) : Reader Char Json
  | '[' :: cs =>
    (items inner ']' cs).map fun found =>
      ⟨.array found.value, found.rest, Nat.lt_succ_of_lt found.shorter⟩
  | '\x7b' :: cs =>
    (items (member inner) '\x7d' cs).map fun found =>
      ⟨.object found.value, found.rest, Nat.lt_succ_of_lt found.shorter⟩
  | cs => scalar cs

/-- Read a value after blanks, in which lists and objects are nested so deep at most. -/
def value (depth : Nat) : Reader Char Json := fun cs =>
  let reader := match depth with
    | 0 => scalar
    | depth + 1 => compound (value depth)
  (reader (skipSpace cs)).map fun found => found.later (length_skipSpace_le cs)

end JsonReader

namespace Json

/-- The value that a whole text is. It cannot be nested deeper than the text is long. -/
def parse? (source : String) : Option Json := do
  let found ← JsonReader.value source.length source.toList
  if (JsonReader.skipSpace found.rest).isEmpty then some found.value else none

mutual

/-- How deep lists and objects are nested. -/
def nesting : Json → Nat
  | .array items => itemsNesting items + 1
  | .object members => membersNesting members + 1
  | _ => 0

/-- How deep the items of a list are nested. -/
def itemsNesting : List Json → Nat
  | [] => 0
  | item :: items => max (nesting item) (itemsNesting items)

/-- How deep the members of an object are nested. -/
def membersNesting : List (JsonText × Json) → Nat
  | [] => 0
  | (_, item) :: members => max (nesting item) (membersNesting members)

end

end TargetingRules.Json

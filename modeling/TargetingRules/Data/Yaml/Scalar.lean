import TargetingRules.Data.Yaml
import TargetingRules.Data.Yaml.Place

/-!
# YAML scalars

Plain scalars, scalars in single quotes and scalars in double quotes. All of them may go on over
several lines, which are then joined by spaces.
-/

namespace TargetingRules.YamlReader

open Data

/-- The text of blanks and line breaks within a scalar. A line break is a space if it is the only
one, and otherwise all but the first are kept; blanks beside a line break are dropped. -/
def folded (voids : List Char) : List Char :=
  match voids.filter isBreak with
  | [] => voids
  | ['\n'] => [' ']
  | '\n' :: breaks => breaks
  | breaks => breaks

/-- The blanks and line breaks in front of a text. -/
def voids (ps : List Placed) : List Placed :=
  ps.takeWhile Placed.isVoid

/-- The text after the blanks and line breaks in front. -/
def afterVoids (ps : List Placed) : List Placed :=
  ps.dropWhile Placed.isVoid

theorem length_afterVoids_le (ps : List Placed) : (afterVoids ps).length ≤ ps.length :=
  (List.dropWhile_suffix Placed.isVoid).length_le

/-- Read so many hexadecimal digits as the number of a character. -/
def codePoint (count : Nat) : Reader Placed Char := fun ps => do
  let n ← hexValue? ((ps.take count).map (·.char))
  if fits : 0 < count ∧ count ≤ ps.length ∧ n.isValidChar then
    some ⟨Char.ofNat n, ps.drop count, by rw [List.length_drop]; omega⟩
  else none

/-- The character that a letter after a backslash stands for. -/
def escaped? : Char → Option Char
  | '0' => some '\x00'
  | 'a' => some '\x07'
  | 'b' => some '\x08'
  | 't' => some '\t'
  | '\t' => some '\t'
  | 'n' => some '\n'
  | 'v' => some '\x0b'
  | 'f' => some '\x0c'
  | 'r' => some '\r'
  | 'e' => some '\x1b'
  | ' ' => some ' '
  | '\"' => some '\"'
  | '/' => some '/'
  | '\\' => some '\\'
  | 'N' => some '\u0085'
  | '_' => some '\u00a0'
  | 'L' => some '\u2028'
  | 'P' => some '\u2029'
  | _ => none

/-- Read what follows a backslash. A line break after a backslash joins its lines without a
space. -/
def escape : Reader Placed (List Char)
  | [] => none
  | p :: ps =>
    if isBreak p.char then
      some ⟨((voids ps).map (·.char)).filter isBreak, afterVoids ps,
        Nat.lt_succ_of_le (length_afterVoids_le ps)⟩
    else if p.char == 'x' then
      (codePoint 2 ps).map fun found => (found.map ([·])).later (Nat.le_succ _)
    else if p.char == 'u' then
      (codePoint 4 ps).map fun found => (found.map ([·])).later (Nat.le_succ _)
    else if p.char == 'U' then
      (codePoint 8 ps).map fun found => (found.map ([·])).later (Nat.le_succ _)
    else (escaped? p.char).map fun c => ⟨[c], ps, Nat.lt_succ_self _⟩

/-- Read the characters of a scalar through its closing double quote. -/
def doubleQuoted (ps : List Placed) : Option (Found (List Char) ps) :=
  match ps with
  | [] => none
  | p :: rest =>
    if p.char == '\"' then some ⟨[], rest, Nat.lt_succ_self _⟩
    else if p.char == '\\' then do
      let found ← escape rest
      have fewer := Nat.lt_succ_of_lt found.shorter
      let more ← doubleQuoted found.rest
      return ⟨found.value ++ more.value, more.rest, Nat.lt_trans more.shorter fewer⟩
    else if p.isVoid then do
      have fewer := Nat.lt_succ_of_le (length_afterVoids_le rest)
      let more ← doubleQuoted (afterVoids rest)
      return ⟨folded (p.char :: (voids rest).map (·.char)) ++ more.value, more.rest,
        Nat.lt_trans more.shorter fewer⟩
    else do
      let more ← doubleQuoted rest
      return ⟨p.char :: more.value, more.rest, Nat.lt_succ_of_lt more.shorter⟩
termination_by ps.length

/-- Read the characters of a scalar through its closing single quote; two single quotes stand for
one of them. -/
def singleQuoted (ps : List Placed) : Option (Found (List Char) ps) :=
  match ps with
  | [] => none
  | p :: rest =>
    if p.char == '\x27' then
      match rest with
      | q :: others =>
        if q.char == '\x27' then do
          let more ← singleQuoted others
          return ⟨'\x27' :: more.value, more.rest,
            Nat.lt_succ_of_lt (Nat.lt_succ_of_lt more.shorter)⟩
        else some ⟨[], q :: others, Nat.lt_succ_self _⟩
      | [] => some ⟨[], [], Nat.lt_succ_self _⟩
    else if p.isVoid then do
      have fewer := Nat.lt_succ_of_le (length_afterVoids_le rest)
      let more ← singleQuoted (afterVoids rest)
      return ⟨folded (p.char :: (voids rest).map (·.char)) ++ more.value, more.rest,
        Nat.lt_trans more.shorter fewer⟩
    else do
      let more ← singleQuoted rest
      return ⟨p.char :: more.value, more.rest, Nat.lt_succ_of_lt more.shorter⟩
termination_by ps.length

/-- A mark that ends a plain scalar within a flow collection. -/
def isFlowMark (c : Char) : Bool :=
  c == ',' || c == '[' || c == ']' || c == '\x7b' || c == '\x7d'

/-- A character that begins something else than a plain scalar. -/
def isIndicator (c : Char) : Bool :=
  isFlowMark c || c == '#' || c == '&' || c == '*' || c == '!' || c == '|' || c == '>' ||
    c == '\x27' || c == '\"' || c == '%' || c == '@' || c == '\x60'

/-- Whether a plain scalar starts here. -/
def startsPlain (flow : Bool) : List Placed → Bool
  | [] => false
  | p :: ps =>
    if p.char == '-' then !atVoid ps
    else if p.char == '?' || p.char == ':' then !flow && !atVoid ps
    else !isIndicator p.char && !p.isVoid

/-- Whether a plain scalar cannot go on here: before a colon that ends a key, and in a flow
collection before its marks. -/
def endsPlain (flow : Bool) : List Placed → Bool
  | [] => true
  | p :: ps =>
    (p.char == ':' && (atVoid ps || (flow && (ps.head?.any fun q =>
      isFlowMark q.char || q.char == '?')))) ||
    (flow && isFlowMark p.char)

/-- The characters up to a blank or the end of a plain scalar, and what follows. -/
def plainRun (flow : Bool) : List Placed → List Char × List Placed
  | [] => ([], [])
  | p :: ps =>
    if p.isVoid || endsPlain flow (p :: ps) then ([], p :: ps)
    else
      let (cs, rest) := plainRun flow ps
      (p.char :: cs, rest)

theorem length_plainRun_le (flow : Bool) (ps : List Placed) :
    (plainRun flow ps).2.length ≤ ps.length := by
  fun_induction plainRun flow ps with
  | case1 => exact Nat.le_refl _
  | case2 => exact Nat.le_refl _
  | case3 p ps _ cs rest run ih =>
    rw [run] at ih
    exact Nat.le_succ_of_le ih

/-- Whether a plain scalar goes on after blanks: not with a comment, and outside of flow
collections not on a line that is indented less than `limit`. -/
def goesOn (flow : Bool) (limit : Nat) : List Placed → Bool
  | [] => false
  | p :: ps => p.char != '#' && (flow || limit ≤ p.column) && !endsPlain flow (p :: ps)

/-- Whether blanks within a plain scalar keep to the rule that lines are indented by spaces. -/
def indentedBySpaces (limit : Nat) (ps : List Placed) : Bool :=
  ps.all fun p => !(p.char == '\t' && p.fresh && p.column < limit)

/-- Read the rest of a plain scalar whose next character is known to belong to it. -/
def plainChars (flow : Bool) (limit : Nat) (ps : List Placed) : Option (Found (List Char) ps) :=
  match ps with
  | [] => none
  | p :: rest =>
    let run := plainRun flow rest
    let next := afterVoids run.2
    have fewer : next.length < rest.length + 1 :=
      Nat.lt_succ_of_le (Nat.le_trans (length_afterVoids_le _) (length_plainRun_le flow rest))
    if !indentedBySpaces limit (voids run.2) then none
    else if goesOn flow limit next then do
      let more ← plainChars flow limit next
      return ⟨p.char :: run.1 ++ folded ((voids run.2).map (·.char)) ++ more.value, more.rest,
        Nat.lt_trans more.shorter fewer⟩
    else some ⟨p.char :: run.1, next, fewer⟩
termination_by ps.length
decreasing_by exact fewer

/-- Read a scalar. -/
def scalar (flow : Bool) (limit : Nat) : Reader Placed Yaml
  | [] => none
  | p :: ps =>
    if p.char == '\"' then
      (doubleQuoted ps).map fun found =>
        (found.map fun cs => .scalar false (String.ofList cs)).later (Nat.le_succ _)
    else if p.char == '\x27' then
      (singleQuoted ps).map fun found =>
        (found.map fun cs => .scalar false (String.ofList cs)).later (Nat.le_succ _)
    else if startsPlain flow (p :: ps) then
      (plainChars flow limit (p :: ps)).map fun found =>
        found.map fun cs => .scalar true (String.ofList cs)
    else none

end TargetingRules.YamlReader

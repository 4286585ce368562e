import TargetingRules.Number.Reading
import TargetingRules.Syntax.Failure
import TargetingRules.Text.Blank
import TargetingRules.Text.Quoted

/-!
# From characters to tokens

Blanks separate tokens and are skipped. The first character of a token tells whether it is a
number, a string literal, a word or a mark; the rest of it is as long as that class allows. Each
scanner says how many characters follow the first one, and the cut is made in one place.
-/

namespace TargetingRules.Lexer

/-- The number of digits that a text starts with. -/
def digitRun (cs : List Char) : Nat :=
  (cs.takeWhile Char.isDigit).length

/-- The length of a point and the digits after it. -/
def fractionRun : List Char → Nat
  | '.' :: cs => if digitRun cs = 0 then 0 else 1 + digitRun cs
  | _ => 0

/-- The length of a sign. -/
def signRun : List Char → Nat
  | c :: _ => if c = '+' ∨ c = '-' then 1 else 0
  | [] => 0

/-- The length of an exponent: its letter, an optional sign and at least one digit. -/
def exponentRun : List Char → Nat
  | c :: cs =>
    let digits := digitRun (cs.drop (signRun cs))
    if (c = 'e' ∨ c = 'E') ∧ digits ≠ 0 then 1 + signRun cs + digits else 0
  | [] => 0

/-- The length of a number without its first digit. -/
def numberRun (cs : List Char) : Nat :=
  let whole := digitRun cs
  let fraction := fractionRun (cs.drop whole)
  whole + fraction + exponentRun (cs.drop (whole + fraction))

/-- The length of a string literal without its opening quote. A backslash hides the character
after it. -/
def stringRun? (quote : Char) : List Char → Option Nat
  | '\\' :: _ :: cs => (stringRun? quote cs).map (· + 2)
  | c :: cs => if c = quote then some 1 else (stringRun? quote cs).map (· + 1)
  | [] => none

/-- A character inside a name. -/
def isNamePart (c : Char) : Bool :=
  Text.isAlphanumeric c || c == '_' || c == '$'

/-- Whether a name starts with a character, given the characters after it: a dollar sign starts a
name only before a letter, a numeral or an underscore. -/
def startsName (c : Char) (after : List Char) : Bool :=
  Text.isAlphabetic c || c == '_' ||
    (c == '$' && after.head?.any fun next => Text.isAlphanumeric next || next == '_')

/-- The length of a word without its first character. -/
def wordRun (cs : List Char) : Nat :=
  (cs.takeWhile isNamePart).length

/-- The words that are not names. -/
def keywords : List (String × TokenKind) := [
  ("true", .bool true), ("false", .bool false), ("null", .null), ("empty", .mark .empty),
  ("not", .mark .not), ("and", .mark .and), ("or", .mark .or), ("eq", .mark .equal),
  ("ne", .mark .notEqual), ("lt", .mark .less), ("gt", .mark .greater), ("le", .mark .atMost),
  ("ge", .mark .atLeast), ("div", .mark .slash), ("mod", .mark .percent)]

/-- What a word says. -/
def wordKind (word : String) : TokenKind :=
  (keywords.lookup word).getD (.ident word)

/-- The symbols of the marks, of which the first that fits is taken. -/
def symbols : List (List Char × Mark) := [
  (['=', '='], .equal), (['!', '='], .notEqual), (['<', '='], .atMost), (['>', '='], .atLeast),
  (['&', '&'], .and), (['|', '|'], .or), (['+', '='], .plusAssign), (['-', '>'], .arrow),
  (['='], .assign), (['!'], .not), (['<'], .less), (['>'], .greater), (['+'], .plus),
  (['-'], .minus), (['*'], .star), (['/'], .slash), (['%'], .percent), (['?'], .question),
  ([':'], .colon), ([','], .comma), (['.'], .dot), (['('], .openParen), ([')'], .closeParen),
  (['['], .openBracket), ([']'], .closeBracket)]

/-- The mark that a text starts with and the length of its symbol. -/
def symbol? (cs : List Char) : Option (Mark × Nat) :=
  (symbols.find? fun entry => entry.1.isPrefixOf cs).map fun entry => (entry.2, entry.1.length)

/-- What the token says that starts with `c` at byte `pos`, and how many of the characters after
`c` belong to it. -/
def lexeme (pos : Nat) (c : Char) (cs : List Char) : Except ParseError (TokenKind × Nat) :=
  if c.isDigit then
    let length := numberRun cs
    let text := c :: cs.take length
    match Number.read? text with
    | some x => .ok (.number x, length)
    | none => .error (.invalidNumber (String.ofList text) pos)
  else if Text.isQuote c then
    match stringRun? c cs with
    | some length =>
      .ok (.str (String.ofList (Text.unescape (cs.take length).dropLast)), length)
    | none => .error (.unterminatedString pos)
  else if startsName c cs then
    .ok (wordKind (String.ofList (c :: cs.take (wordRun cs))), wordRun cs)
  else
    match symbol? (c :: cs) with
    | some (mark, length) => .ok (.mark mark, length - 1)
    | none => .error (.unexpectedChar c pos)

/-- The tokens of a text that starts at byte `pos`. -/
def tokens (pos : Nat) : List Char → Except ParseError (List Token)
  | [] => .ok []
  | c :: cs =>
    if Text.isBlank c then tokens (pos + c.utf8Size) cs
    else
      match lexeme pos c cs with
      | .error e => .error e
      | .ok (kind, length) =>
        let text := c :: cs.take length
        let stop := pos + Text.byteLength text
        match tokens stop (cs.drop length) with
        | .error e => .error e
        | .ok rest => .ok (⟨kind, ⟨pos, stop⟩, String.ofList text⟩ :: rest)
termination_by cs => cs.length
decreasing_by all_goals simp only [List.length_cons, List.length_drop]; omega

/-- The tokens of the bytes `start` to `stop` of a text, with their places in the whole text. -/
def tokensBetween (text : String) (start stop : Nat) : Except ParseError (List Token) :=
  tokens start (Text.takeBytes (stop - start) (Text.dropBytes start text.toList))

end TargetingRules.Lexer

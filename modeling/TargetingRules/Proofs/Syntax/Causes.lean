import TargetingRules.Proofs.Syntax.Numerals
import TargetingRules.Proofs.Syntax.Quoting
import TargetingRules.Proofs.Syntax.Stopping

/-!
# What a parse error points at

A rule that is refused is refused at a place. The lexer stops at a character of the body at which no
token starts; the machine stops at a token that it has no use for, or after the last one. A tree that is
too high or too deep is reported at a token, or after the text where there is no token left.
-/

namespace TargetingRules

/-- The place that an error names. -/
def ParseError.position? : ParseError → Option Nat
  | .unexpectedChar _ pos | .unterminatedString pos | .invalidNumber _ pos
  | .unexpectedToken _ _ pos | .trailingInput _ pos | .tooDeep pos => some pos
  | .empty | .unexpectedEnd _ | .tree _ => none

/-! ## Causes -/

/-- At a place in the body of a rule stands a character with others after it, and none of the texts that
start there is a token. -/
structure StartsNoToken (rule : String) (pos : Nat) (c : Char) (after : List Char) : Prop where
  start_le : (Body.of rule.toList).start ≤ pos
  slice : Text.slice? pos (Body.of rule.toList).stop rule.toList = some (c :: after)
  visible : Text.isBlank c = false
  noToken : ∀ n kind, ¬ Lexer.Lexes (String.ofList (c :: after.take n)) kind

/-- Of the tokens of a rule, the machine has read the first ones when it stops, and not the others. -/
structure StopsAfter (beyond : Assembler Nat) (rule : String) (read left : List Token) : Prop where
  tokens : (Body.of rule.toList).tokens = .ok (read ++ left)
  position : (Assembler.stop beyond ⟨read ++ left, Text.byteLength rule.toList⟩).position = read.length

/-- What an error says is there is there, at the place that the error names. Tokens are named as the error
message describes them. -/
inductive ParseError.PointsAtCause (beyond : Assembler Nat) (rule : String) : ParseError → Prop where
  | empty (blank : (Body.of rule.toList).tokens = .ok []) : PointsAtCause beyond rule .empty
  | char {pos c after} (starts : StartsNoToken rule pos c after) :
      PointsAtCause beyond rule (.unexpectedChar c pos)
  | string {pos quote after} (starts : StartsNoToken rule pos quote after)
      (isQuote : Text.isQuote quote = true) : PointsAtCause beyond rule (.unterminatedString pos)
  | token {read token rest expected} (stops : StopsAfter beyond rule read (token :: rest)) :
      PointsAtCause beyond rule (.unexpectedToken token.kind expected token.span.start)
  | ending {read expected} (stops : StopsAfter beyond rule read []) :
      PointsAtCause beyond rule (.unexpectedEnd expected)
  | trailing {read token rest} (stops : StopsAfter beyond rule read (token :: rest)) :
      PointsAtCause beyond rule (.trailingInput token.kind token.span.start)
  | deepToken {tokens token} (split : (Body.of rule.toList).tokens = .ok tokens)
      (among : token ∈ tokens) : PointsAtCause beyond rule (.tooDeep token.span.start)
  | deepEnd {read} (stops : StopsAfter beyond rule read []) :
      PointsAtCause beyond rule (.tooDeep (Text.byteLength rule.toList))

/-! ## Places -/

/-- Tokens start between characters of the rule. -/
theorem isBoundary_of_token {rule : String} {tokens : List Token} {token : Token}
    (split : (Body.of rule.toList).tokens = .ok tokens) (member : token ∈ tokens) :
    Text.IsBoundary token.span.start rule.toList := by
  have splits := Lexer.splits_of_tokens split
  exact (Text.isBoundary_of_slice? (splits.slice (Body.slice?_of _) token member).2).1

section Causes

variable {beyond : Assembler Nat} {rule : String} {e : ParseError} {tokens left : List Token}

theorem StopsAfter.isBoundary {read rest : List Token} {token : Token}
    (stops : StopsAfter beyond rule read (token :: rest)) :
    Text.IsBoundary token.span.start rule.toList :=
  isBoundary_of_token stops.tokens (List.mem_append_right _ List.mem_cons_self)

theorem ParseError.PointsAtCause.isBoundary (cause : e.PointsAtCause beyond rule) {pos : Nat}
    (named : e.position? = some pos) : Text.IsBoundary pos rule.toList := by
  cases cause with
  | empty | ending => cases named
  | char starts =>
    cases named
    exact (Text.isBoundary_of_slice? starts.slice).1
  | string starts =>
    cases named
    exact (Text.isBoundary_of_slice? starts.slice).1
  | token stops =>
    cases named
    exact stops.isBoundary
  | trailing stops =>
    cases named
    exact stops.isBoundary
  | deepToken split among =>
    cases named
    exact isBoundary_of_token split among
  | deepEnd =>
    cases named
    exact ⟨rule.toList, [], (List.append_nil _).symm, rfl⟩

/-! ## The lexer -/

/-- A text that starts with no symbol has none in its front. -/
theorem Lexer.symbol?_take_eq_none {cs : List Char} (absent : symbol? cs = none) (n : Nat) :
    symbol? (cs.take n) = none := by
  rw [symbol?, Option.map_eq_none_iff, List.find?_eq_none] at absent
  refine Option.eq_none_iff_forall_ne_some.mpr fun pair found => ?_
  obtain ⟨mark, length⟩ := pair
  obtain ⟨symbol, member, front, _⟩ := symbol?_eq_some found
  exact absent _ member (List.isPrefixOf_iff_prefix.mpr (front.trans (List.take_prefix n cs)))

/-- Where the lexer stops no token starts, however much of the text is left out at its end. -/
theorem Lexer.Refuses.not_lexes {pos : Nat} {c : Char} {after : List Char}
    (refuses : Refuses pos c after e) (n : Nat) (kind : TokenKind) :
    ¬ Lexes (String.ofList (c :: after.take n)) kind := by
  intro lexes
  obtain ⟨d, cs, same, _, isLexeme⟩ := lexes.isLexeme
  rw [String.toList_ofList] at same
  cases same
  generalize (after.take n).length = length at isLexeme
  cases refuses with
  | string quote run =>
    have noDigit := isDigit_of_isQuote quote
    cases isLexeme with
    | number digit => exact Bool.eq_false_iff.mp noDigit digit
    | string _ _ run' =>
      have noEscape : c ≠ '\\' := by
        rintro rfl
        cases quote
      have found := (stringRun?_append noEscape run' (after.drop n)).1
      rw [List.take_append_drop, run] at found
      cases found
    | word _ noQuote => exact Bool.eq_false_iff.mp noQuote quote
    | symbol _ noQuote => exact Bool.eq_false_iff.mp noQuote quote
  | char noDigit noQuote noWord noSymbol =>
    cases isLexeme with
    | number digit => exact Bool.eq_false_iff.mp noDigit digit
    | string _ quote => exact Bool.eq_false_iff.mp noQuote quote
    | word _ _ starts => exact Bool.eq_false_iff.mp noWord (startsName_take c after n starts)
    | symbol _ _ _ found =>
      rw [← List.take_succ_cons, symbol?_take_eq_none noSymbol] at found
      cases found

theorem pointsAtCause_of_tokens (failed : (Body.of rule.toList).tokens = .error e) :
    e.PointsAtCause beyond rule := by
  obtain ⟨before, c, after, split, visible, refuses⟩ := Lexer.refuses_of_tokens failed
  have range := Body.slice?_of rule.toList
  rw [split] at range
  have starts : StartsNoToken rule _ c after :=
    ⟨Nat.le_add_right _ _, Text.slice?_advance range, visible, refuses.not_lexes⟩
  cases refuses with
  | string quote run => exact .string starts quote
  | char noDigit noQuote noWord noSymbol => exact .char starts

/-! ## The machine -/

/-- What is ahead where the machine stops is what comes after the tokens read. -/
theorem exists_stopsAfter (split : (Body.of rule.toList).tokens = .ok tokens)
    (here : Source.ahead ⟨tokens, Text.byteLength rule.toList⟩
      (Assembler.stop beyond ⟨tokens, Text.byteLength rule.toList⟩) = left) :
    ∃ read, StopsAfter beyond rule read left := by
  have parts := List.take_append_drop
    (Assembler.stop beyond ⟨tokens, Text.byteLength rule.toList⟩).position tokens
  have bound : (Assembler.stop beyond ⟨tokens, Text.byteLength rule.toList⟩).position ≤ tokens.length :=
    (follows_expression beyond _ ⟨Assembly.sound_initial _, rfl⟩).1.ready.sound.position_le
  rw [Source.ahead] at here
  rw [here] at parts
  refine ⟨_, by rw [parts]; exact split, ?_⟩
  rw [parts, List.length_take, Nat.min_eq_left bound]

theorem pointsAtCause_of_isAt (split : (Body.of rule.toList).tokens = .ok tokens)
    (isTextual : e.IsTextual)
    (isAt : e.IsAt ⟨tokens, Text.byteLength rule.toList⟩
      (Assembler.stop beyond ⟨tokens, Text.byteLength rule.toList⟩)) :
    e.PointsAtCause beyond rule := by
  cases e with
  | unexpectedToken found expected pos =>
    obtain ⟨token, rest, here, rfl, rfl⟩ := isAt
    obtain ⟨read, stops⟩ := exists_stopsAfter split here
    exact .token stops
  | unexpectedEnd expected =>
    obtain ⟨read, stops⟩ := exists_stopsAfter split isAt
    exact .ending stops
  | tooDeep pos =>
    rcases isAt with ⟨token, among, rfl⟩ | ⟨ended, rfl⟩
    · exact .deepToken split among
    · obtain ⟨read, stops⟩ := exists_stopsAfter split ended
      exact .deepEnd stops
  | tree fault => exact isTextual.elim
  | _ => exact isAt.elim

/-- Every error of a rule points at its cause. -/
theorem pointsAtCause_of_error (failed : SyntaxTree.parse rule = .error e) :
    e.PointsAtCause beyond rule := by
  have isTextual := SyntaxTree.textual_parse rule e failed
  rw [← SyntaxTree.assemble_eq_parse beyond, SyntaxTree.assemble] at failed
  cases split : (Body.of rule.toList).tokens with
  | error e' =>
    rw [split] at failed
    cases failed
    exact pointsAtCause_of_tokens split
  | ok tokens =>
    rw [split] at failed
    simp only [bind, Except.bind] at failed
    split at failed
    next blank =>
      cases failed
      exact .empty (List.isEmpty_iff.mp blank ▸ split)
    next =>
      split at failed
      next e' answer =>
        cases failed
        exact pointsAtCause_of_isAt split isTextual (Assembler.isAt_of_expression answer)
      next root answer =>
        split at failed
        next token rest here =>
          cases failed
          obtain ⟨read, stops⟩ := exists_stopsAfter split here
          exact .trailing stops
        next =>
          unfold Except.mapError at failed
          split at failed
          next =>
            cases failed
            exact isTextual.elim
          next => cases failed

end Causes

namespace SyntaxTree

/-- The place that an error names is in the rule and between two characters, and what the error says is
there is there. -/
theorem pointsAtCause_of_parse (beyond : Assembler Nat) {rule : String} {e : ParseError}
    (failed : SyntaxTree.parse rule = .error e) :
    e.PointsAtCause beyond rule ∧ ∀ pos, e.position? = some pos →
      pos ≤ Text.byteLength rule.toList ∧ Text.IsBoundary pos rule.toList := by
  have cause : e.PointsAtCause beyond rule := pointsAtCause_of_error failed
  exact ⟨cause, fun pos named => ⟨(cause.isBoundary named).le, cause.isBoundary named⟩⟩

/-- A rule in delimiters with a character of two bytes before the parenthesis that nothing opens. -/
theorem pointsAtCause_unopened :
    SyntaxTree.parse "$\x7bé + )\x7d" = .error (.unexpectedToken (.mark .closeParen) .expression 7) ∧
      (ParseError.unexpectedToken (.mark .closeParen) .expression 7).PointsAtCause (.fail .empty)
        "$\x7bé + )\x7d" ∧ Text.IsBoundary 7 "$\x7bé + )\x7d".toList := by
  have tokens : (Body.of "$\x7bé + )\x7d".toList).tokens = .ok [
      ⟨.ident "é", ⟨2, 4⟩, "é"⟩, ⟨.mark .plus, ⟨5, 6⟩, "+"⟩, ⟨.mark .closeParen, ⟨7, 8⟩, ")"⟩] :=
    Lexer.tokens_of_split? (n := 20) rfl
  have failed : SyntaxTree.parse "$\x7bé + )\x7d" =
      .error (.unexpectedToken (.mark .closeParen) .expression 7) := by
    rw [← assemble_eq_parse (.fail .empty), assemble, tokens]
    rfl
  obtain ⟨cause, inside⟩ := pointsAtCause_of_parse (.fail .empty) failed
  exact ⟨failed, cause, (inside 7 rfl).2⟩

end SyntaxTree

end TargetingRules

import TargetingRules.Proofs.Failing
import TargetingRules.Proofs.Syntax.Lexing

/-!
# Scanning a range of a text

A scanner moves over the bytes of a whole text from a position up to the end of a range. Each look at
what is ahead is a slice of the text, which has to lie in the text and between its characters; the image
of a token is a slice too. A number is read as far as an exponent might go and the position set back
where there is none. A slice that is not there and a loop that goes on for ever have no outcome.

On a range of the text there is one: the scanner sees the characters of the range and no others, and
its tokens or its error are those of `Lexer.tokens`.
-/

namespace TargetingRules

/-! ## Slices -/

namespace Text

/-- The characters at the bytes `start` to `stop` of a text. There are none if the text is too short, if
the range is reversed, or if one of its ends is inside a character. -/
def slice? (start stop : Nat) (cs : List Char) : Option (List Char) :=
  if byteLength (takeBytes start cs) = start ∧
      start + byteLength (takeBytes (stop - start) (dropBytes start cs)) = stop then
    some (takeBytes (stop - start) (dropBytes start cs))
  else none

theorem takeBytes_append_dropBytes (n : Nat) (cs : List Char) :
    takeBytes n cs ++ dropBytes n cs = cs := by
  induction cs generalizing n with
  | nil => rfl
  | cons c cs ih =>
    simp only [takeBytes, dropBytes]
    split
    · rw [List.cons_append, ih]
    · rfl

theorem takeBytes_byteLength_append (cs ds : List Char) :
    takeBytes (byteLength cs) (cs ++ ds) = cs := by
  induction cs with
  | nil =>
    cases ds with
    | nil => rfl
    | cons d ds => exact if_neg (Nat.not_le.mpr d.utf8Size_pos)
  | cons c cs ih =>
    simp only [byteLength_cons, List.cons_append, takeBytes, Nat.le_add_right, ↓reduceIte,
      Nat.add_sub_cancel_left, ih]

theorem dropBytes_byteLength_append (cs ds : List Char) :
    dropBytes (byteLength cs) (cs ++ ds) = ds := by
  have parts := takeBytes_append_dropBytes (byteLength cs) (cs ++ ds)
  rw [takeBytes_byteLength_append] at parts
  exact List.append_cancel_left parts

/-- A slice is a part of a text with its place. -/
theorem slice?_eq_some_iff {start stop : Nat} {cs inside : List Char} :
    slice? start stop cs = some inside ↔ ∃ before after, cs = before ++ (inside ++ after) ∧
      start = byteLength before ∧ stop = start + byteLength inside := by
  unfold slice?
  constructor
  · intro sliced
    split at sliced
    next fits =>
      cases sliced
      refine ⟨takeBytes start cs, dropBytes (stop - start) (dropBytes start cs), ?_, fits.1.symm,
        fits.2.symm⟩
      rw [takeBytes_append_dropBytes, takeBytes_append_dropBytes]
    next => cases sliced
  · rintro ⟨before, after, rfl, rfl, rfl⟩
    simp only [Nat.add_sub_cancel_left, dropBytes_byteLength_append, takeBytes_byteLength_append,
      and_self, ↓reduceIte]

section Slice

variable {start stop : Nat} {cs front inside : List Char}

/-- Past some characters of a slice is the rest of it. -/
theorem slice?_advance (sliced : slice? start stop cs = some (front ++ inside)) :
    slice? (start + byteLength front) stop cs = some inside := by
  obtain ⟨before, after, split, starts, stops⟩ := slice?_eq_some_iff.mp sliced
  refine slice?_eq_some_iff.mpr ⟨before ++ front, after, ?_, ?_, ?_⟩
  · simp only [split, List.append_assoc]
  · rw [byteLength_append, starts]
  · rw [stops, byteLength_append, Nat.add_assoc]

/-- The characters passed are a slice of their own. -/
theorem slice?_passed (sliced : slice? start stop cs = some (front ++ inside)) :
    slice? start (start + byteLength front) cs = some front := by
  obtain ⟨before, after, split, starts, stops⟩ := slice?_eq_some_iff.mp sliced
  exact slice?_eq_some_iff.mpr ⟨before, inside ++ after, by rw [split, List.append_assoc], starts, rfl⟩

theorem byteLength_singleton (c : Char) : byteLength [c] = c.utf8Size :=
  Nat.add_zero _

theorem slice?_whole (cs : List Char) : slice? 0 (byteLength cs) cs = some cs :=
  slice?_eq_some_iff.mpr ⟨[], [], by simp, rfl, (Nat.zero_add _).symm⟩

end Slice

end Text

/-! ## The scanner -/

/-- What a token says, and where it stands. -/
def Token.bare (token : Token) : TokenKind × Span :=
  (token.kind, token.span)

/-- A computation at a position, which it moves on unless it fails. -/
abbrev Scanner := StateT Nat (ExceptT ParseError Option)

namespace Scanner

/-- Take a turn, and another one for as long as it says to go on. -/
def loop (turn : Scanner Bool) : Scanner Unit := do
  if ← turn then turn |>.loop else return ()
partial_fixpoint

/-- Take turns until one finds nothing more, and put together what they find. -/
def collect {α : Type} (turn : Scanner (Option (List α))) : Scanner (List α) := do
  match ← turn with
  | none => return []
  | some found => return found ++ (← turn |>.collect)
partial_fixpoint

section Steps

variable (source : List Char) (stop : Nat)

/-- The character ahead. -/
def peek : Scanner (Option Char) := do
  return (← liftM (Text.slice? (← get) stop source)).head?

/-- The character so many characters ahead. -/
def peekAt (offset : Nat) : Scanner (Option Char) := do
  return (← liftM (Text.slice? (← get) stop source))[offset]?

/-- The characters from a position up to the present one. -/
def image (start : Nat) : Scanner (List Char) := do
  liftM (Text.slice? start (← get) source)

/-- Pass the character ahead. -/
def bump : Scanner (Option Char) := do
  match ← peek source stop with
  | none => return none
  | some c => do
    modify (· + c.utf8Size)
    return some c

/-- Pass the character ahead if it is the given one. -/
def eat (expected : Char) : Scanner Bool := do
  if (← peek source stop) = some expected then do
    modify (· + expected.utf8Size)
    return true
  else return false

/-- Pass the digits ahead. -/
def eatDigits : Scanner Unit :=
  loop do
    if (← peek source stop).any Char.isDigit then do
      modify (· + 1)
      return true
    else return false

/-- Pass a point and the digits after it, if there are any. -/
def eatFraction : Scanner Unit := do
  if (← peek source stop) = some '.' then do
    if (← peekAt source stop 1).any Char.isDigit then do
      modify (· + 1)
      eatDigits source stop
    else return ()
  else return ()

/-- Pass a sign, if there is one. -/
def eatSign : Scanner Unit := do
  if (← peek source stop).any fun c => c = '+' ∨ c = '-' then modify (· + 1) else return ()

/-- Pass an exponent, and go back if it has no digits. -/
def eatExponent : Scanner Unit := do
  if (← peek source stop).any fun c => c = 'e' ∨ c = 'E' then do
    let save ← get
    modify (· + 1)
    eatSign source stop
    if (← peek source stop).any Char.isDigit then eatDigits source stop else set save
  else return ()

/-- Pass a number. -/
def eatNumber : Scanner Unit := do
  eatDigits source stop
  eatFraction source stop
  eatExponent source stop

/-- Read a number. -/
def number : Scanner TokenKind := do
  let start ← get
  eatNumber source stop
  let text ← image source start
  match Number.read? text with
  | some x => return .number x
  | none => throw (.invalidNumber (String.ofList text) start)

/-- Pass the rest of a string literal, whose opening quote is at a position. -/
def eatString (quote : Char) (start : Nat) : Scanner Unit :=
  loop do
    match ← bump source stop with
    | none => throw (.unterminatedString start)
    | some c =>
      if c = '\\' then do
        match ← bump source stop with
        | none => throw (.unterminatedString start)
        | some _ => return true
      else return c ≠ quote

/-- Read a string literal. -/
def string (quote : Char) : Scanner TokenKind := do
  let start ← get
  let _ ← bump source stop
  eatString source stop quote start
  match Text.unquote? (← image source start) with
  | some s => return .str (String.ofList s)
  | none => throw (.unterminatedString start)

/-- Pass the characters of a name. -/
def eatWord : Scanner Unit :=
  loop do
    if (← peek source stop).any Lexer.isNamePart then do
      let _ ← bump source stop
      return true
    else return false

/-- Read a word. -/
def word : Scanner TokenKind := do
  let start ← get
  let _ ← bump source stop
  eatWord source stop
  return Lexer.wordKind (String.ofList (← image source start))

/-- Read a mark, which starts with the given character. -/
def symbol (c : Char) : Scanner TokenKind := do
  let pos ← get
  let _ ← bump source stop
  match c with
  | '=' => if ← eat source stop '=' then return .mark .equal else return .mark .assign
  | '!' => if ← eat source stop '=' then return .mark .notEqual else return .mark .not
  | '<' => if ← eat source stop '=' then return .mark .atMost else return .mark .less
  | '>' => if ← eat source stop '=' then return .mark .atLeast else return .mark .greater
  | '&' => if ← eat source stop '&' then return .mark .and else throw (.unexpectedChar c pos)
  | '|' => if ← eat source stop '|' then return .mark .or else throw (.unexpectedChar c pos)
  | '+' => if ← eat source stop '=' then return .mark .plusAssign else return .mark .plus
  | '-' => if ← eat source stop '>' then return .mark .arrow else return .mark .minus
  | '*' => return .mark .star
  | '/' => return .mark .slash
  | '%' => return .mark .percent
  | '?' => return .mark .question
  | ':' => return .mark .colon
  | ',' => return .mark .comma
  | '.' => return .mark .dot
  | '(' => return .mark .openParen
  | ')' => return .mark .closeParen
  | '[' => return .mark .openBracket
  | ']' => return .mark .closeBracket
  | other => throw (.unexpectedChar other pos)

/-- Whether a word starts with the given character ahead. -/
def startsWord (c : Char) : Scanner Bool := do
  if Text.isAlphabetic c || c == '_' then return true
  else if c = '$' then
    return (← peekAt source stop 1).any fun next => Text.isAlphanumeric next || next == '_'
  else return false

/-- Read a token that starts with the given character. -/
def token (c : Char) : Scanner TokenKind := do
  if c.isDigit then number source stop
  else if Text.isQuote c then string source stop c
  else if ← startsWord source stop c then word source stop
  else symbol source stop c

/-- Read tokens up to the end of the range. -/
def run : Scanner (List (TokenKind × Span)) :=
  collect do
    match ← peek source stop with
    | none => return none
    | some c =>
      if Text.isBlank c then do
        modify (· + c.utf8Size)
        return some []
      else do
        let start ← get
        let kind ← token source stop c
        return some [(kind, ⟨start, ← get⟩)]

end Steps

/-- What the tokens of a range of a text say, and where they stand. -/
def scan (source : List Char) (start stop : Nat) :
    ExceptT ParseError Option (List (TokenKind × Span)) :=
  (run source stop).run' start

/-! ## Steps -/

section Runs

variable {α β : Type}

theorem bind_apply (first : Scanner α) (next : α → Scanner β) (pos : Nat) :
    (first >>= next) pos = first pos >>= fun r => next r.1 r.2 := rfl

theorem get_apply (pos : Nat) : (get : Scanner Nat) pos = settled (.ok (pos, pos)) := rfl

theorem set_apply (pos' pos : Nat) : (set pos' : Scanner Unit) pos = settled (.ok ((), pos')) := rfl

theorem modify_apply (f : Nat → Nat) (pos : Nat) :
    (modify f : Scanner Unit) pos = settled (.ok ((), f pos)) := rfl

theorem pure_apply (a : α) (pos : Nat) : (pure a : Scanner α) pos = settled (.ok (a, pos)) := rfl

theorem if_apply (p : Prop) [Decidable p] (first second : Scanner α) (pos : Nat) :
    (if p then first else second) pos = if p then first pos else second pos :=
  apply_ite (fun scanner : Scanner α => scanner pos) p first second

theorem lift_apply (a : α) (pos : Nat) :
    (liftM (some a) : Scanner α) pos = settled (.ok (a, pos)) := rfl

theorem loop_apply (turn : Scanner Bool) (pos : Nat) :
    turn.loop pos = turn pos >>= fun r =>
      if r.1 then turn.loop r.2 else settled (.ok ((), r.2)) := by
  conv_lhs => rw [loop, bind_apply]
  simp only [if_apply, pure_apply]

theorem collect_apply (turn : Scanner (Option (List α))) (pos : Nat) :
    turn.collect pos = turn pos >>= fun r =>
      match r.1 with
      | none => settled (.ok ([], r.2))
      | some found => turn.collect r.2 >>= fun rest => settled (.ok (found ++ rest.1, rest.2)) := by
  conv_lhs => rw [collect, bind_apply]
  refine bind_congr fun r => ?_
  obtain ⟨found, pos'⟩ := r
  cases found <;> rfl

end Runs

section Passing

variable {source : List Char} {start stop pos : Nat} {c : Char} {cs front : List Char}

theorem slice?_tail (ahead : Text.slice? pos stop source = some (c :: cs)) :
    Text.slice? (pos + c.utf8Size) stop source = some cs := by
  rw [← Text.byteLength_singleton c]
  exact Text.slice?_advance ahead

theorem slice?_drop (ahead : Text.slice? pos stop source = some cs) (n : Nat) :
    Text.slice? (pos + Text.byteLength (cs.take n)) stop source = some (cs.drop n) := by
  rw [← List.take_append_drop n cs] at ahead
  exact Text.slice?_advance ahead

theorem peek_apply (ahead : Text.slice? pos stop source = some cs) :
    peek source stop pos = settled (.ok (cs.head?, pos)) := by
  simp only [peek, bind_apply, get_apply, settled_ok_bind, ahead, lift_apply, pure_apply]

theorem peekAt_apply (ahead : Text.slice? pos stop source = some cs) (offset : Nat) :
    peekAt source stop offset pos = settled (.ok (cs[offset]?, pos)) := by
  simp only [peekAt, bind_apply, get_apply, settled_ok_bind, ahead, lift_apply, pure_apply]

theorem bump_apply_nil (ahead : Text.slice? pos stop source = some []) :
    bump source stop pos = settled (.ok (none, pos)) := by
  simp only [bump, bind_apply, peek_apply ahead, settled_ok_bind, List.head?_nil, pure_apply]

theorem bump_apply_cons (ahead : Text.slice? pos stop source = some (c :: cs)) :
    bump source stop pos = settled (.ok (some c, pos + c.utf8Size)) := by
  simp only [bump, bind_apply, peek_apply ahead, settled_ok_bind, List.head?_cons, modify_apply,
    pure_apply]

theorem eat_apply (ahead : Text.slice? pos stop source = some cs) (expected : Char) :
    eat source stop expected pos = settled (.ok
      (if cs.head? = some expected then (true, pos + expected.utf8Size) else (false, pos))) := by
  simp only [eat, bind_apply, peek_apply ahead, settled_ok_bind]
  split
  · simp only [bind_apply, modify_apply, settled_ok_bind, pure_apply]
  · rw [pure_apply]

theorem image_apply (ahead : Text.slice? start stop source = some cs) (n : Nat) :
    image source start (start + Text.byteLength (cs.take n)) =
      settled (.ok (cs.take n, start + Text.byteLength (cs.take n))) := by
  rw [← List.take_append_drop n cs] at ahead
  simp only [image, bind_apply, get_apply, settled_ok_bind, Text.slice?_passed ahead, lift_apply]

end Passing

/-- A step passes as many characters as are counted in what is ahead. -/
def Passes (source : List Char) (stop : Nat) (step : Scanner Unit) (count : List Char → Nat) : Prop :=
  ∀ pos cs, Text.slice? pos stop source = some cs →
    step pos = settled (.ok ((), pos + Text.byteLength (cs.take (count cs))))

theorem byteLength_take_add (cs : List Char) (m n : Nat) :
    Text.byteLength (cs.take (m + n)) =
      Text.byteLength (cs.take m) + Text.byteLength ((cs.drop m).take n) := by
  rw [List.take_add, Text.byteLength_append]

theorem utf8Size_of_isDigit {c : Char} (digit : c.isDigit = true) : c.utf8Size = 1 := by
  simp only [Char.isDigit, Bool.and_eq_true, decide_eq_true_eq] at digit
  exact Char.utf8Size_eq_one_iff.mpr (UInt32.le_trans digit.2 (by decide))

theorem digitRun_ne_zero_iff (cs : List Char) :
    Lexer.digitRun cs ≠ 0 ↔ cs.head?.any Char.isDigit = true := by
  cases cs with
  | nil => simp [Lexer.digitRun]
  | cons c cs => cases digit : c.isDigit <;> simp [Lexer.digitRun, digit]

namespace Passes

variable {source : List Char} {stop : Nat}

theorem andThen {first second : Scanner Unit} {count count' : List Char → Nat}
    (passes : Passes source stop first count) (passes' : Passes source stop second count') :
    Passes source stop (first >>= fun _ => second)
      fun cs => count cs + count' (cs.drop (count cs)) := by
  intro pos cs ahead
  rw [bind_apply, passes pos cs ahead, settled_ok_bind, passes' _ _ (slice?_drop ahead _),
    byteLength_take_add, Nat.add_assoc]

/-- A loop whose turns pass one character each, for as long as the character ahead is like this. -/
theorem loop {turn : Scanner Bool} {p : Char → Bool}
    (goesOn : ∀ pos c cs, Text.slice? pos stop source = some (c :: cs) → p c = true →
      turn pos = settled (.ok (true, pos + c.utf8Size)))
    (stops : ∀ pos cs, Text.slice? pos stop source = some cs → cs.head?.any p = false →
      turn pos = settled (.ok (false, pos))) :
    Passes source stop turn.loop fun cs => (cs.takeWhile p).length := by
  intro pos cs ahead
  induction cs generalizing pos with
  | nil =>
    rw [loop_apply, stops pos [] ahead rfl]
    rfl
  | cons c cs ih =>
    cases holds : p c with
    | true =>
      rw [loop_apply, goesOn pos c cs ahead holds]
      simp only [settled_ok_bind, ↓reduceIte, ih _ (slice?_tail ahead),
        List.takeWhile_cons_of_pos holds, List.length_cons, List.take_succ_cons, Text.byteLength_cons,
        Nat.add_assoc]
    | false =>
      rw [loop_apply, stops pos (c :: cs) ahead holds]
      simp only [List.takeWhile_cons, holds]
      rfl

theorem eatDigits : Passes source stop (eatDigits source stop) Lexer.digitRun := by
  refine loop (fun pos c cs ahead digit => ?_) fun pos cs ahead noDigit => ?_
  · simp only [bind_apply, peek_apply ahead, settled_ok_bind, List.head?_cons, Option.any_some, digit,
      ↓reduceIte, modify_apply, pure_apply, utf8Size_of_isDigit digit]
  · simp only [bind_apply, peek_apply ahead, settled_ok_bind, noDigit, Bool.false_eq_true, ↓reduceIte,
      pure_apply]

theorem eatFraction : Passes source stop (eatFraction source stop) Lexer.fractionRun := by
  intro pos cs ahead
  simp only [Scanner.eatFraction, bind_apply, peek_apply ahead, settled_ok_bind]
  by_cases point : cs.head? = some '.'
  · obtain ⟨cs, rfl⟩ := List.head?_eq_some_iff.mp point
    simp only [↓reduceIte, List.head?_cons, bind_apply, peekAt_apply ahead, settled_ok_bind,
      List.getElem?_cons_succ, ← List.head?_eq_getElem?, ← digitRun_ne_zero_iff, Lexer.fractionRun]
    by_cases none : Lexer.digitRun cs = 0
    · simp only [none, ne_eq, not_true_eq_false, ↓reduceIte]
      rfl
    · have passed := eatDigits _ _ (slice?_tail ahead)
      simp only [none, ne_eq, not_false_eq_true, ↓reduceIte, bind_apply, modify_apply,
        settled_ok_bind, byteLength_take_add]
      exact passed.trans (by rw [Nat.add_assoc]; rfl)
  · have none : Lexer.fractionRun cs = 0 := by
      cases cs with
      | nil => rfl
      | cons c cs => exact Lexer.fractionRun_eq_zero fun same => point (congrArg some same)
    rw [none, if_neg point]
    rfl

theorem eatSign : Passes source stop (eatSign source stop) Lexer.signRun := by
  intro pos cs ahead
  cases cs with
  | nil =>
    simp only [Scanner.eatSign, bind_apply, peek_apply ahead, settled_ok_bind]
    rfl
  | cons c cs =>
    simp only [Scanner.eatSign, bind_apply, peek_apply ahead, settled_ok_bind, List.head?_cons,
      Option.any_some, decide_eq_true_eq, if_apply, modify_apply, Lexer.signRun]
    split
    next sign => rcases sign with rfl | rfl <;> rfl
    next => rfl

theorem eatExponent : Passes source stop (eatExponent source stop) Lexer.exponentRun := by
  intro pos cs ahead
  cases cs with
  | nil =>
    simp only [Scanner.eatExponent, bind_apply, peek_apply ahead, settled_ok_bind]
    rfl
  | cons c cs =>
    simp only [Scanner.eatExponent, bind_apply, peek_apply ahead, settled_ok_bind, List.head?_cons,
      Option.any_some, decide_eq_true_eq, if_apply, Lexer.exponentRun]
    by_cases letter : c = 'e' ∨ c = 'E'
    · have size : c.utf8Size = 1 := by rcases letter with rfl | rfl <;> rfl
      have tail := slice?_tail ahead
      rw [size] at tail
      have digits := slice?_drop tail (Lexer.signRun cs)
      simp only [letter, ↓reduceIte, get_apply, settled_ok_bind, modify_apply, eatSign _ _ tail,
        peek_apply digits, ← digitRun_ne_zero_iff, true_and, set_apply, eatDigits _ _ digits]
      split
      next => simp only [byteLength_take_add, List.take_succ_cons, List.take_zero, List.drop_succ_cons,
          List.drop_zero, Text.byteLength_singleton, size, Nat.add_assoc]
      next => rfl
    · simp only [letter, ↓reduceIte, false_and]
      rfl

theorem eatWord : Passes source stop (eatWord source stop) Lexer.wordRun := by
  refine loop (fun pos c cs ahead namePart => ?_) fun pos cs ahead noNamePart => ?_
  · simp only [bind_apply, peek_apply ahead, settled_ok_bind, List.head?_cons, Option.any_some, namePart,
      ↓reduceIte, bump_apply_cons ahead, pure_apply]
  · simp only [bind_apply, peek_apply ahead, settled_ok_bind, noNamePart, Bool.false_eq_true,
      ↓reduceIte, pure_apply]

theorem eatNumber : Passes source stop (eatNumber source stop) fun cs =>
    Lexer.digitRun cs + (Lexer.fractionRun (cs.drop (Lexer.digitRun cs)) +
      Lexer.exponentRun ((cs.drop (Lexer.digitRun cs)).drop
        (Lexer.fractionRun (cs.drop (Lexer.digitRun cs))))) :=
  eatDigits.andThen (eatFraction.andThen eatExponent)

end Passes

/-! ## Tokens -/

section Tokens

variable {source : List Char} {start stop pos : Nat} {c : Char} {cs : List Char}

/-- What a scanner makes of a token ahead, from what the lexer makes of it. -/
def outcome (pos : Nat) (c : Char) (cs : List Char) (lexeme : Except ParseError (TokenKind × Nat)) :
    ExceptT ParseError Option (TokenKind × Nat) :=
  settled (lexeme.map fun r => (r.1, pos + Text.byteLength (c :: cs.take r.2)))

theorem image_apply_cons (ahead : Text.slice? start stop source = some (c :: cs)) (n : Nat) :
    image source start (start + Text.byteLength (c :: cs.take n)) =
      settled (.ok (c :: cs.take n, start + Text.byteLength (c :: cs.take n))) :=
  image_apply ahead (n + 1)

theorem eatNumber_apply (ahead : Text.slice? pos stop source = some (c :: cs))
    (digit : c.isDigit = true) :
    eatNumber source stop pos =
      settled (.ok ((), pos + Text.byteLength (c :: cs.take (Lexer.numberRun cs)))) := by
  have first : Lexer.digitRun (c :: cs) = Lexer.digitRun cs + 1 := by
    simp only [Lexer.digitRun, List.takeWhile_cons_of_pos digit, List.length_cons]
  have passed := Passes.eatNumber pos _ ahead
  simp only [first, List.drop_succ_cons, List.drop_drop, Nat.add_right_comm _ 1,
    List.take_succ_cons] at passed
  simpa only [Lexer.numberRun, Nat.add_assoc] using passed

theorem number_apply (ahead : Text.slice? pos stop source = some (c :: cs)) (digit : c.isDigit = true) :
    number source stop pos = outcome pos c cs (Lexer.lexeme pos c cs) := by
  simp only [number, bind_apply, get_apply, settled_ok_bind, eatNumber_apply ahead digit,
    image_apply_cons ahead, Lexer.lexeme, digit, ↓reduceIte]
  cases Number.read? _ <;> rfl

theorem eatString_turn (quote : Char) :
    eatString source stop quote start pos = bump source stop pos >>= fun r =>
      match r.1 with
      | none => settled (.error (.unterminatedString start))
      | some c =>
        if c = '\\' then bump source stop r.2 >>= fun hidden =>
          match hidden.1 with
          | none => settled (.error (.unterminatedString start))
          | some _ => eatString source stop quote start hidden.2
        else if c = quote then settled (.ok ((), r.2))
        else eatString source stop quote start r.2 := by
  conv_lhs => rw [eatString, loop_apply, ← eatString, bind_apply, bind_assoc]
  refine bind_congr fun r => ?_
  obtain ⟨ahead, next⟩ := r
  cases ahead with
  | none => rfl
  | some c =>
    by_cases escape : c = '\\'
    · simp only [escape, ↓reduceIte, bind_apply, bind_assoc]
      refine bind_congr fun hidden => ?_
      cases hidden.1 <;> rfl
    · by_cases isQuote : c = quote
      · subst isQuote
        simp [escape, pure_apply, settled_ok_bind]
      · simp [escape, isQuote, pure_apply, settled_ok_bind]

theorem eatString_apply {quote : Char} (noEscape : quote ≠ '\\')
    (ahead : Text.slice? pos stop source = some cs) :
    eatString source stop quote start pos =
      match Lexer.stringRun? quote cs with
      | some length => settled (.ok ((), pos + Text.byteLength (cs.take length)))
      | none => settled (.error (.unterminatedString start)) := by
  induction cs using Lexer.stringRun?.induct quote generalizing pos with
  | case1 c cs ih =>
    have tail := slice?_tail ahead
    rw [eatString_turn]
    simp only [bump_apply_cons ahead, settled_ok_bind, ↓reduceIte, bump_apply_cons tail,
      ih (slice?_tail tail), Lexer.stringRun?]
    cases Lexer.stringRun? quote cs with
    | none => rfl
    | some length =>
      simp only [Option.map_some, List.take_succ_cons, Text.byteLength_cons, Nat.add_assoc]
  | case2 cs noBackslash =>
    rw [eatString_turn, Lexer.stringRun?.eq_2 _ _ _ noBackslash, if_pos rfl]
    simp only [bump_apply_cons ahead, settled_ok_bind, noEscape, ↓reduceIte]
    rfl
  | case3 c cs noBackslash differs ih =>
    rw [eatString_turn, Lexer.stringRun?.eq_2 _ _ _ noBackslash, if_neg differs]
    simp only [bump_apply_cons ahead, settled_ok_bind, differs, ↓reduceIte]
    split
    next backslash =>
      -- A backslash that hides nothing is the last character.
      obtain rfl : cs = [] := by
        cases cs with
        | nil => rfl
        | cons d cs => exact absurd rfl (noBackslash d cs backslash)
      simp only [bump_apply_nil (slice?_tail ahead), settled_ok_bind]
      rfl
    next =>
      rw [ih (slice?_tail ahead)]
      cases Lexer.stringRun? quote cs with
      | none => rfl
      | some length =>
        simp only [Option.map_some, List.take_succ_cons, Text.byteLength_cons, Nat.add_assoc]
  | case4 =>
    rw [eatString_turn]
    simp only [bump_apply_nil ahead, settled_ok_bind]
    rfl

theorem string_apply (ahead : Text.slice? pos stop source = some (c :: cs))
    (noDigit : c.isDigit = false) (quote : Text.isQuote c = true) :
    string source stop c pos = outcome pos c cs (Lexer.lexeme pos c cs) := by
  have noEscape := Lexer.ne_backslash_of_isQuote quote
  simp only [string, bind_apply, get_apply, settled_ok_bind, bump_apply_cons ahead,
    eatString_apply noEscape (slice?_tail ahead), Lexer.lexeme, noDigit, quote, Bool.false_eq_true,
    ↓reduceIte]
  cases run : Lexer.stringRun? c cs with
  | none => rfl
  | some length =>
    have last := (Lexer.stringRun?_append noEscape run []).2.2
    have text := image_apply_cons ahead length
    rw [Text.byteLength_cons, ← Nat.add_assoc] at text
    have unquoted :
        Text.unquote? (c :: cs.take length) = some (Text.unescape (cs.take length).dropLast) := by
      simp only [Text.unquote?, quote, last, BEq.rfl, Bool.and_self, ↓reduceIte]
    simp only [settled_ok_bind, text, unquoted]
    simp only [pure_apply, outcome, Except.map, Text.byteLength_cons, Nat.add_assoc]

theorem startsWord_apply (ahead : Text.slice? pos stop source = some (c :: cs)) :
    startsWord source stop c pos = settled (.ok (Lexer.startsName c cs, pos)) := by
  simp only [startsWord, Lexer.startsName, if_apply, bind_apply, peekAt_apply ahead, settled_ok_bind,
    List.getElem?_cons_succ, ← List.head?_eq_getElem?]
  split
  next letter =>
    rw [letter]
    rfl
  next noLetter =>
    rw [Bool.not_eq_true] at noLetter
    rw [noLetter]
    split
    next dollar => subst dollar; rfl
    next noDollar =>
      rw [beq_eq_false_iff_ne.mpr noDollar]
      rfl

theorem word_apply (ahead : Text.slice? pos stop source = some (c :: cs))
    (noDigit : c.isDigit = false) (noQuote : Text.isQuote c = false)
    (starts : Lexer.startsName c cs = true) :
    word source stop pos = outcome pos c cs (Lexer.lexeme pos c cs) := by
  have passed := Passes.eatWord _ _ (slice?_tail ahead)
  have text := image_apply_cons ahead (Lexer.wordRun cs)
  rw [Text.byteLength_cons, ← Nat.add_assoc] at text
  simp only [word, bind_apply, get_apply, settled_ok_bind, bump_apply_cons ahead, passed, text,
    pure_apply, Lexer.lexeme, noDigit, noQuote, starts, Bool.false_eq_true, ↓reduceIte, outcome,
    Text.byteLength_cons, ← Nat.add_assoc]
  rfl

/-- The symbols that start with a character. -/
def startingWith (c : Char) : List (List Char × Mark) :=
  Lexer.symbols.filter fun entry => some c = entry.1.head?

theorem symbol?_eq_startingWith (c : Char) (cs : List Char) :
    Lexer.symbol? (c :: cs) = ((startingWith c).find? fun entry => entry.1.isPrefixOf (c :: cs)).map
      fun entry => (entry.2, entry.1.length) := by
  have nonempty : ∀ entry ∈ Lexer.symbols, entry.1 ≠ [] := by decide
  rw [Lexer.symbol?, startingWith, List.find?_filter]
  congr 1
  refine List.find?_congr fun entry member => ?_
  obtain ⟨d, symbol, split⟩ := List.exists_cons_of_ne_nil (nonempty entry member)
  rw [split, List.head?_cons]
  by_cases same : c = d
  · simp only [same, List.isPrefixOf, BEq.rfl, Bool.true_and, decide_true, true_and,
      Bool.decide_eq_true]
  · simp [same, List.isPrefixOf, Ne.symm same]

section Symbols

variable {d : Char} {both single : Mark}

theorem isPrefixOf_pair (c d : Char) (cs : List Char) :
    [c, d].isPrefixOf (c :: cs) = decide (cs.head? = some d) := by
  cases cs with
  | nil => simp [List.isPrefixOf]
  | cons e cs =>
    by_cases same : e = d
    · simp [List.isPrefixOf, same]
    · simp [List.isPrefixOf, same, Ne.symm same]

theorem symbol?_pair (starting : startingWith c = [([c, d], both), ([c], single)]) :
    Lexer.symbol? (c :: cs) = if cs.head? = some d then some (both, 2) else some (single, 1) := by
  rw [symbol?_eq_startingWith, starting, List.find?_cons, isPrefixOf_pair]
  by_cases next : cs.head? = some d
  · simp [next]
  · simp [next]

theorem symbol?_double (starting : startingWith c = [([c, d], both)]) :
    Lexer.symbol? (c :: cs) = if cs.head? = some d then some (both, 2) else none := by
  rw [symbol?_eq_startingWith, starting, List.find?_cons, isPrefixOf_pair]
  by_cases next : cs.head? = some d
  · simp [next]
  · simp [next]

theorem eat_branch (tail : Text.slice? (pos + c.utf8Size) stop source = some cs) (d : Char)
    (yes no : Scanner TokenKind) :
    (do if ← eat source stop d then yes else no) (pos + c.utf8Size) =
      if cs.head? = some d then yes (pos + Text.byteLength (c :: cs.take 1))
      else no (pos + c.utf8Size) := by
  simp only [bind_apply, eat_apply tail, settled_ok_bind]
  split
  next ahead =>
    obtain ⟨cs, rfl⟩ := List.head?_eq_some_iff.mp ahead
    simp only [↓reduceIte, List.take_succ_cons, List.take_zero, Text.byteLength_cons,
      Text.byteLength_nil, Nat.add_assoc, Nat.add_zero]
  next => rfl

end Symbols

theorem symbol_apply (ahead : Text.slice? pos stop source = some (c :: cs))
    (noDigit : c.isDigit = false) (noQuote : Text.isQuote c = false)
    (noWord : Lexer.startsName c cs = false) :
    symbol source stop c pos = outcome pos c cs (Lexer.lexeme pos c cs) := by
  have branch (d : Char) (yes no : Scanner TokenKind) :=
    eat_branch (slice?_tail ahead) d yes no
  simp only [symbol, bind_apply, get_apply, settled_ok_bind, bump_apply_cons ahead, Lexer.lexeme,
    noDigit, noQuote, noWord, Bool.false_eq_true, ↓reduceIte]
  split
  case h_1 | h_2 | h_3 | h_4 | h_7 | h_8 =>
    rw [branch, symbol?_pair rfl]
    split <;> rfl
  case h_5 | h_6 =>
    rw [branch, symbol?_double rfl]
    split <;> rfl
  case h_20 =>
    have none : startingWith c = [] := by
      simp only [startingWith, Lexer.symbols, List.filter_eq_nil_iff, List.forall_mem_cons,
        List.head?_cons, Option.some.injEq, decide_eq_true_eq]
      and_intros <;> first | assumption | exact List.forall_mem_nil _
    rw [symbol?_eq_startingWith, none]
    rfl
  all_goals rfl

theorem token_apply (ahead : Text.slice? pos stop source = some (c :: cs)) :
    token source stop c pos = outcome pos c cs (Lexer.lexeme pos c cs) := by
  unfold token
  split
  next digit => exact number_apply ahead digit
  next noDigit =>
    rw [Bool.not_eq_true] at noDigit
    split
    next quote => exact string_apply ahead noDigit quote
    next noQuote =>
      rw [Bool.not_eq_true] at noQuote
      simp only [bind_apply, startsWord_apply ahead, settled_ok_bind]
      split
      next starts => exact word_apply ahead noDigit noQuote starts
      next noWord =>
        rw [Bool.not_eq_true] at noWord
        exact symbol_apply ahead noDigit noQuote noWord

end Tokens

/-! ## Ranges -/

section Ranges

variable {source : List Char} {start stop pos : Nat} {c : Char} {cs : List Char}

theorem run_turn (source : List Char) (stop pos : Nat) :
    run source stop pos = peek source stop pos >>= fun r =>
      match r.1 with
      | none => settled (.ok ([], r.2))
      | some c =>
        if Text.isBlank c then run source stop (r.2 + c.utf8Size)
        else token source stop c r.2 >>= fun kind => run source stop kind.2 >>= fun rest =>
          settled (.ok ((kind.1, ⟨r.2, kind.2⟩) :: rest.1, rest.2)) := by
  conv_lhs => rw [run, collect_apply, ← run, bind_apply, bind_assoc]
  refine bind_congr fun r => ?_
  obtain ⟨ahead, next⟩ := r
  cases ahead with
  | none => rfl
  | some c =>
    cases blank : Text.isBlank c with
    | true =>
      simp only [blank, ↓reduceIte, bind_apply, modify_apply, settled_ok_bind, pure_apply,
        List.nil_append]
      exact bind_pure _
    | false =>
      simp only [blank, Bool.false_eq_true, ↓reduceIte, bind_apply, get_apply, settled_ok_bind,
        pure_apply, bind_assoc, List.singleton_append]

theorem run_apply_cons (ahead : Text.slice? pos stop source = some (c :: cs))
    (visible : ¬ Text.isBlank c = true) :
    run source stop pos = outcome pos c cs (Lexer.lexeme pos c cs) >>= fun r =>
      run source stop r.2 >>= fun rest => settled (.ok ((r.1, ⟨pos, r.2⟩) :: rest.1, rest.2)) := by
  conv_lhs => rw [run_turn]
  simp only [peek_apply ahead, settled_ok_bind, List.head?_cons, visible, Bool.false_eq_true,
    ↓reduceIte, token_apply ahead]

/-- On a range of a text, the scanner comes to its end with the tokens of the characters in it. -/
theorem run_apply (ahead : Text.slice? pos stop source = some cs) :
    run source stop pos =
      settled ((Lexer.tokens pos cs).map fun ts => (ts.map Token.bare, stop)) := by
  fun_induction Lexer.tokens pos cs with
  | case1 pos =>
    obtain ⟨_, _, _, _, isStop⟩ := Text.slice?_eq_some_iff.mp ahead
    obtain rfl : stop = pos := isStop
    rw [run_turn]
    simp only [peek_apply ahead, settled_ok_bind, List.head?_nil]
    rfl
  | case2 pos c cs blank ih =>
    rw [run_turn]
    simp only [peek_apply ahead, settled_ok_bind, List.head?_cons, blank, ↓reduceIte,
      ih (slice?_tail ahead)]
  | case3 pos c cs visible e failed =>
    rw [run_apply_cons ahead visible, failed]
    rfl
  | case4 pos c cs visible kind length read text after e failed ih =>
    have rest : run source stop (pos + Text.byteLength (c :: cs.take length)) = _ :=
      ih (slice?_drop ahead (length + 1))
    rw [run_apply_cons ahead visible, read]
    simp only [outcome, Except.map, settled_ok_bind, rest, failed]
    rfl
  | case5 pos c cs visible kind length read text after ts others ih =>
    have rest : run source stop (pos + Text.byteLength (c :: cs.take length)) = _ :=
      ih (slice?_drop ahead (length + 1))
    rw [run_apply_cons ahead visible, read]
    simp only [outcome, Except.map, settled_ok_bind, rest, others]
    rfl

/-- What the scanner makes of a range of a text are the tokens of the characters in it. -/
theorem scan_eq (range : Text.slice? start stop source = some cs) :
    scan source start stop = settled ((Lexer.tokens start cs).map (List.map Token.bare)) := by
  change run source stop start >>= (fun r => pure r.1) = _
  rw [run_apply range]
  cases Lexer.tokens start cs <;> rfl

end Ranges

end Scanner

/-- The tokens of a range of a text are those of the characters in it. -/
theorem Lexer.tokensBetween_eq {text : String} {start stop : Nat} {inside : List Char}
    (range : Text.slice? start stop text.toList = some inside) :
    tokensBetween text start stop = tokens start inside := by
  obtain ⟨before, after, split, rfl, rfl⟩ := Text.slice?_eq_some_iff.mp range
  rw [tokensBetween, split, Nat.add_sub_cancel_left, Text.dropBytes_byteLength_append,
    Text.takeBytes_byteLength_append]

end TargetingRules

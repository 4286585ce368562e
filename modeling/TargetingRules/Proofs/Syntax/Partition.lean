import TargetingRules.Proofs.Syntax.Places
import TargetingRules.Proofs.Syntax.Scanning

/-!
# Tokens divide a text

The tokens of a range of a text stand in it one after the other, each on characters of its own, and
what is between them is blank. What a token says is in its own characters: it is read alike if nothing
comes before it and nothing after it, though while the lexer reads it, it looks at what comes after.
-/

namespace TargetingRules

namespace Lexer

/-! ## Lexemes on their own -/

theorem length_takeWhile_take (p : Char → Bool) (cs : List Char) (n : Nat) :
    ((cs.take n).takeWhile p).length = min n (cs.takeWhile p).length := by
  induction cs generalizing n with
  | nil => simp
  | cons c cs ih =>
    cases n with
    | zero => simp
    | succ n =>
      simp only [List.take_succ_cons, List.takeWhile_cons]
      split
      · simp only [List.length_cons, ih]
        omega
      · simp

theorem digitRun_take (cs : List Char) (n : Nat) : digitRun (cs.take n) = min n (digitRun cs) :=
  length_takeWhile_take _ cs n

theorem wordRun_take (cs : List Char) (n : Nat) : wordRun (cs.take n) = min n (wordRun cs) :=
  length_takeWhile_take _ cs n

theorem fractionRun_take {cs : List Char} {n : Nat} (enough : fractionRun cs ≤ n) :
    fractionRun (cs.take n) = fractionRun cs := by
  cases n with
  | zero => exact (Nat.le_zero.mp enough).symm
  | succ n =>
    cases cs with
    | nil => rfl
    | cons c cs =>
      by_cases point : c = '.'
      · subst point
        simp only [List.take_succ_cons, fractionRun, digitRun_take] at enough ⊢
        split at enough <;> split <;> omega
      · rw [List.take_succ_cons, fractionRun_eq_zero point, fractionRun_eq_zero point]

theorem signRun_take (cs : List Char) (n : Nat) : signRun (cs.take n) = min n (signRun cs) := by
  cases n with
  | zero => exact (Nat.zero_min _).symm
  | succ n =>
    cases cs with
    | nil => rfl
    | cons c cs =>
      simp only [List.take_succ_cons, signRun]
      split <;> omega

theorem exponentRun_take {cs : List Char} {n : Nat} (enough : exponentRun cs ≤ n) :
    exponentRun (cs.take n) = exponentRun cs := by
  cases n with
  | zero => exact (Nat.le_zero.mp enough).symm
  | succ n =>
    cases cs with
    | nil => rfl
    | cons c cs =>
      have digits : digitRun ((cs.take n).drop (min n (signRun cs))) =
          min (n - signRun cs) (digitRun (cs.drop (signRun cs))) := by
        rw [List.drop_take, digitRun_take]
        rcases Nat.le_total (signRun cs) n with inside | outside
        · rw [Nat.min_eq_right inside]
        · rw [Nat.min_eq_left outside]
          omega
      simp only [exponentRun, List.take_succ_cons, signRun_take, digits] at enough ⊢
      by_cases letter : c = 'e' ∨ c = 'E'
      · simp only [letter, true_and] at enough ⊢
        split at enough <;> split <;> omega
      · simp only [letter, false_and, ↓reduceIte]

/-- The count of the characters of a number goes by these characters alone. -/
theorem numberRun_take {cs : List Char} {n : Nat} (enough : numberRun cs ≤ n) :
    numberRun (cs.take n) = numberRun cs := by
  simp only [numberRun] at enough ⊢
  have whole : digitRun (cs.take n) = digitRun cs := by
    rw [digitRun_take]
    omega
  have fraction : fractionRun ((cs.drop (digitRun cs)).take (n - digitRun cs)) =
      fractionRun (cs.drop (digitRun cs)) := fractionRun_take (by omega)
  simp only [whole, List.drop_take, fraction]
  rw [exponentRun_take (by omega)]

theorem stringRun?_take {quote : Char} {cs : List Char} {length : Nat}
    (run : stringRun? quote cs = some length) :
    stringRun? quote (cs.take length) = some length := by
  induction cs using stringRun?.induct quote generalizing length with
  | case1 c cs ih =>
    simp only [stringRun?, Option.map_eq_some_iff] at run
    obtain ⟨shorter, run, rfl⟩ := run
    simp only [List.take_succ_cons, stringRun?, ih run, Option.map_some]
  | case2 cs noBackslash =>
    rw [stringRun?.eq_2 _ _ _ noBackslash, if_pos rfl] at run
    cases run
    rw [List.take_succ_cons, List.take_zero, stringRun?.eq_2 _ _ _ (by simp), if_pos rfl]
  | case3 c cs noBackslash differs ih =>
    rw [stringRun?.eq_2 _ _ _ noBackslash, if_neg differs, Option.map_eq_some_iff] at run
    obtain ⟨shorter, run, rfl⟩ := run
    have noBackslash' : ∀ head more, c = '\\' → cs.take shorter = head :: more → False := by
      intro head more backslash split
      cases cs with
      | nil => cases run
      | cons head' more' => exact noBackslash head' more' backslash rfl
    rw [List.take_succ_cons, stringRun?.eq_2 _ _ _ noBackslash', if_neg differs, ih run,
      Option.map_some]
  | case4 => cases run

theorem startsName_take (c : Char) (cs : List Char) (n : Nat) (starts : startsName c (cs.take n) = true) :
    startsName c cs = true := by
  cases n with
  | zero =>
    simp only [startsName, List.take_zero, List.head?_nil, Option.any_none, Bool.and_false,
      Bool.or_false] at starts ⊢
    rw [starts, Bool.true_or]
  | succ n =>
    cases cs with
    | nil => exact starts
    | cons d cs => exact starts

theorem startsName_take_wordRun {c : Char} {cs : List Char} (starts : startsName c cs = true) :
    startsName c (cs.take (wordRun cs)) = true := by
  cases cs with
  | nil => exact starts
  | cons d cs =>
    simp only [wordRun, List.takeWhile_cons]
    split
    next => exact starts
    next noPart =>
      simp only [isNamePart, Bool.or_eq_true, not_or, Bool.not_eq_true] at noPart
      simpa only [startsName, List.head?_cons, Option.any_some, noPart, Bool.or_self, Bool.and_false,
        List.length_nil, List.take_zero, List.head?_nil, Option.any_none] using starts

theorem symbol?_take {cs : List Char} {mark : Mark} {length : Nat}
    (found : symbol? cs = some (mark, length)) : symbol? (cs.take length) = some (mark, length) := by
  have each : ∀ entry ∈ symbols, symbol? entry.1 = some (entry.2, entry.1.length) := by decide
  obtain ⟨symbol, member, ⟨after, rfl⟩, rfl⟩ := symbol?_eq_some found
  rw [List.take_left]
  exact each _ member

theorem symbol?_length_pos {cs : List Char} {mark : Mark} {length : Nat}
    (found : symbol? cs = some (mark, length)) : 0 < length := by
  have each : ∀ entry ∈ symbols, 0 < entry.1.length := by decide
  obtain ⟨symbol, member, _, rfl⟩ := symbol?_eq_some found
  exact each _ member

/-- A lexeme is the same if nothing follows. -/
theorem IsLexeme.take {c : Char} {cs : List Char} {kind : TokenKind} {length : Nat}
    (isLexeme : IsLexeme c cs kind length) : IsLexeme c (cs.take length) kind length := by
  have all : (cs.take length).take length = cs.take length := List.take_of_length_le (List.length_take_le _ _)
  cases isLexeme with
  | number digit read =>
    have same := numberRun_take (Nat.le_refl (numberRun cs))
    have alone : IsLexeme c (cs.take (numberRun cs)) _ _ := .number digit (by rwa [same, all])
    rwa [same] at alone
  | string noDigit quote run =>
    have alone := IsLexeme.string noDigit quote (stringRun?_take run)
    rwa [all] at alone
  | word noDigit noQuote starts =>
    have same : wordRun (cs.take (wordRun cs)) = wordRun cs := by rw [wordRun_take, Nat.min_self]
    have alone := IsLexeme.word noDigit noQuote (startsName_take_wordRun starts)
    rwa [same, all] at alone
  | @symbol mark length noDigit noQuote noWord found =>
    obtain ⟨n, rfl⟩ := Nat.exists_eq_add_one.mpr (symbol?_length_pos found)
    rw [Nat.add_sub_cancel]
    refine .symbol noDigit noQuote ?_ (symbol?_take found)
    exact Bool.eq_false_iff.mpr fun starts =>
      Bool.eq_false_iff.mp noWord (startsName_take c cs n starts)

/-! ## Tokens in their text -/

/-- A text of a single lexeme is one token, wherever the lexeme has been found. -/
theorem IsLexeme.lexes {c : Char} {cs : List Char} {kind : TokenKind} {length : Nat}
    (isLexeme : IsLexeme c cs kind length) (visible : Text.isBlank c = false) :
    Lexes (String.ofList (c :: cs.take length)) kind := by
  have all : (cs.take length).take length = cs.take length :=
    List.take_of_length_le (List.length_take_le _ _)
  have nothing : (cs.take length).drop length = [] :=
    List.drop_eq_nil_of_le (List.length_take_le _ _)
  have rest (stop : Nat) : Splits stop ((cs.take length).drop length) [] := by
    rw [nothing]
    exact .nil
  have alone : Splits 0 (c :: cs.take length) _ := .lexeme visible isLexeme.take rfl (rest _)
  rw [all, Nat.zero_add] at alone
  rw [Lexes, String.toList_ofList]
  exact tokens_of_splits alone

theorem Splits.lexes {pos : Nat} {cs : List Char} {ts : List Token} (splits : Splits pos cs ts) :
    ∀ token ∈ ts, Lexes token.text token.kind := by
  induction splits with
  | nil => simp
  | blank blank rest ih => exact ih
  | lexeme visible isLexeme isStop rest ih =>
    simp only [List.forall_mem_cons]
    exact ⟨isLexeme.lexes visible, ih⟩

/-- A token covers a character that so many bytes of the text come before. -/
def Covers (token : Token) (pos : Nat) (c : Char) : Prop :=
  token.span.start ≤ pos ∧ pos + c.utf8Size ≤ token.span.stop

/-- A character that is not blank is in a token. -/
theorem Splits.covers {pos : Nat} {cs : List Char} {ts : List Token} (splits : Splits pos cs ts)
    {before after : List Char} {c : Char} (split : cs = before ++ c :: after)
    (visible : Text.isBlank c = false) : ∃ token ∈ ts, Covers token (pos + Text.byteLength before) c := by
  induction splits generalizing before with
  | nil => cases before <;> cases split
  | @blank pos d cs ts blank rest ih =>
    cases before with
    | nil =>
      cases split
      rw [blank] at visible
      cases visible
    | cons e before =>
      cases split
      obtain ⟨token, member, covers⟩ := ih rfl
      refine ⟨token, member, ?_⟩
      rwa [Text.byteLength_cons, ← Nat.add_assoc]
  | @lexeme pos d cs kind length stop ts _ isLexeme isStop rest ih =>
    rw [← List.take_append_drop length cs, ← List.cons_append] at split
    rcases List.append_eq_append_iff.mp split with ⟨between, rfl, back⟩ | ⟨inside, front, back⟩
    · obtain ⟨token, member, covers⟩ := ih back
      refine ⟨token, .tail _ member, ?_⟩
      rwa [Text.byteLength_append, ← Nat.add_assoc, ← isStop]
    · cases inside with
      | nil =>
        have rest' : cs.drop length = [] ++ c :: after := back.symm
        obtain ⟨token, member, covers⟩ := ih rest'
        refine ⟨token, .tail _ member, ?_⟩
        rw [List.append_nil] at front
        rwa [← front, ← isStop]
      | cons e inside =>
        cases back
        refine ⟨_, .head _, Nat.le_add_right _ _, ?_⟩
        simp only [isStop, front, Text.byteLength_append, Text.byteLength_cons]
        omega

theorem Ordered.pairwise_stop_le {pos : Nat} {ts : List Token} (ordered : Ordered pos ts) :
    ts.Pairwise fun first second => first.span.stop ≤ second.span.start := by
  induction ts generalizing pos with
  | nil => exact .nil
  | cons token ts ih =>
    obtain ⟨_, _, others⟩ := ordered
    exact .cons others.start_ge (ih others)

theorem Ordered.nonempty {pos : Nat} {ts : List Token} (ordered : Ordered pos ts) :
    ∀ token ∈ ts, token.span.start < token.span.stop := by
  induction ts generalizing pos with
  | nil => simp
  | cons token ts ih =>
    obtain ⟨_, nonempty, others⟩ := ordered
    exact List.forall_mem_cons.mpr ⟨nonempty, ih others⟩

/-- Some tokens divide a range of a text. -/
structure Partitions (text : String) (start stop : Nat) (ts : List Token) : Prop where
  /-- No token is empty. -/
  nonempty : ∀ token ∈ ts, token.span.start < token.span.stop
  /-- A token starts where the tokens before it have ended. -/
  ordered : ts.Pairwise fun first second => first.span.stop ≤ second.span.start
  /-- The tokens are in the range. -/
  inside : ∀ token ∈ ts, start ≤ token.span.start ∧ token.span.stop ≤ stop
  /-- A token starts and ends between characters of the text, and has the characters between. -/
  slice : ∀ token ∈ ts,
    Text.slice? token.span.start token.span.stop text.toList = some token.text.toList
  /-- A character of the range that is in no token is blank. -/
  blank : ∀ before c after, text.toList = before ++ c :: after → start ≤ Text.byteLength before →
    Text.byteLength before + c.utf8Size ≤ stop →
    (∀ token ∈ ts, ¬ Covers token (Text.byteLength before) c) → Text.isBlank c = true
  /-- The text of a token is that token alone. -/
  alone : ∀ token ∈ ts, tokensBetween token.text 0 (Text.byteLength token.text.toList) =
    .ok [⟨token.kind, ⟨0, Text.byteLength token.text.toList⟩, token.text⟩]

section Ranges

variable {text : String} {start stop : Nat} {inside : List Char} {ts : List Token}

/-- A token stands inside the range with the characters it was read from. -/
theorem Splits.slice (splits : Splits start inside ts)
    (range : Text.slice? start stop text.toList = some inside) :
    ∀ token ∈ ts, (start ≤ token.span.start ∧ token.span.stop ≤ stop) ∧
      Text.slice? token.span.start token.span.stop text.toList = some token.text.toList := by
  intro token member
  obtain ⟨image, before, after, named, whole, starts, stops⟩ := splits.standsIn token member
  obtain ⟨_, _, _, _, isStop⟩ := Text.slice?_eq_some_iff.mp range
  cases named
  change token.span.start = _ at starts
  change token.span.stop = token.span.start + Text.byteLength token.text.toList at stops
  constructor
  · simp only [whole, Text.byteLength_append] at isStop
    omega
  · rw [whole, List.append_assoc] at range
    rw [stops, starts]
    exact Text.slice?_passed (Text.slice?_advance range)

/-- Of two ways to cut a text, the first cut of the one lies in the front part of the other if it comes
before it. -/
theorem append_eq_append_of_byteLength_le {xs ys zs ws : List Char} (same : xs ++ ys = zs ++ ws)
    (before : Text.byteLength xs ≤ Text.byteLength zs) : ∃ between, zs = xs ++ between ∧
      ys = between ++ ws := by
  rcases List.append_eq_append_iff.mp same with cut | ⟨between, rfl, back⟩
  · exact cut
  · cases between with
    | nil => exact ⟨[], by simp, back.symm⟩
    | cons c between =>
      have positive := c.utf8Size_pos
      simp only [Text.byteLength_append, Text.byteLength_cons] at before
      omega

theorem Splits.isBlank (splits : Splits start inside ts)
    (range : Text.slice? start stop text.toList = some inside) {before after : List Char} {c : Char}
    (split : text.toList = before ++ c :: after) (starts : start ≤ Text.byteLength before)
    (stops : Text.byteLength before + c.utf8Size ≤ stop)
    (outside : ∀ token ∈ ts, ¬ Covers token (Text.byteLength before) c) :
    Text.isBlank c = true := by
  obtain ⟨front, back, whole, rfl, rfl⟩ := Text.slice?_eq_some_iff.mp range
  obtain ⟨lead, rfl, rest⟩ := append_eq_append_of_byteLength_le (whole.symm.trans split) starts
  have ends : Text.byteLength (lead ++ [c]) ≤ Text.byteLength inside := by
    simp only [Text.byteLength_append, Text.byteLength_singleton] at stops ⊢
    omega
  obtain ⟨others, rfl, _⟩ :=
    append_eq_append_of_byteLength_le (by rw [rest, List.append_assoc]; rfl) ends
  cases visible : Text.isBlank c with
  | true => rfl
  | false =>
    obtain ⟨token, member, covers⟩ := splits.covers (by rw [List.append_assoc]; rfl) visible
    rw [Text.byteLength_append] at outside
    exact absurd covers (outside token member)

/-- The scanner comes to its end on every range between characters of a text. If it succeeds, its tokens
divide the range. -/
theorem partitions_tokensBetween (range : Text.slice? start stop text.toList = some inside) :
    Scanner.scan text.toList start stop =
        settled ((tokensBetween text start stop).map (List.map Token.bare)) ∧
      ∀ ts, tokensBetween text start stop = .ok ts → Partitions text start stop ts := by
  rw [tokensBetween_eq range]
  refine ⟨Scanner.scan_eq range, fun ts success => ?_⟩
  have splits := splits_of_tokens success
  constructor
  case nonempty => exact splits.ordered.nonempty
  case ordered => exact splits.ordered.pairwise_stop_le
  case inside => exact fun token member => (splits.slice range token member).1
  case slice => exact fun token member => (splits.slice range token member).2
  case blank => exact fun before c after => splits.isBlank range
  case alone =>
    intro token member
    rw [tokensBetween_eq (Text.slice?_whole _)]
    exact splits.lexes token member

end Ranges

/-- The tokens of an assignment in parentheses. -/
def assignment : List Token := [
  ⟨.ident "a$", ⟨1, 3⟩, "a$"⟩, ⟨.mark .plusAssign, ⟨4, 6⟩, "+="⟩, ⟨.str "é", ⟨6, 10⟩, "'é'"⟩]

/-- The text between parentheses is divided by a name, a mark of two characters and a text that is longer
in bytes than in characters, with a blank after the name. -/
theorem partitions_assignment : Text.slice? 1 10 "(a$ +='é')".toList = some "a$ +='é'".toList ∧
    tokensBetween "(a$ +='é')" 1 10 = .ok assignment ∧
    Partitions "(a$ +='é')" 1 10 assignment := by
  have range : Text.slice? 1 10 "(a$ +='é')".toList = some "a$ +='é'".toList := by decide +kernel
  have split : split? 5 1 "a$ +='é'".toList = some assignment := by decide +kernel
  have success : tokensBetween "(a$ +='é')" 1 10 = .ok assignment := by
    rw [tokensBetween_eq range]
    exact tokens_of_split? split
  exact ⟨range, success, (partitions_tokensBetween range).2 _ success⟩

end Lexer

/-! ## Places between characters -/

namespace Text

/-- A place between two characters of a text, or at one of its ends. -/
def IsBoundary (pos : Nat) (cs : List Char) : Prop :=
  ∃ before after, cs = before ++ after ∧ pos = byteLength before

section Boundaries

variable {start stop pos : Nat} {cs inside : List Char}

theorem isBoundary_of_slice? (sliced : slice? start stop cs = some inside) :
    IsBoundary start cs ∧ IsBoundary stop cs := by
  obtain ⟨before, after, split, starts, stops⟩ := slice?_eq_some_iff.mp sliced
  refine ⟨⟨before, inside ++ after, split, starts⟩, before ++ inside, after, ?_, ?_⟩
  · rw [split, List.append_assoc]
  · rw [stops, starts, byteLength_append]

/-- Between two places are the characters between. -/
theorem exists_slice?_of_isBoundary (starts : IsBoundary start cs) (stops : IsBoundary stop cs)
    (forward : start ≤ stop) : ∃ inside, slice? start stop cs = some inside := by
  obtain ⟨before, after, split, rfl⟩ := starts
  obtain ⟨before', after', split', rfl⟩ := stops
  obtain ⟨inside, rfl, rfl⟩ :=
    Lexer.append_eq_append_of_byteLength_le (split.symm.trans split') forward
  exact ⟨inside, slice?_eq_some_iff.mpr ⟨before, after', split, rfl, byteLength_append before inside⟩⟩

theorem IsBoundary.le (isBoundary : IsBoundary pos cs) : pos ≤ byteLength cs := by
  obtain ⟨before, after, rfl, rfl⟩ := isBoundary
  rw [byteLength_append]
  exact Nat.le_add_right _ _

end Boundaries

end Text

/-- A body is the characters of its range. -/
theorem Body.slice?_of (cs : List Char) :
    Text.slice? (Body.of cs).start (Body.of cs).stop cs = some (Body.of cs).chars := by
  obtain ⟨front, back, split, start⟩ := Body.of_eq cs
  exact Text.slice?_eq_some_iff.mpr ⟨front, back, by rw [← List.append_assoc, ← split], start, rfl⟩

end TargetingRules

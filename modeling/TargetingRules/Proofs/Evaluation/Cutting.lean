import TargetingRules.Proofs.Evaluation.Routines
import TargetingRules.Proofs.Number.Whole

/-!
# Parts of texts

The part of a text between two bounds. Any number will do as a bound: one that lies past the end is the end,
one that is negative leaves its side open, as null does, and of a fraction only the whole part counts. Parts
that meet at a position have every character between them, and none of them twice.

The limit on the length is that of the numbers: positions up to it are exact, and whatever number is nearest
to a larger one still lies past the end.
-/

namespace TargetingRules

/-! ## Bounds -/

/-- The number that a value is or spells, with blanks around it or without. -/
inductive Value.Denotes : Value → Float → Prop where
  | number (x : Float) : Denotes (.number x) x
  | numeral {s : String} {x : Float} (read : Number.read? (Text.trim s.toList) = some x) :
      Denotes (.string s) x

namespace Library

variable {v first last : Value} {x : Float} {size default n : Nat}

/-- A value that can be a bound. -/
def IsBound (v : Value) : Prop :=
  v = .null ∨ ∃ x, v.Denotes x

/-- A bound that leaves its side open. -/
def IsOpen (v : Value) : Prop :=
  v = .null ∨ ∃ x, v.Denotes x ∧ x < 0

theorem bound_of_denotes (denotes : v.Denotes x) :
    bound size default v = .ok (if x < 0 then default else min x.toUInt64.toNat size) := by
  cases denotes with
  | number => rfl
  | numeral read =>
    rw [bound, if_neg (by simp [Value.isNull]), Value.numeric, Value.toNumber?, read]
    rfl

theorem exists_bound (bounds : IsBound v) : ∃ n, bound size default v = .ok n := by
  rcases bounds with rfl | ⟨x, denotes⟩
  · exact ⟨default, rfl⟩
  · exact ⟨_, bound_of_denotes denotes⟩

theorem bound_of_isOpen (opened : IsOpen v) : bound size default v = .ok default := by
  rcases opened with rfl | ⟨x, denotes, negative⟩
  · rfl
  · rw [bound_of_denotes denotes, if_pos negative]

/-- A position is itself as a bound, or the end of the text if it lies past the end. -/
theorem bound_ofNat (short : size < 2 ^ 53) : bound size default (.ofNat n) = .ok (min n size) := by
  rw [Value.ofNat, bound_of_denotes (.number _), if_neg (Number.not_ofNat_lt_zero n)]
  rcases Nat.lt_or_ge n (2 ^ 53) with small | large
  · rw [Number.toUInt64_ofNat small]
  · have beyond := Number.le_toUInt64_ofNat large
    rw [Nat.min_eq_right (by omega), Nat.min_eq_right (by omega)]

/-! ## Parts -/

theorem substring_eq {text : Value} {start stop : Nat}
    (begins : bound text.chars.length 0 first = .ok start)
    (ends : bound text.chars.length text.chars.length last = .ok stop) :
    substring text first last = .ok (.ofChars ((text.chars.take stop).drop start)) := by
  simp only [substring, begins, ends]
  rfl

/-- Between two positions are the characters from one to the other, as far as there are any. -/
theorem substring_ofNat {s : String} (short : s.length < 2 ^ 53) (i j : Nat) :
    substring (.string s) (.ofNat i) (.ofNat j) =
      .ok (.ofChars ((s.toList.take (min j s.length)).drop (min i s.length))) :=
  have short : (Value.string s).chars.length < 2 ^ 53 := short
  substring_eq (bound_ofNat short) (bound_ofNat short)

theorem call_substring (text first last : Value) :
    FunctionTable.standard.call "fn:substring" [text, first, last] = substring text first last :=
  Native.call_standard .substring [text, first, last]

/-- Two positions cut a text in three. -/
theorem take_append_drop_take_append_drop {i j : Nat} (ordered : i ≤ j) (cs : List Char) :
    cs.take i ++ (cs.take j).drop i ++ cs.drop j = cs := by
  have front : cs.take i ++ (cs.take j).drop i = cs.take j := by
    rw [← Nat.min_eq_left ordered, ← List.take_take, Nat.min_eq_left ordered, List.take_append_drop]
  rw [front, List.take_append_drop]

/-- How a text is cut. -/
structure CutsWhole (s : String) : Prop where
  /-- Two positions, in the text or past its end, cut it into three parts that make it up. -/
  splits : s.length < 2 ^ 53 → ∀ {i j : Nat}, i ≤ j → ∃ a b c,
    FunctionTable.standard.call "fn:substring" [.string s, .ofNat 0, .ofNat i] = .ok (.string a) ∧
    FunctionTable.standard.call "fn:substring" [.string s, .ofNat i, .ofNat j] = .ok (.string b) ∧
    FunctionTable.standard.call "fn:substring" [.string s, .ofNat j, .null] = .ok (.string c) ∧
    a ++ b ++ c = s
  /-- What is between two bounds of any kind is a run of the characters. -/
  contiguous : ∀ {first last : Value}, IsBound first → IsBound last → ∃ run, run <:+: s.toList ∧
    FunctionTable.standard.call "fn:substring" [.string s, first, last] = .ok (.ofChars run)
  /-- What is between two open bounds is all of them. -/
  whole : ∀ {first last : Value}, IsOpen first → IsOpen last →
    FunctionTable.standard.call "fn:substring" [.string s, first, last] = .ok (.string s)

theorem cutsWhole (s : String) : CutsWhole s where
  splits := by
    intro short i j ordered
    have ordered : min i s.length ≤ min j s.length := by omega
    refine ⟨String.ofList (s.toList.take (min i s.length)),
      String.ofList ((s.toList.take (min j s.length)).drop (min i s.length)),
      String.ofList (s.toList.drop (min j s.length)), ?_, ?_, ?_, ?_⟩
    · rw [call_substring, substring_ofNat short, Nat.zero_min, List.drop_zero, Value.ofChars]
    · rw [call_substring, substring_ofNat short, Value.ofChars]
    · have short : (Value.string s).chars.length < 2 ^ 53 := short
      rw [call_substring, substring_eq (bound_ofNat short) (bound_of_isOpen (.inl rfl)), List.take_length]
      rfl
    · rw [← String.ofList_append, ← String.ofList_append, take_append_drop_take_append_drop ordered,
        String.ofList_toList]
  contiguous := by
    intro first last begins ends
    obtain ⟨start, begins⟩ := exists_bound begins
    obtain ⟨stop, ends⟩ := exists_bound ends
    refine ⟨_, ?_, (call_substring _ _ _).trans (substring_eq begins ends)⟩
    exact (List.drop_suffix _ _).isInfix.trans (List.take_prefix _ _).isInfix
  whole := by
    intro first last begins ends
    rw [call_substring, substring_eq (bound_of_isOpen begins) (bound_of_isOpen ends), List.take_length,
      List.drop_zero]
    exact congrArg (Except.ok ∘ Value.string) (String.ofList_toList)

/-- The second position lies past the end. -/
theorem cutsWhole_pastEnd : ∃ a b c,
    FunctionTable.standard.call "fn:substring" [.string "naïve", .ofNat 0, .ofNat 3] = .ok (.string a) ∧
    FunctionTable.standard.call "fn:substring" [.string "naïve", .ofNat 3, .ofNat 9] = .ok (.string b) ∧
    FunctionTable.standard.call "fn:substring" [.string "naïve", .ofNat 9, .null] = .ok (.string c) ∧
    a ++ b ++ c = "naïve" :=
  (cutsWhole "naïve").splits (by decide) (by decide)

end Library

end TargetingRules

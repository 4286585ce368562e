import TargetingRules.Proofs.Syntax.Joining
import TargetingRules.Text.Quoted

/-!
# Ranges of bodies and of literals

The body of a rule and the inside of a literal are found by counting bytes: how many bytes are left once
the blanks on one side are gone, and that delimiters and quotes take up one byte each. A range that is
found so can be cut out of the text, whatever the text is.
-/

namespace TargetingRules

namespace Text

section Slices

variable {start mid stop : Nat} {cs first second : List Char}

theorem le_of_slice? (sliced : slice? start stop cs = some first) : start ≤ stop := by
  obtain ⟨_, _, _, _, rfl⟩ := slice?_eq_some_iff.mp sliced
  exact Nat.le_add_right _ _

/-- Two slices side by side are one. -/
theorem slice?_append (left : slice? start mid cs = some first) (right : slice? mid stop cs = some second) :
    slice? start stop cs = some (first ++ second) := by
  obtain ⟨before, after, split, rfl, rfl⟩ := slice?_eq_some_iff.mp left
  obtain ⟨before', after', split', same, rfl⟩ := slice?_eq_some_iff.mp right
  have front : before' = before ++ first := by
    have taken := congrArg (takeBytes (byteLength before')) (split'.symm.trans split)
    rw [takeBytes_byteLength_append, ← same, ← byteLength_append, ← List.append_assoc,
      takeBytes_byteLength_append] at taken
    exact taken
  refine slice?_eq_some_iff.mpr ⟨before, after', ?_, rfl, ?_⟩
  · rw [split', front]
    simp only [List.append_assoc]
  · rw [byteLength_append, Nat.add_assoc]

end Slices

/-! ## Bodies -/

/-- The position of the first byte of the body of a text and the one after its last, by counting the
bytes that trimming leaves. -/
def bodyRange? (cs : List Char) : Option (Nat × Nat) := do
  let start := byteLength cs - byteLength (trimStart cs)
  let stop := byteLength (trimEnd cs)
  if stop < start then return (start, start)
  else do
    let trimmed ← slice? start stop cs
    if (['$', '\x7b'].isPrefixOf trimmed || ['#', '\x7b'].isPrefixOf trimmed) &&
        trimmed.getLast? == some '\x7d' && 3 ≤ byteLength trimmed then
      return (start + 2, stop - 1)
    else return (start, stop)

variable {front back cs : List Char}

theorem trimEnd_append (blank : ∀ c ∈ back, isBlank c = true) :
    trimEnd (front ++ back) = trimEnd front := by
  rw [trimEnd, List.reverse_append, List.dropWhile_append_of_pos, trimEnd]
  exact fun c member => blank c (List.mem_reverse.mp member)

theorem trimEnd_eq_self (visible : ∃ c ∈ cs.getLast?, isBlank c = false) : trimEnd cs = cs := by
  rw [trimEnd, Piece.dropWhile_of_head, List.reverse_reverse]
  rwa [List.head?_reverse]

/-- A text stands between delimiters if it starts and ends with them and is long enough for both. -/
theorem isSome_unwrap?_eq (cs : List Char) : (Body.unwrap? cs).isSome =
    ((['$', '\x7b'].isPrefixOf cs || ['#', '\x7b'].isPrefixOf cs) &&
      cs.getLast? == some '\x7d' && 3 ≤ byteLength cs : Bool) := by
  unfold Body.unwrap?
  split
  next opener inside =>
    cases inside with
    | nil =>
      have short : ¬ 3 ≤ byteLength [opener, '\x7b'] ∨ ¬ (opener = '$' ∨ opener = '#') := by
        by_cases isOpener : opener = '$' ∨ opener = '#'
        · refine .inl ?_
          rcases isOpener with rfl | rfl <;> decide
        · exact .inr isOpener
      grind
    | cons c inside =>
      have long : 3 ≤ byteLength (opener :: '\x7b' :: c :: inside) := by
        have := opener.utf8Size_pos
        have := c.utf8Size_pos
        have : ('\x7b').utf8Size = 1 := rfl
        simp only [byteLength_cons]
        omega
      grind
  next other =>
    have bare (opener : Char) : [opener, '\x7b'].isPrefixOf cs = false := by
      refine Bool.eq_false_iff.mpr fun front => ?_
      obtain ⟨inside, rfl⟩ := List.isPrefixOf_iff_prefix.mp front
      exact other opener inside rfl
    rw [bare, bare]
    rfl

theorem getLast?_append_of_visible (visible : ∃ c ∈ cs.getLast?, isBlank c = false) :
    ∃ c ∈ (front ++ cs).getLast?, isBlank c = false := by
  obtain ⟨c, last, visible⟩ := visible
  exact ⟨c, by rw [List.getLast?_append, Option.mem_def.mp last]; rfl, visible⟩

theorem byteLength_sub_trimStart (cs : List Char) :
    byteLength cs - byteLength (trimStart cs) = byteLength (cs.takeWhile isBlank) := by
  have parts := congrArg byteLength (List.takeWhile_append_dropWhile (p := isBlank) (l := cs))
  rw [byteLength_append] at parts
  rw [trimStart]
  omega

/-- A text of blanks ends where it starts: nothing is left of it from this side either. -/
theorem trimEnd_of_blank (bare : trim cs = []) : trimEnd cs = [] := by
  obtain ⟨back, whole, blankBack⟩ := trim_eq cs
  have blank : ∀ c ∈ cs.takeWhile isBlank ++ back, isBlank c = true :=
    List.forall_mem_append.mpr
      ⟨fun c member => List.all_eq_true.mp List.all_takeWhile c member, blankBack⟩
  rw [bare, List.append_nil] at whole
  rw [whole, ← List.nil_append (_ ++ back), trimEnd_append blank]
  rfl

theorem trimEnd_of_visible (visible : trim cs ≠ []) :
    trimEnd cs = cs.takeWhile isBlank ++ trim cs := by
  obtain ⟨back, whole, blankBack⟩ := trim_eq cs
  conv_lhs => rw [whole, trimEnd_append blankBack]
  exact trimEnd_eq_self (getLast?_append_of_visible (sharp_trim visible).2)

/-- The range of the body is there in every text. -/
theorem bodyRange?_eq (cs : List Char) :
    bodyRange? cs = some ((Body.of cs).start, (Body.of cs).stop) := by
  unfold bodyRange? Body.of
  dsimp only
  rw [byteLength_sub_trimStart]
  by_cases bare : trim cs = []
  · -- A text of blanks ends before it starts, unless it has no characters at all.
    rw [trimEnd_of_blank bare, bare]
    split
    next => rfl
    next ordered =>
      have none : byteLength (cs.takeWhile isBlank) = 0 := by
        rw [byteLength_nil] at ordered
        omega
      have start : slice? 0 0 cs = some [] := slice?_eq_some_iff.mpr ⟨[], cs, rfl, rfl, rfl⟩
      rw [none, byteLength_nil, start]
      rfl
  · have last := trimEnd_of_visible bare
    have trimmed : slice? (byteLength (cs.takeWhile isBlank))
        (byteLength (cs.takeWhile isBlank) + byteLength (trim cs)) cs = some (trim cs) := by
      obtain ⟨back, whole, _⟩ := trim_eq cs
      exact slice?_eq_some_iff.mpr ⟨_, back, by rw [← List.append_assoc, ← whole], rfl, rfl⟩
    rw [last, byteLength_append, if_neg (Nat.not_lt.mpr (Nat.le_add_right _ _)), trimmed]
    simp only [bind, Option.bind, ← isSome_unwrap?_eq]
    cases wrapped : Body.unwrap? (trim cs) with
    | none => rfl
    | some inside =>
      obtain ⟨opener, twoBytes, split⟩ := Body.unwrap?_eq_some wrapped
      have length := congrArg byteLength split
      rw [byteLength_append, byteLength_append, twoBytes] at length
      have close : byteLength ['\x7d'] = 1 := rfl
      simp only [Option.isSome_some, ↓reduceIte, Body.stop]
      congr 2
      omega

/-! ## Literals -/

/-- The text of an image that begins and ends with the same quote, where the inside is a slice. -/
def unquoteSlice? (image : List Char) : Option (Option (List Char)) :=
  match image.head?.filter isQuote with
  | none => return none
  | some quote =>
    if byteLength image < 2 || image.getLast? != some quote then return none
    else do
      let body ← slice? 1 (byteLength image - 1) image
      return some (unescape body)

theorem utf8Size_of_isQuote {quote : Char} (quotes : isQuote quote = true) : quote.utf8Size = 1 := by
  rw [isQuote, Bool.or_eq_true, beq_iff_eq, beq_iff_eq] at quotes
  rcases quotes with rfl | rfl <;> rfl

/-- The slice is there in every image. -/
theorem unquoteSlice?_eq (image : List Char) : unquoteSlice? image = some (unquote? image) := by
  cases image with
  | nil => rfl
  | cons quote cs =>
    rw [unquoteSlice?, unquote?, List.head?_cons]
    cases isQuote : isQuote quote with
    | false =>
      rw [Option.filter_some, if_neg (Bool.eq_false_iff.mp isQuote)]
      rfl
    | true =>
      have oneByte := utf8Size_of_isQuote isQuote
      rw [Option.filter_some, if_pos isQuote, Bool.true_and]
      dsimp only
      by_cases last : cs.getLast? = some quote
      · obtain ⟨inside, rfl⟩ := List.getLast?_eq_some_iff.mp last
        have length : byteLength (quote :: (inside ++ [quote])) = 1 + byteLength inside + 1 := by
          rw [byteLength_cons, byteLength_append, byteLength_singleton, oneByte, Nat.add_assoc]
        have sliced : slice? 1 (1 + byteLength inside) (quote :: (inside ++ [quote])) = some inside :=
          slice?_eq_some_iff.mpr ⟨[quote], [quote], rfl, by rw [byteLength_singleton, oneByte], rfl⟩
        have whole : (quote :: (inside ++ [quote])).getLast? = some quote := by
          rw [← List.cons_append, List.getLast?_concat]
        have long : ¬ 1 + byteLength inside + 1 < 2 := by omega
        rw [length, Nat.add_sub_cancel, sliced, whole, last, List.dropLast_concat]
        simp [long]
      · have refused : (decide (byteLength (quote :: cs) < 2) ||
            (quote :: cs).getLast? != some quote) = true := by
          cases cs with
          | nil => simp [oneByte]
          | cons c cs =>
            rw [List.getLast?_cons_cons, Bool.or_eq_true]
            exact .inr (bne_iff_ne.mpr last)
        rw [if_pos refused, if_neg (mt beq_iff_eq.mp last)]
        rfl

end Text

end TargetingRules

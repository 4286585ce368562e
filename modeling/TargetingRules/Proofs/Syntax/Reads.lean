import TargetingRules.Proofs.Syntax.Follow

/-!
# Reading as a relation

What each reader of the grammar does where it succeeds, one statement for every way to succeed. The
loops over operators and accesses are described by what they go on to from one expression that has
been read.
-/

namespace TargetingRules.Grammar

/-! ## Tokens -/

theorem take?_cons {mark : Mark} {token : Token} (isMark : IsMark mark token) (rest : List Token) :
    take? mark (token :: rest) = some ⟨token, rest, Nat.lt_succ_self _⟩ :=
  if_pos isMark

theorem expect_cons {mark : Mark} {token : Token} (isMark : IsMark mark token)
    (rest : List Token) :
    expect mark (token :: rest) = .ok ⟨token, rest, Nat.lt_succ_self _⟩ := by
  rw [expect, take?_cons isMark]

theorem take?_eq_none {mark : Mark} {ts : List Token}
    (absent : ∀ token ∈ ts.head?, ¬ IsMark mark token) : take? mark ts = none := by
  cases found : take? mark ts with
  | none => rfl
  | some taken =>
    obtain ⟨split, isMark⟩ := take?_eq_some found
    exact absurd isMark (absent taken.token (congrArg List.head? split))

theorem Ends.take? {ℓ : Level} {rest : List Token} (ends : Ends ℓ rest) (mark : Mark)
    (goesOn : ¬ EndsBefore ℓ mark) : take? mark rest = none :=
  take?_eq_none fun token member isMark => goesOn (ends token member mark isMark)

theorem operator?_cons {kind? : Mark → Option Kind} {mark : Mark} {kind : Kind} {op : Token}
    (isOp : IsMark mark op) (known : kind? mark = some kind) (rest : List Token) :
    operator? kind? (op :: rest) = some (kind, ⟨op, rest, Nat.lt_succ_self _⟩) := by
  obtain ⟨opKind, span, text⟩ := op
  cases isOp
  simp only [operator?, known, Option.map_some]

theorem operator?_eq_none {kind? : Mark → Option Kind} {ts : List Token}
    (unknown : ∀ token ∈ ts.head?, ∀ mark, IsMark mark token → kind? mark = none) :
    operator? kind? ts = none := by
  cases found : operator? kind? ts with
  | none => rfl
  | some pair =>
    obtain ⟨kind, taken⟩ := pair
    obtain ⟨split, mark, isMark, known⟩ := operator?_eq_some found
    rw [unknown taken.token (congrArg List.head? split) mark isMark] at known
    cases known

theorem propertyName_cons {name : Token} (isName : IsName name) (rest : List Token) :
    propertyName (name :: rest) = .ok ⟨name, rest, Nat.lt_succ_self _⟩ := by
  obtain ⟨kind, span, text⟩ := name
  obtain ⟨word, isWord⟩ := isName
  cases isWord
  rfl

theorem callee?_cons {token opening : Token} (isOpen : IsMark .openParen opening)
    (rest : List Token) :
    callee? token (opening :: rest) = some ⟨token.text, token.span, rest, Nat.lt_succ_self _⟩ := by
  obtain ⟨kind, span, text⟩ := opening
  cases isOpen
  rfl

theorem callee?_qualified {scope colon name opening : Token} {rest : List Token}
    (qualified : OpensQualified scope (colon :: name :: opening :: rest)) :
    ∃ shorter, callee? scope (colon :: name :: opening :: rest) =
      some ⟨scope.text ++ ":" ++ name.text, scope.span.join name.span, rest, shorter⟩ := by
  obtain ⟨colonKind, colonSpan, colonText⟩ := colon
  obtain ⟨nameKind, nameSpan, nameText⟩ := name
  obtain ⟨openingKind, openingSpan, openingText⟩ := opening
  obtain ⟨isColon, ⟨word, isWord⟩, isOpen, first, second⟩ := qualified
  cases isColon
  cases isWord
  cases isOpen
  exact ⟨_, if_pos ⟨first, second⟩⟩

theorem callee?_eq_none {token : Token} {rest : List Token}
    (unqualified : ¬ OpensQualified token rest) (ends : Ends .primary rest) :
    callee? token rest = none := by
  cases found : callee? token rest with
  | none => rfl
  | some callee =>
    rcases callee?_eq_some found with ⟨opening, split, isOpen, _⟩ | ⟨_, _, _, split, qualified, _⟩
    · rw [split] at ends
      exact absurd (ends.endsBefore isOpen) (by decide)
    · rw [split] at unqualified
      exact absurd qualified unqualified

theorem Names.front {ts names rest : List Token} (listed : Names ts names rest) :
    ∃ name more, ts = name :: more ∧ IsName name := by
  cases listed with
  | one isName => exact ⟨_, _, rfl, isName⟩
  | more isName isComma others => exact ⟨_, _, rfl, isName⟩

theorem parameterNames?_of_names {ts : List Token} {names : List Token} {middle rest : List Token}
    {close arrow : Token} (listed : Names ts names middle) (split : middle = close :: arrow :: rest)
    (isClose : IsMark .closeParen close) (isArrow : IsMark .arrow arrow) :
    ∃ shorter, parameterNames? ts = some ⟨names, rest, shorter⟩ := by
  induction listed with
  | @one name _ isName =>
    subst split
    obtain ⟨nameKind, nameSpan, nameText⟩ := name
    obtain ⟨closeKind, closeSpan, closeText⟩ := close
    obtain ⟨arrowKind, arrowSpan, arrowText⟩ := arrow
    obtain ⟨word, isWord⟩ := isName
    cases isWord
    cases isClose
    cases isArrow
    exact ⟨_, rfl⟩
  | @more name comma ts names rest' isName isComma others ih =>
    obtain ⟨shorter, read⟩ := ih split
    obtain ⟨nameKind, nameSpan, nameText⟩ := name
    obtain ⟨commaKind, commaSpan, commaText⟩ := comma
    obtain ⟨word, isWord⟩ := isName
    cases isWord
    cases isComma
    apply Exists.intro
    rw [parameterNames?, read]
    rfl

theorem lambdaHead?_of_parameters {ts : List Token} {params : Tree} {rest : List Token}
    (head : Parameters ts params rest) :
    ∃ shorter, lambdaHead? ts = some ⟨params, rest, shorter⟩ := by
  cases head with
  | @name name arrow _ isName isArrow =>
    obtain ⟨nameKind, nameSpan, nameText⟩ := name
    obtain ⟨arrowKind, arrowSpan, arrowText⟩ := arrow
    obtain ⟨word, isWord⟩ := isName
    cases isWord
    cases isArrow
    exact ⟨_, rfl⟩
  | @none opening close arrow _ isOpen isClose isArrow =>
    obtain ⟨openingKind, openingSpan, openingText⟩ := opening
    obtain ⟨closeKind, closeSpan, closeText⟩ := close
    obtain ⟨arrowKind, arrowSpan, arrowText⟩ := arrow
    cases isOpen
    cases isClose
    cases isArrow
    exact ⟨_, rfl⟩
  | @names opening ts names close arrow _ isOpen listed isClose isArrow =>
    obtain ⟨shorter, read⟩ := parameterNames?_of_names listed rfl isClose isArrow
    obtain ⟨openingKind, openingSpan, openingText⟩ := opening
    cases isOpen
    obtain ⟨⟨nameKind, nameSpan, nameText⟩, more, front, word, isWord⟩ := listed.front
    subst front
    cases isWord
    rw [← parameters_eq_spanning]
    apply Exists.intro
    simp only [lambdaHead?, read]
    rfl

theorem lambdaHead?_eq_none {ts : List Token}
    (noHead : ∀ {params after}, ¬ Parameters ts params after) : lambdaHead? ts = none := by
  cases found : lambdaHead? ts with
  | none => rfl
  | some head => exact absurd (parameters_of_lambdaHead? found) noHead

/-! ## Reading as a relation -/

/-- A reader reads an expression from the front of some tokens and leaves the given ones. -/
def Reads (reader : Reader) (ts : List Token) (t : Tree) (rest : List Token) : Prop :=
  ∃ shorter, reader ts = .ok ⟨t, rest, shorter⟩

/-- The operands of a chain are read from the front of some tokens. -/
def ReadsSeveral (mark : Mark) (operand : Reader) (ts : List Token) (trees : List Tree)
    (rest : List Token) : Prop :=
  ∃ shorter, separated mark operand ts = .ok ⟨trees, rest, shorter⟩

/-- A list is read from the front of some tokens through its closing mark. -/
def ReadsClosed (inner : Entry → Reader) (mark : Mark) (ts : List Token) (trees : List Tree)
    (close : Token) (rest : List Token) : Prop :=
  ∃ shorter, closedList mark inner ts = .ok ⟨⟨trees, rest, shorter⟩, close⟩

/-- A loop that has read one expression goes on to another one. -/
def GoesOn (loop : {ts : List Token} → Parsed ts → Except ParseError (Parsed ts)) (t : Tree)
    (rest : List Token) (t' : Tree) (rest' : List Token) : Prop :=
  ∀ ts shorter, ∃ shorter', loop (⟨t, rest, shorter⟩ : Parsed ts) = .ok ⟨t', rest', shorter'⟩

theorem branch_of_low {kind : Kind} {children : List Tree}
    (low : (spanning kind children).height ≤ maxDepth) :
    branch kind children = .ok (spanning kind children) :=
  branch_eq_ok_iff.mpr ⟨rfl, low⟩

theorem grow_of_low {kind : Kind} {image : Option String} {span : Span} {children : List Tree}
    (low : (Tree.node kind image span children).height ≤ maxDepth) :
    grow kind image span children = .ok (.node kind image span children) :=
  grow_eq_ok_iff.mpr ⟨rfl, low⟩

/-! ## Chains and lists -/

section Chains

variable {mark : Mark} {kind : Kind} {operand : Reader} {ts middle rest : List Token}
  {t left right : Tree} {trees : List Tree} {op : Token}

theorem ReadsSeveral.one (last : Reads operand ts t rest) (ends : take? mark rest = none) :
    ReadsSeveral mark operand ts [t] rest := by
  obtain ⟨shorter, last⟩ := last
  apply Exists.intro
  rw [separated, last]
  simp only [bind, Except.bind, ends]
  rfl

theorem ReadsSeveral.more (first : Reads operand ts t (op :: middle)) (isOp : IsMark mark op)
    (others : ReadsSeveral mark operand middle trees rest) :
    ReadsSeveral mark operand ts (t :: trees) rest := by
  obtain ⟨_, first⟩ := first
  obtain ⟨_, others⟩ := others
  apply Exists.intro
  rw [separated, first]
  simp only [bind, Except.bind, take?_cons isOp, others]
  rfl

theorem reads_flatChain_one (single : ReadsSeveral mark operand ts [t] rest) :
    Reads (flatChain kind mark operand) ts t rest := by
  obtain ⟨_, single⟩ := single
  apply Exists.intro
  simp only [flatChain, single, bind, Except.bind]
  rfl

theorem reads_flatChain (operands : ReadsSeveral mark operand ts trees rest)
    (several : 2 ≤ trees.length) (low : (spanning kind trees).height ≤ maxDepth) :
    Reads (flatChain kind mark operand) ts (spanning kind trees) rest := by
  obtain ⟨_, operands⟩ := operands
  rcases trees with _ | ⟨first, _ | ⟨second, more⟩⟩
  · simp at several
  · simp at several
  · apply Exists.intro
    simp only [flatChain, operands, bind, Except.bind, branch_of_low low]
    rfl

theorem reads_leftChain {kind? : Mark → Option Kind} {t' : Tree} {rest' : List Token}
    (first : Reads operand ts t rest) (goesOn : GoesOn (leftChainFrom kind? operand) t rest t' rest') :
    Reads (leftChain kind? operand) ts t' rest' := by
  obtain ⟨shorter, first⟩ := first
  obtain ⟨shorter', goesOn⟩ := goesOn ts shorter
  exact ⟨shorter', by simp only [leftChain, first, bind, Except.bind, goesOn]⟩

theorem GoesOn.leftChain_done {kind? : Mark → Option Kind} (ends : operator? kind? rest = none) :
    GoesOn (leftChainFrom kind? operand) t rest t rest := by
  intro ts shorter
  refine ⟨shorter, ?_⟩
  change leftChainFrom kind? operand _ = _
  rw [leftChainFrom]
  simp only [ends]

theorem GoesOn.leftChain_step {kind? : Mark → Option Kind} {t' : Tree} {rest' : List Token}
    (isOp : IsMark mark op) (known : kind? mark = some kind)
    (second : Reads operand middle right rest)
    (low : (spanning kind [left, right]).height ≤ maxDepth)
    (goesOn : GoesOn (leftChainFrom kind? operand) (spanning kind [left, right]) rest t' rest') :
    GoesOn (leftChainFrom kind? operand) left (op :: middle) t' rest' := by
  intro ts shorter
  obtain ⟨fewer, second⟩ := second
  obtain ⟨shorter', goesOn⟩ := goesOn ts (by simp only [List.length_cons] at shorter; omega)
  refine ⟨shorter', ?_⟩
  change leftChainFrom kind? operand _ = _
  rw [leftChainFrom]
  simp only [operator?_cons isOp known, second, bind, Except.bind, branch_of_low low]
  exact goesOn

end Chains

/-! ## Readers by level -/

section Levels

variable {inner : Entry → Reader} {ts middle last rest : List Token} {t left right : Tree}
  {trees : List Tree} {op opening close token dot name : Token} {mark : Mark} {kind : Kind}

theorem ReadsClosed.none (isClose : IsMark mark close) :
    ReadsClosed inner mark (close :: rest) [] close rest := by
  apply Exists.intro
  rw [closedList, take?_cons isClose]

theorem ReadsClosed.some (noClose : take? mark ts = .none)
    (listed : ReadsSeveral .comma (inner .assignment) ts trees (close :: rest))
    (isClose : IsMark mark close) : ReadsClosed inner mark ts trees close rest := by
  obtain ⟨_, listed⟩ := listed
  apply Exists.intro
  simp only [closedList, noClose, listed, bind, Except.bind, expect_cons isClose]
  rfl

theorem reads_literal {literal : LiteralKind} (isLiteral : literal? token.kind = some literal) :
    Reads (primary inner) (token :: rest) (leaf (.literal literal) token) rest := by
  obtain ⟨tokenKind, span, text⟩ := token
  cases tokenKind with
  | ident word => cases isLiteral
  | mark mark => cases isLiteral
  | number x => cases isLiteral; exact ⟨_, rfl⟩
  | str s => cases isLiteral; exact ⟨_, rfl⟩
  | bool b => cases isLiteral; exact ⟨_, rfl⟩
  | null => cases isLiteral; exact ⟨_, rfl⟩

theorem reads_identifier (isName : IsName token) (uncalled : callee? token rest = none) :
    Reads (primary inner) (token :: rest) (leaf .identifier token) rest := by
  obtain ⟨word, isWord⟩ := isName
  refine ⟨Nat.lt_succ_self _, ?_⟩
  simp only [primary, isWord, named, uncalled]

theorem reads_call {image : String} {span : Span} {shorter : middle.length < ts.length}
    (isName : IsName token) (called : callee? token ts = some ⟨image, span, middle, shorter⟩)
    (list : ReadsClosed inner .closeParen middle trees close rest)
    (low : (Tree.node .function (some image) (span.join close.span) trees).height ≤ maxDepth) :
    Reads (primary inner) (token :: ts)
      (.node .function (some image) (span.join close.span) trees) rest := by
  obtain ⟨word, isWord⟩ := isName
  obtain ⟨_, list⟩ := list
  apply Exists.intro
  simp only [primary, isWord, named, called, list, bind, Except.bind, grow_of_low low]
  rfl

theorem reads_parentheses (isOpen : IsMark .openParen opening)
    (inside : Reads (inner .assignment) ts t (close :: rest)) (isClose : IsMark .closeParen close) :
    Reads (primary inner) (opening :: ts) t rest := by
  obtain ⟨_, inside⟩ := inside
  obtain ⟨openingKind, openingSpan, openingText⟩ := opening
  cases isOpen
  apply Exists.intro
  simp only [primary, inside, bind, Except.bind, expect_cons isClose]
  rfl

theorem reads_list (isOpen : IsMark .openBracket opening)
    (list : ReadsClosed inner .closeBracket ts trees close rest)
    (low : (Tree.node .list none (opening.span.join close.span) trees).height ≤ maxDepth) :
    Reads (primary inner) (opening :: ts)
      (.node .list none (opening.span.join close.span) trees) rest := by
  obtain ⟨_, list⟩ := list
  obtain ⟨openingKind, openingSpan, openingText⟩ := opening
  cases isOpen
  apply Exists.intro
  simp only [primary, list, bind, Except.bind, grow_of_low low]
  rfl

theorem reads_access {t' : Tree} {rest' : List Token} (first : Reads (primary inner) ts t rest)
    (goesOn : GoesOn (accessFrom inner) t rest t' rest') : Reads (access inner) ts t' rest' := by
  obtain ⟨shorter, first⟩ := first
  obtain ⟨shorter', goesOn⟩ := goesOn ts shorter
  exact ⟨shorter', by simp only [access, first, bind, Except.bind, goesOn]⟩

theorem GoesOn.access_done (ends : Ends .access rest) : GoesOn (accessFrom inner) t rest t rest := by
  intro ts shorter
  refine ⟨shorter, ?_⟩
  change accessFrom inner _ = _
  rw [accessFrom]
  simp only [ends.take? .dot (by decide), ends.take? .openBracket (by decide)]

theorem take?_other {other : Mark} (isOp : IsMark mark op) (differs : mark ≠ other) :
    take? other (op :: rest) = none :=
  take?_eq_none fun token member isOther => by
    cases member
    exact differs (isOp.unique isOther)

theorem GoesOn.property {t' : Tree} {rest' : List Token} (isDot : IsMark .dot dot)
    (isName : IsName name) (ends : Ends .primary rest)
    (low : (spanning .property [t, leaf .member name]).height ≤ maxDepth)
    (goesOn : GoesOn (accessFrom inner) (spanning .property [t, leaf .member name]) rest t' rest') :
    GoesOn (accessFrom inner) t (dot :: name :: rest) t' rest' := by
  intro ts shorter
  obtain ⟨shorter', goesOn⟩ := goesOn ts (by simp only [List.length_cons] at shorter; omega)
  refine ⟨shorter', ?_⟩
  change accessFrom inner _ = _
  rw [accessFrom]
  simp only [take?_cons isDot, propertyName_cons isName, bind, Except.bind,
    ends.take? .openParen (by decide), branch_of_low low]
  exact goesOn

theorem GoesOn.method {t' : Tree} {rest' : List Token} {arguments : Tree}
    (isArguments : arguments = .node .arguments .none (opening.span.join close.span) trees)
    (isDot : IsMark .dot dot) (isName : IsName name) (isOpen : IsMark .openParen opening)
    (list : ReadsClosed inner .closeParen middle trees close rest)
    (low : (spanning .methodCall [t, leaf .member name, arguments]).height ≤ maxDepth)
    (lowArguments : arguments.height ≤ maxDepth)
    (goesOn : GoesOn (accessFrom inner) (spanning .methodCall [t, leaf .member name, arguments])
      rest t' rest') :
    GoesOn (accessFrom inner) t (dot :: name :: opening :: middle) t' rest' := by
  subst isArguments
  intro ts shorter
  obtain ⟨fewer, list⟩ := list
  obtain ⟨shorter', goesOn⟩ := goesOn ts (by simp only [List.length_cons] at shorter; omega)
  refine ⟨shorter', ?_⟩
  change accessFrom inner _ = _
  rw [accessFrom]
  simp only [take?_cons isDot, propertyName_cons isName, bind, Except.bind, take?_cons isOpen, list,
    grow_of_low lowArguments, branch_of_low low]
  exact goesOn

theorem GoesOn.index {t' : Tree} {rest' : List Token} {index : Tree}
    (isOpen : IsMark .openBracket opening)
    (nested : Reads (inner .assignment) middle index (close :: rest))
    (isClose : IsMark .closeBracket close)
    (low : (Tree.node .index .none (t.span.join close.span) [t, index]).height ≤ maxDepth)
    (goesOn : GoesOn (accessFrom inner) (.node .index .none (t.span.join close.span) [t, index])
      rest t' rest') :
    GoesOn (accessFrom inner) t (opening :: middle) t' rest' := by
  intro ts shorter
  obtain ⟨fewer, nested⟩ := nested
  obtain ⟨shorter', goesOn⟩ := goesOn ts
    (by simp only [List.length_cons] at shorter fewer; omega)
  refine ⟨shorter', ?_⟩
  change accessFrom inner _ = _
  rw [accessFrom]
  simp only [take?_other isOpen (by decide : Mark.openBracket ≠ .dot), take?_cons isOpen, nested,
    bind, Except.bind, expect_cons isClose, grow_of_low low]
  exact goesOn

theorem reads_unary (below : Reads (access inner) ts t rest)
    (noPrefix : operator? unary? ts = none) : Reads (unary inner) ts t rest := by
  obtain ⟨shorter, below⟩ := below
  exact ⟨shorter, by simp only [unary, noPrefix, below]⟩

theorem reads_prefixed (known : unary? mark = some kind) (isOp : IsMark mark op)
    (operand : Reads (inner .unary) ts t rest)
    (low : (Tree.node kind none (op.span.join t.span) [t]).height ≤ maxDepth) :
    Reads (unary inner) (op :: ts) (.node kind none (op.span.join t.span) [t]) rest := by
  obtain ⟨_, operand⟩ := operand
  apply Exists.intro
  simp only [unary, operator?_cons isOp known, operand, bind, Except.bind, grow_of_low low]
  rfl

theorem reads_ternary_one (below : Reads (disjunction inner) ts t rest)
    (ends : take? .question rest = none) : Reads (ternary inner) ts t rest := by
  obtain ⟨shorter, below⟩ := below
  refine ⟨shorter, ?_⟩
  simp only [ternary, below, bind, Except.bind, ends]
  rfl

theorem reads_ternary {question colon : Token} {condition whenTrue whenFalse : Tree}
    (first : Reads (disjunction inner) ts condition (question :: middle))
    (isQuestion : IsMark .question question)
    (second : Reads (inner .ternary) middle whenTrue (colon :: last))
    (isColon : IsMark .colon colon) (third : Reads (inner .ternary) last whenFalse rest)
    (low : (spanning .ternary [condition, whenTrue, whenFalse]).height ≤ maxDepth) :
    Reads (ternary inner) ts (spanning .ternary [condition, whenTrue, whenFalse]) rest := by
  obtain ⟨_, first⟩ := first
  obtain ⟨_, second⟩ := second
  obtain ⟨_, third⟩ := third
  apply Exists.intro
  simp only [ternary, first, bind, Except.bind, take?_cons isQuestion, second, expect_cons isColon,
    third, branch_of_low low]
  rfl

theorem reads_lambda_one (below : Reads (ternary inner) ts t rest)
    (noHead : lambdaHead? ts = none) : Reads (lambda inner) ts t rest := by
  obtain ⟨shorter, below⟩ := below
  exact ⟨shorter, by simp only [lambda, noHead, below]⟩

theorem reads_lambda {params body : Tree} (head : Parameters ts params middle)
    (read : Reads (inner .lambda) middle body rest)
    (low : (spanning .arrow [params, body]).height ≤ maxDepth) :
    Reads (lambda inner) ts (spanning .arrow [params, body]) rest := by
  obtain ⟨_, found⟩ := lambdaHead?_of_parameters head
  obtain ⟨_, read⟩ := read
  apply Exists.intro
  simp only [lambda, found, read, bind, Except.bind, branch_of_low low]
  rfl

theorem reads_assignment_one (below : Reads (lambda inner) ts t rest)
    (ends : take? .assign rest = none) : Reads (assignment inner) ts t rest := by
  obtain ⟨shorter, below⟩ := below
  refine ⟨shorter, ?_⟩
  simp only [assignment, below, bind, Except.bind, ends]
  rfl

theorem reads_assign {target value : Tree} (first : Reads (lambda inner) ts target (op :: middle))
    (isOp : IsMark .assign op) (second : Reads (inner .assignment) middle value rest)
    (low : (spanning .assign [target, value]).height ≤ maxDepth) :
    Reads (assignment inner) ts (spanning .assign [target, value]) rest := by
  obtain ⟨_, first⟩ := first
  obtain ⟨_, second⟩ := second
  apply Exists.intro
  simp only [assignment, first, bind, Except.bind, take?_cons isOp, second, branch_of_low low]
  rfl

end Levels

end TargetingRules.Grammar

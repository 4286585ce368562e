import TargetingRules.Proofs.Syntax.Parsing
import TargetingRules.Proofs.Syntax.Shape
import TargetingRules.Proofs.Validation.Scans

/-!
# Constructs and the tokens that write them

The marks `=`, `+=` and `->` write the constructs that rules must not use. However deep one of them
stands in a rule, it becomes a node of the expression that the rule states, and no such node comes
from anything else. The order is not kept: a node comes in pre-order before its operands, and its mark
stands after the first of them. So the constructs of the tokens are a permutation of those of the
expression.
-/

namespace TargetingRules

/-! ## Tokens -/

/-- The construct that a mark writes, if rules must not use it. -/
def Mark.construct? : Mark → Option Construct
  | .assign => some .assignment
  | .plusAssign => some .concatenation
  | .arrow => some .arrow
  | _ => none

/-- The construct that a token writes, if rules must not use it. -/
def Token.construct? (token : Token) : Option Construct :=
  match token.kind with
  | .mark mark => mark.construct?
  | _ => none

/-- The constructs that tokens write, in the order of the tokens. -/
def writtenConstructs (tokens : List Token) : List Construct :=
  tokens.filterMap Token.construct?

/-! ## Nodes -/

namespace Tree

/-- The constructs of expressions in order. -/
def constructsAll (ts : List Tree) : List Construct :=
  (preorderAll ts).filterMap fun s => s.label.construct?

@[simp] theorem constructsAll_nil : constructsAll [] = [] := rfl

@[simp] theorem constructsAll_cons (t : Tree) (ts : List Tree) :
    constructsAll (t :: ts) = t.constructs ++ constructsAll ts := by
  simp only [constructsAll, constructs, preorderAll, List.filterMap_append]

variable {kind : Kind} {image : Option String} {span : Span} {children : List Tree}

theorem constructs_node :
    (node kind image span children).constructs = kind.construct?.toList ++ constructsAll children := by
  have root : (node kind image span children).label.construct? = kind.construct? := rfl
  rw [constructs, preorder, List.filterMap_cons, root]
  cases kind.construct? <;> rfl

theorem constructs_pair (first second : Tree) :
    (node kind image span [first, second]).constructs =
      kind.construct?.toList ++ (first.constructs ++ second.constructs) := by
  simp only [constructs_node, constructsAll_cons, constructsAll_nil, List.append_nil]

theorem constructs_triple (first second third : Tree) :
    (node kind image span [first, second, third]).constructs =
      kind.construct?.toList ++ (first.constructs ++ (second.constructs ++ third.constructs)) := by
  simp only [constructs_node, constructsAll_cons, constructsAll_nil, List.append_nil]

theorem mem_constructsAll {t : Tree} {construct : Construct} (member : t ∈ children)
    (written : construct ∈ t.constructs) : construct ∈ constructsAll children := by
  induction children with
  | nil => cases member
  | cons first others ih =>
    rw [constructsAll_cons, List.mem_append]
    rcases List.mem_cons.mp member with rfl | later
    · exact .inl written
    · exact .inr (ih later)

/-- Where an expression has a list of parameters, it has a lambda. -/
def ParametersInLambdas (t : Tree) : Prop :=
  ∀ s ∈ t.preorder, s.kind = .lambdaParameters → .arrow ∈ t.constructs

theorem parametersInLambdas_node (other : kind ≠ .lambdaParameters)
    (below : ∀ t ∈ children, t.ParametersInLambdas) :
    (node kind image span children).ParametersInLambdas := by
  intro s inside isParameters
  rcases mem_preorder_node.mp inside with rfl | ⟨t, member, inside⟩
  · exact absurd isParameters other
  · rw [constructs_node]
    exact List.mem_append_right _ (mem_constructsAll member (below t member s inside isParameters))

end Tree

/-- In an expression of the language, lists of parameters stand in lambdas only. -/
theorem Formed.parametersInLambdas {P : String → Prop} {L : LiteralKind → String → Prop} {t : Tree}
    (formed : Formed P L t) : t.ParametersInLambdas := by
  refine formed.node_induction ?atom ?operation ?lambda
  case atom =>
    intro kind image span isAtom
    refine Tree.parametersInLambdas_node ?_ (by simp)
    rintro rfl
    cases isAtom
  case operation =>
    intro kind image span children isOperation _ below
    exact Tree.parametersInLambdas_node (Kind.isOperation_iff.mp isOperation).2 below
  case lambda =>
    intro span listSpan params body _ _ s _ _
    rw [Tree.constructs_node]
    exact List.mem_cons_self

namespace Grammar

/-! ## What is read and what is written -/

/-- Some tokens are read from the front, and they write the given constructs in some order. -/
def Writes (ts : List Token) (constructs : List Construct) (rest : List Token) : Prop :=
  ∃ front, ts = front ++ rest ∧ (writtenConstructs front).Perm constructs

section Writes

variable {ts middle rest : List Token} {xs ys : List Construct} {token : Token}

theorem Writes.append (first : Writes ts xs middle) (second : Writes middle ys rest) :
    Writes ts (xs ++ ys) rest := by
  obtain ⟨front, rfl, same⟩ := first
  obtain ⟨front', rfl, same'⟩ := second
  refine ⟨front ++ front', by rw [List.append_assoc], ?_⟩
  rw [writtenConstructs, List.filterMap_append]
  exact same.append same'

theorem Writes.one (token : Token) (rest : List Token) :
    Writes (token :: rest) token.construct?.toList rest := by
  refine ⟨[token], rfl, .of_eq ?_⟩
  rw [writtenConstructs, List.filterMap_cons]
  cases token.construct? <;> rfl

theorem Writes.skip (silent : token.construct? = none) (rest : List Token) :
    Writes (token :: rest) [] rest := by
  have writes := Writes.one token rest
  rwa [silent] at writes

/-- A token after what was read; its construct comes before those of what was read. -/
theorem Writes.then (first : Writes ts xs (token :: rest)) :
    Writes ts (token.construct?.toList ++ xs) rest := by
  obtain ⟨front, split, same⟩ := first.append (.one token rest)
  exact ⟨front, split, same.trans List.perm_append_comm⟩

/-- A token after what was read that writes no construct. -/
theorem Writes.past (first : Writes ts xs (token :: rest)) (silent : token.construct? = none) :
    Writes ts xs rest := by
  have writes := first.then
  rwa [silent] at writes

/-- A token before what was read that writes no construct. -/
theorem Writes.after (second : Writes ts xs rest) (silent : token.construct? = none) :
    Writes (token :: ts) xs rest :=
  (Writes.skip silent ts).append second

/-- An operator stands between its operands, and its node comes before them. -/
theorem Writes.between (first : Writes ts xs (token :: middle)) (second : Writes middle ys rest) :
    Writes ts (token.construct?.toList ++ (xs ++ ys)) rest := by
  rw [← List.append_assoc]
  exact first.then.append second

end Writes

/-! ## Tokens without constructs -/

theorem IsMark.construct?_eq {mark : Mark} {token : Token} (isMark : IsMark mark token) :
    token.construct? = mark.construct? := by
  unfold Token.construct?
  rw [isMark]

theorem IsName.construct?_eq {token : Token} (isName : IsName token) : token.construct? = none := by
  obtain ⟨name, isIdent⟩ := isName
  unfold Token.construct?
  rw [isIdent]

theorem construct?_of_literal? {token : Token} {kind : LiteralKind}
    (isLiteral : literal? token.kind = some kind) : token.construct? = none := by
  unfold Token.construct?
  cases known : token.kind with
  | mark mark =>
    rw [known] at isLiteral
    cases isLiteral
  | _ => rfl

theorem construct?_of_mem_flatOperators {ℓ : Level} {mark : Mark} {kind : Kind}
    (listed : (mark, kind) ∈ ℓ.flatOperators) :
    mark.construct? = none ∧ kind.construct? = none := by
  have all : ∀ entry ∈ ℓ.flatOperators,
      entry.1.construct? = none ∧ entry.2.construct? = none := by cases ℓ <;> decide
  exact all _ listed

/-- An operator that groups to the left writes the construct of its node. -/
theorem construct?_of_mem_leftOperators {ℓ : Level} {mark : Mark} {kind : Kind}
    (listed : (mark, kind) ∈ ℓ.leftOperators) : mark.construct? = kind.construct? := by
  have all : ∀ entry ∈ ℓ.leftOperators, entry.1.construct? = entry.2.construct? := by
    cases ℓ <;> decide
  exact all _ listed

theorem construct?_of_mem_prefixOperators {mark : Mark} {kind : Kind}
    (listed : (mark, kind) ∈ prefixOperators) :
    mark.construct? = none ∧ kind.construct? = none := by
  have all : ∀ entry ∈ prefixOperators,
      entry.1.construct? = none ∧ entry.2.construct? = none := by decide
  exact all _ listed

/-! ## Derivations -/

theorem Names.writes {ts names rest : List Token} (listed : Names ts names rest) :
    Writes ts (Tree.constructsAll (names.map (leaf .identifier))) rest := by
  induction listed with
  | @one name rest isName => exact .skip isName.construct?_eq rest
  | more isName isComma others ih =>
    exact (ih.after isComma.construct?_eq).after isName.construct?_eq

/-- The parameters of a lambda are read with its arrow. -/
theorem Parameters.writes {ts : List Token} {params : Tree} {rest : List Token}
    (head : Parameters ts params rest) : Writes ts (.arrow :: params.constructs) rest := by
  have arrow {token : Token} (isArrow : IsMark .arrow token) {ts rest : List Token}
      {xs : List Construct} (first : Writes ts xs (token :: rest)) : Writes ts (.arrow :: xs) rest := by
    have writes := first.then
    rwa [isArrow.construct?_eq] at writes
  cases head with
  | name isName isArrow => exact arrow isArrow (.skip isName.construct?_eq _)
  | none isOpen isClose isArrow =>
    exact arrow isArrow ((Writes.skip isClose.construct?_eq _).after isOpen.construct?_eq)
  | names isOpen listed isClose isArrow =>
    rw [spanning, Tree.constructs_node]
    exact arrow isArrow ((listed.writes.past isClose.construct?_eq).after isOpen.construct?_eq)

mutual

/-- The tokens of an expression write the constructs that its nodes are. -/
theorem Derives.writes {n : Nat} {ℓ : Level} {ts : List Token} {t : Tree} {rest : List Token} :
    Derives n ℓ ts t rest → Writes ts t.constructs rest
  | .tighter inner => inner.writes
  | .assign left isOp right => by
    rw [spanning, Tree.constructs_pair]
    have writes := left.writes.between right.writes
    rwa [isOp.construct?_eq] at writes
  | .lambda head inner => by
    rw [spanning, Tree.constructs_pair]
    exact head.writes.append inner.writes
  | .ternary first isQuestion second isColon third => by
    rw [spanning, Tree.constructs_triple]
    have alternatives := (second.writes.past isColon.construct?_eq).append third.writes
    exact (first.writes.past isQuestion.construct?_eq).append alternatives
  | .flat listed operands _ => by
    obtain ⟨silent, plain⟩ := construct?_of_mem_flatOperators listed
    rw [spanning, Tree.constructs_node, plain]
    exact operands.writes silent
  | .binary listed first isOp second => by
    rw [spanning, Tree.constructs_pair, ← construct?_of_mem_leftOperators listed,
      ← isOp.construct?_eq]
    exact first.writes.between second.writes
  | .prefixed listed isOp inner => by
    obtain ⟨silent, plain⟩ := construct?_of_mem_prefixOperators listed
    rw [Tree.constructs_node, plain, Tree.constructsAll_cons, Tree.constructsAll_nil,
      List.append_nil]
    exact inner.writes.after (isOp.construct?_eq.trans silent)
  | .property inner isDot isName => by
    rw [spanning, Tree.constructs_pair]
    have target := inner.writes.past isDot.construct?_eq
    exact target.append (.skip isName.construct?_eq _)
  | .method inner isDot isName isOpen list => by
    rw [spanning, Tree.constructs_triple, Tree.constructs_node]
    have target := (inner.writes.past isDot.construct?_eq).append (.skip isName.construct?_eq _)
    rw [List.append_nil] at target
    exact target.append ((list.writes rfl).after isOpen.construct?_eq)
  | .index inner isOpen nested isClose => by
    rw [Tree.constructs_pair]
    have target := inner.writes.past isOpen.construct?_eq
    exact target.append (nested.writes.past isClose.construct?_eq)
  | .literal isLiteral => .skip (construct?_of_literal? isLiteral) _
  | .identifier isName _ => .skip isName.construct?_eq _
  | .call isName isOpen list => by
    rw [Tree.constructs_node]
    exact ((list.writes rfl).after isOpen.construct?_eq).after isName.construct?_eq
  | .qualifiedCall isScope ⟨isColon, isName, isOpen, _⟩ list => by
    rw [Tree.constructs_node]
    have arguments := (list.writes rfl).after isOpen.construct?_eq
    exact ((arguments.after isName.construct?_eq).after isColon.construct?_eq).after
      isScope.construct?_eq
  | .parentheses isOpen inner isClose =>
    (inner.writes.past isClose.construct?_eq).after isOpen.construct?_eq
  | .list isOpen list => by
    rw [Tree.constructs_node]
    exact (list.writes rfl).after isOpen.construct?_eq

theorem Series.writes {n : Nat} {ℓ : Level} {mark : Mark} {ts : List Token} {trees : List Tree}
    {rest : List Token} :
    Series n ℓ mark ts trees rest → mark.construct? = none → Writes ts (Tree.constructsAll trees) rest
  | .one last, _ => by
    rw [Tree.constructsAll_cons, Tree.constructsAll_nil, List.append_nil]
    exact last.writes
  | .more first isOp others, silent => by
    rw [Tree.constructsAll_cons]
    exact (first.writes.past (isOp.construct?_eq.trans silent)).append (others.writes silent)

theorem Items.writes {n : Nat} {mark : Mark} {ts : List Token} {trees : List Tree}
    {close : Token} {rest : List Token} :
    Items n mark ts trees close rest → mark.construct? = none →
      Writes ts (Tree.constructsAll trees) rest
  | .none isClose, silent => .skip (isClose.construct?_eq.trans silent) _
  | .some listed isClose, silent => (listed.writes rfl).past (isClose.construct?_eq.trans silent)

end

end Grammar

/-! ## Rules -/

namespace Tree

variable {rule : String} {t : Tree} {tokens : List Token}

/-- The constructs that the tokens of a rule write are those of the expression that it states. -/
theorem writtenConstructs_perm (split : (Body.of rule.toList).tokens = .ok tokens)
    (parsed : Tree.parse rule = .ok t) : (writtenConstructs tokens).Perm t.constructs := by
  obtain ⟨tokens', split', derived, _⟩ := parse_eq_ok_iff.mp parsed
  rw [split] at split'
  cases split'
  obtain ⟨front, rfl, same⟩ := derived.writes
  rwa [List.append_nil]

end Tree

end TargetingRules

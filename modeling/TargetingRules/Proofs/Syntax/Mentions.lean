import Mathlib.Data.List.Forall2
import Mathlib.Data.List.Nodup
import TargetingRules.Proofs.Syntax.Assembled
import TargetingRules.Proofs.Syntax.Parsing
import TargetingRules.Proofs.Syntax.Places
import TargetingRules.Proofs.Syntax.Shape

/-!
# The operands of a rule and its nodes

Names and literals are the operands of a rule. Which tokens belong together as the name of a function
can be seen from the tokens alone: a namespace, its colon and a name, without blanks between them and
before a parenthesis, unless the first of them is the name of a member. The nodes with an image, in
pre-order, carry the texts of these groups in the order of the text. So no operand is lost, none
comes twice, and each name is in one node for a variable, a member or a function.
-/

namespace TargetingRules

open Grammar

/-! ## Groups of tokens -/

/-- Whether a token is a name or a literal. -/
def Token.isOperand (token : Token) : Bool :=
  match token.kind with
  | .mark _ => false
  | _ => true

/-- The operands that some tokens mention, each with its tokens: a name, a literal, or the name of a
function with its namespace. After a point comes the name of a member, whatever follows. -/
def mentions : List Token → List (List Token)
  | [] => []
  | ⟨.mark .dot, _, _⟩ :: ⟨.ident name, span, text⟩ :: rest =>
    [⟨.ident name, span, text⟩] :: mentions rest
  | ⟨.mark _, _, _⟩ :: rest => mentions rest
  | ⟨.ident scope, before, front⟩ :: ⟨.mark .colon, colon, sign⟩ :: ⟨.ident name, span, text⟩ ::
      ⟨.mark .openParen, _, _⟩ :: rest =>
    -- with a blank between them, the second name is called on its own
    if before.stop = colon.start ∧ colon.stop = span.start then
      [⟨.ident scope, before, front⟩, ⟨.mark .colon, colon, sign⟩, ⟨.ident name, span, text⟩] ::
        mentions rest
    else [⟨.ident scope, before, front⟩] :: [⟨.ident name, span, text⟩] :: mentions rest
  | token :: rest => [token] :: mentions rest

/-- The text of a group of tokens. -/
def spelling (group : List Token) : String :=
  String.join (group.map Token.text)

/-- The place of a group of tokens. -/
def extent (group : List Token) : Span :=
  Span.cover (group.map Token.span)

section Scanning

variable {token : Token} {rest : List Token}

theorem mentions_mark {mark : Mark} (isMark : IsMark mark token) (noPoint : mark ≠ .dot)
    (rest : List Token) : mentions (token :: rest) = mentions rest := by
  obtain ⟨kind, span, text⟩ := token
  cases isMark
  rw [mentions]
  exact fun _ _ _ _ _ same => noPoint same

theorem mentions_member {dot name : Token} (isDot : IsMark .dot dot) (isName : IsName name)
    (rest : List Token) : mentions (dot :: name :: rest) = [name] :: mentions rest := by
  obtain ⟨kind, span, text⟩ := dot
  obtain ⟨kind', span', text'⟩ := name
  obtain ⟨name, isIdent⟩ := isName
  cases isDot
  cases isIdent
  rw [mentions]

theorem mentions_literal {kind : LiteralKind} (isLiteral : literal? token.kind = some kind)
    (rest : List Token) : mentions (token :: rest) = [token] :: mentions rest := by
  obtain ⟨what, span, text⟩ := token
  cases what with
  | ident name => cases isLiteral
  | mark mark => cases isLiteral
  | _ => rfl

theorem mentions_name (isName : IsName token) (unqualified : ¬ OpensQualified token rest) :
    mentions (token :: rest) = [token] :: mentions rest := by
  obtain ⟨kind, before, front⟩ := token
  obtain ⟨scope, isIdent⟩ := isName
  cases isIdent
  rw [mentions.eq_def]
  split
  · next same => cases same
  · next same => cases same
  · next same => cases same
  · next same =>
    cases same
    split
    · next adjacent => exact absurd ⟨rfl, ⟨_, rfl⟩, rfl, adjacent⟩ unqualified
    · rfl
  · next same =>
    cases same
    rfl

theorem mentions_qualified {scope colon name opening : Token} (isScope : IsName scope)
    (qualified : OpensQualified scope (colon :: name :: opening :: rest)) :
    mentions (scope :: colon :: name :: opening :: rest) = [scope, colon, name] :: mentions rest := by
  obtain ⟨isColon, isName, isOpen, first, second⟩ := qualified
  obtain ⟨kind, before, front⟩ := scope
  obtain ⟨kind', place, sign⟩ := colon
  obtain ⟨form, span, text⟩ := name
  obtain ⟨sort, _, _⟩ := opening
  obtain ⟨scope, isScope⟩ := isScope
  obtain ⟨name, isName⟩ := isName
  cases isScope
  cases isColon
  cases isName
  cases isOpen
  rw [mentions, if_pos ⟨first, second⟩]

/-- No operand is left out, and none is mentioned twice. -/
theorem filter_mentions (ts : List Token) :
    (mentions ts).flatten.filter Token.isOperand = ts.filter Token.isOperand := by
  fun_induction mentions ts with
  | case1 => rfl
  | case2 point spot name span text rest ih =>
    rw [List.flatten_cons, List.filter_append, ih]
    rfl
  | case3 mark span text rest noName ih =>
    rw [ih]
    rfl
  | case4 scope before front colon sign name span text opening paren rest adjacent ih =>
    rw [List.flatten_cons, List.filter_append, ih]
    rfl
  | case5 scope before front colon sign name span text opening paren rest apart ih =>
    rw [List.flatten_cons, List.flatten_cons, List.filter_append, List.filter_append, ih]
    rfl
  | case6 token rest noMember noMark noCall ih =>
    rw [List.flatten_cons, List.filter_append, ih, List.filter_cons, List.filter_cons]
    split
    · rfl
    · rfl

/-- The tokens of the operands stand in the order of all tokens. -/
theorem flatten_mentions_sublist (ts : List Token) : (mentions ts).flatten.Sublist ts := by
  fun_induction mentions ts with
  | case1 => exact .slnil
  | case2 point spot name span text rest ih => exact .cons _ (ih.cons_cons _)
  | case3 mark span text rest noName ih => exact .cons _ ih
  | case4 scope before front colon sign name span text opening paren rest adjacent ih =>
    exact ((((ih.cons _).cons_cons _).cons_cons _).cons_cons _)
  | case5 scope before front colon sign name span text opening paren rest apart ih =>
    exact ((((ih.cons _).cons_cons _).cons _).cons_cons _)
  | case6 token rest noMember noMark noCall ih => exact ih.cons_cons _

end Scanning

/-! ## Nodes with images -/

namespace Tree

/-- The labels of the nodes of an expression that have an image, in pre-order. -/
def imaged (t : Tree) : List Label :=
  (t.preorder.map label).filter fun label => label.image.isSome

/-- The same of expressions in order. -/
def imagedAll (ts : List Tree) : List Label :=
  ((preorderAll ts).map label).filter fun label => label.image.isSome

@[simp] theorem imagedAll_nil : imagedAll [] = [] := rfl

@[simp] theorem imagedAll_cons (t : Tree) (ts : List Tree) :
    imagedAll (t :: ts) = t.imaged ++ imagedAll ts := by
  simp only [imagedAll, imaged, preorderAll, List.map_append, List.filter_append]

variable {kind : Kind} {span : Span} {children : List Tree}

theorem imaged_node : (node kind none span children).imaged = imagedAll children := by
  simp only [imaged, imagedAll, preorder, List.map_cons, List.filter_cons, label, Tree.image,
    Option.isSome_none, Bool.false_eq_true, ↓reduceIte]

theorem imaged_node_some (image : String) :
    (node kind (some image) span children).imaged =
      ⟨kind, some image, span, children.isEmpty⟩ :: imagedAll children := by
  simp only [imaged, imagedAll, preorder, List.map_cons, List.filter_cons, label, Tree.image,
    Tree.kind, Tree.span, Tree.children, Option.isSome_some, ↓reduceIte]

theorem imaged_pair (first second : Tree) :
    (node kind none span [first, second]).imaged = first.imaged ++ second.imaged := by
  simp only [imaged_node, imagedAll_cons, imagedAll_nil, List.append_nil]

theorem imaged_triple (first second third : Tree) :
    (node kind none span [first, second, third]).imaged =
      first.imaged ++ (second.imaged ++ third.imaged) := by
  simp only [imaged_node, imagedAll_cons, imagedAll_nil, List.append_nil]

end Tree

/-- A node carries the text of a group of tokens: a literal that of a literal, and a variable, a member
or a function that of a name; only a function that of a name with a namespace. -/
inductive Label.Carries : Label → List Token → Prop where
  | literal {token kind isLeaf} (isLiteral : literal? token.kind = some kind) :
      Carries ⟨.literal kind, some token.text, token.span, isLeaf⟩ [token]
  | leaf {token kind isLeaf} (isName : IsName token)
      (isNamed : kind = .identifier ∨ kind = .member) :
      Carries ⟨kind, some token.text, token.span, isLeaf⟩ [token]
  | function {token span isLeaf} (isName : IsName token) :
      Carries ⟨.function, some token.text, span, isLeaf⟩ [token]
  | qualified {scope colon name span isLeaf} (isScope : IsName scope)
      (isColon : IsMark .colon colon) (isName : IsName name) (first : Adjacent scope colon)
      (second : Adjacent colon name) :
      Carries ⟨.function, some (scope.text ++ ":" ++ name.text), span, isLeaf⟩ [scope, colon, name]

namespace Grammar

/-- Some tokens are read from the front, and nodes carry the operands that they mention. -/
def Mentioned (ts : List Token) (labels : List Label) (rest : List Token) : Prop :=
  ∃ groups, mentions ts = groups ++ mentions rest ∧ List.Forall₂ Label.Carries labels groups

section Mentioned

variable {ts middle rest : List Token} {xs ys : List Label} {token : Token} {mark : Mark}

theorem Mentioned.append (first : Mentioned ts xs middle) (second : Mentioned middle ys rest) :
    Mentioned ts (xs ++ ys) rest := by
  obtain ⟨groups, split, carried⟩ := first
  obtain ⟨groups', split', carried'⟩ := second
  refine ⟨groups ++ groups', ?_, List.rel_append carried carried'⟩
  rw [split, split', List.append_assoc]

theorem Mentioned.one {label : Label} {group : List Token}
    (split : mentions ts = group :: mentions rest) (carries : label.Carries group) :
    Mentioned ts [label] rest :=
  ⟨[group], split, .cons carries .nil⟩

/-- A mark mentions nothing. -/
theorem Mentioned.skip (isMark : IsMark mark token) (noPoint : mark ≠ .dot) (rest : List Token) :
    Mentioned (token :: rest) [] rest :=
  ⟨[], mentions_mark isMark noPoint rest, .nil⟩

/-- A mark after what was read. -/
theorem Mentioned.past (first : Mentioned ts xs (token :: rest)) (isMark : IsMark mark token)
    (noPoint : mark ≠ .dot) : Mentioned ts xs rest := by
  have both := first.append (.skip isMark noPoint rest)
  rwa [List.append_nil] at both

/-- A mark before what was read. -/
theorem Mentioned.after (second : Mentioned ts xs rest) (isMark : IsMark mark token)
    (noPoint : mark ≠ .dot) : Mentioned (token :: ts) xs rest :=
  (Mentioned.skip isMark noPoint ts).append second

theorem Mentioned.identifier (isName : IsName token) (unqualified : ¬ OpensQualified token rest) :
    Mentioned (token :: rest) (leaf .identifier token).imaged rest :=
  .one (mentions_name isName unqualified) (.leaf isName (.inl rfl))

/-- The name of a member with the point before it. -/
theorem Mentioned.member {dot name : Token} (isDot : IsMark .dot dot) (isName : IsName name)
    (rest : List Token) : Mentioned (dot :: name :: rest) (leaf .member name).imaged rest :=
  .one (mentions_member isDot isName rest) (.leaf isName (.inr rfl))

/-- A name before a mark other than a colon is the namespace of nothing. -/
theorem not_opensQualified_of_mark {op : Token} (isMark : IsMark mark op)
    (noColon : mark ≠ .colon) (rest : List Token) : ¬ OpensQualified token (op :: rest) := by
  intro qualified
  match rest, qualified with
  | _ :: _ :: _, ⟨isColon, _⟩ => exact noColon (isMark.unique isColon)

theorem Mentioned.called {opening : Token} {span : Span} {isLeaf : Bool} (isName : IsName token)
    (isOpen : IsMark .openParen opening) :
    Mentioned (token :: opening :: rest) [⟨.function, some token.text, span, isLeaf⟩]
      (opening :: rest) := by
  have unqualified : ¬ OpensQualified token (opening :: rest) :=
    not_opensQualified_of_mark isOpen (by decide) rest
  exact .one (mentions_name isName unqualified) (.function isName)

theorem Mentioned.qualified {scope colon name opening : Token} {span : Span} {isLeaf : Bool}
    (isScope : IsName scope) (qualified : OpensQualified scope (colon :: name :: opening :: rest)) :
    Mentioned (scope :: colon :: name :: opening :: rest)
      [⟨.function, some (scope.text ++ ":" ++ name.text), span, isLeaf⟩] rest := by
  have ⟨isColon, isName, _, first, second⟩ := qualified
  exact .one (mentions_qualified isScope qualified) (.qualified isScope isColon isName first second)

end Mentioned

theorem Names.mentioned {ts names rest : List Token} (listed : Names ts names rest)
    (closed : ∀ name, ¬ OpensQualified name rest) :
    Mentioned ts (Tree.imagedAll (names.map (leaf .identifier))) rest := by
  induction listed with
  | one isName =>
    rw [List.map_singleton, Tree.imagedAll_cons, Tree.imagedAll_nil, List.append_nil]
    exact .identifier isName (closed _)
  | @more name comma ts names rest isName isComma _ ih =>
    rw [List.map_cons, Tree.imagedAll_cons]
    have first := Mentioned.identifier isName (not_opensQualified_of_mark isComma (by decide) ts)
    exact (first.past isComma (by decide)).append (ih closed)

theorem Parameters.mentioned {ts : List Token} {params : Tree} {rest : List Token}
    (head : Parameters ts params rest) : Mentioned ts params.imaged rest := by
  cases head with
  | name isName isArrow =>
    have name := Mentioned.identifier isName (not_opensQualified_of_mark isArrow (by decide) rest)
    rw [spanning, Tree.imaged_node, Tree.imagedAll_cons, Tree.imagedAll_nil, List.append_nil]
    exact name.past isArrow (by decide)
  | none isOpen isClose isArrow =>
    exact ((Mentioned.skip isOpen (by decide) _).past isClose (by decide)).past isArrow (by decide)
  | names isOpen listed isClose isArrow =>
    have names := listed.mentioned fun _ => not_opensQualified_of_mark isClose (by decide) _
    rw [spanning, Tree.imaged_node]
    exact ((names.past isClose (by decide)).past isArrow (by decide)).after isOpen (by decide)

theorem ne_dot_of_mem_flatOperators {ℓ : Level} {mark : Mark} {kind : Kind}
    (listed : (mark, kind) ∈ ℓ.flatOperators) : mark ≠ .dot := by
  have all : ∀ entry ∈ ℓ.flatOperators, entry.1 ≠ .dot := by cases ℓ <;> decide
  exact all _ listed

theorem ne_dot_of_mem_leftOperators {ℓ : Level} {mark : Mark} {kind : Kind}
    (listed : (mark, kind) ∈ ℓ.leftOperators) : mark ≠ .dot := by
  have all : ∀ entry ∈ ℓ.leftOperators, entry.1 ≠ .dot := by cases ℓ <;> decide
  exact all _ listed

theorem ne_dot_of_mem_prefixOperators {mark : Mark} {kind : Kind}
    (listed : (mark, kind) ∈ prefixOperators) : mark ≠ .dot := by
  have all : ∀ entry ∈ prefixOperators, entry.1 ≠ .dot := by decide
  exact all _ listed

mutual

/-- The nodes of an expression carry the operands that its tokens mention. -/
theorem Derives.mentioned {n : Nat} {ℓ : Level} {ts : List Token} {t : Tree} {rest : List Token} :
    Derives n ℓ ts t rest → Mentioned ts t.imaged rest
  | .tighter inner => inner.mentioned
  | .assign left isOp right => by
    rw [spanning, Tree.imaged_pair]
    exact (left.mentioned.past isOp (by decide)).append right.mentioned
  | .lambda head inner => by
    rw [spanning, Tree.imaged_pair]
    exact head.mentioned.append inner.mentioned
  | .ternary first isQuestion second isColon third => by
    rw [spanning, Tree.imaged_triple]
    have alternatives := (second.mentioned.past isColon (by decide)).append third.mentioned
    exact (first.mentioned.past isQuestion (by decide)).append alternatives
  | .flat listed operands _ => by
    rw [spanning, Tree.imaged_node]
    exact operands.mentioned (ne_dot_of_mem_flatOperators listed)
  | .binary listed first isOp second => by
    rw [spanning, Tree.imaged_pair]
    exact (first.mentioned.past isOp (ne_dot_of_mem_leftOperators listed)).append second.mentioned
  | .prefixed listed isOp inner => by
    rw [Tree.imaged_node, Tree.imagedAll_cons, Tree.imagedAll_nil, List.append_nil]
    exact inner.mentioned.after isOp (ne_dot_of_mem_prefixOperators listed)
  | .property inner isDot isName => by
    rw [spanning, Tree.imaged_pair]
    exact inner.mentioned.append (.member isDot isName _)
  | .method inner isDot isName isOpen list => by
    rw [spanning, Tree.imaged_triple, Tree.imaged_node]
    have arguments := (list.mentioned (by decide)).after isOpen (by decide)
    exact inner.mentioned.append ((Mentioned.member isDot isName _).append arguments)
  | .index inner isOpen nested isClose => by
    rw [Tree.imaged_pair]
    have target := inner.mentioned.past isOpen (by decide)
    exact target.append (nested.mentioned.past isClose (by decide))
  | .literal isLiteral => .one (mentions_literal isLiteral _) (.literal isLiteral)
  | .identifier isName unqualified => .identifier isName unqualified
  | .call isName isOpen list => by
    rw [Tree.imaged_node_some]
    have arguments := (list.mentioned (by decide)).after isOpen (by decide)
    exact (Mentioned.called isName isOpen).append arguments
  | .qualifiedCall isScope qualified list => by
    rw [Tree.imaged_node_some]
    exact (Mentioned.qualified isScope qualified).append (list.mentioned (by decide))
  | .parentheses isOpen inner isClose =>
    (inner.mentioned.past isClose (by decide)).after isOpen (by decide)
  | .list isOpen list => by
    rw [Tree.imaged_node]
    exact (list.mentioned (by decide)).after isOpen (by decide)

theorem Series.mentioned {n : Nat} {ℓ : Level} {mark : Mark} {ts : List Token} {trees : List Tree}
    {rest : List Token} :
    Series n ℓ mark ts trees rest → mark ≠ .dot → Mentioned ts (Tree.imagedAll trees) rest
  | .one last, _ => by
    rw [Tree.imagedAll_cons, Tree.imagedAll_nil, List.append_nil]
    exact last.mentioned
  | .more first isOp others, noPoint => by
    rw [Tree.imagedAll_cons]
    exact (first.mentioned.past isOp noPoint).append (others.mentioned noPoint)

theorem Items.mentioned {n : Nat} {mark : Mark} {ts : List Token} {trees : List Tree}
    {close : Token} {rest : List Token} :
    Items n mark ts trees close rest → mark ≠ .dot → Mentioned ts (Tree.imagedAll trees) rest
  | .none isClose, noPoint => .skip isClose noPoint _
  | .some listed isClose, noPoint => (listed.mentioned (by decide)).past isClose noPoint

end

end Grammar

/-! ## Texts of groups -/

namespace Lexer

theorem IsLexeme.colon {c : Char} {cs : List Char} {kind : TokenKind} {length : Nat}
    (isLexeme : IsLexeme c cs kind length) (isColon : kind = .mark .colon) :
    c :: cs.take length = [':'] := by
  cases isLexeme with
  | number digit read => cases isColon
  | string noDigit quote run => cases isColon
  | word noDigit noQuote starts =>
    have noKeyword : ∀ entry ∈ keywords, entry.2 ≠ .mark .colon := by simp [keywords]
    rcases wordKind_cases (String.ofList (c :: cs.take (wordRun cs))) with ⟨entry, member, same⟩ | same
    · exact absurd (same.symm.trans isColon) (noKeyword entry member)
    · rw [isColon] at same
      cases same
  | symbol noDigit noQuote noWord found =>
    cases isColon
    obtain ⟨symbol, member, front, rfl⟩ := symbol?_eq_some found
    have only : ∀ entry ∈ symbols, entry.2 = .colon → entry.1 = [':'] := by decide
    obtain rfl : symbol = [':'] := only _ member rfl
    obtain ⟨after, split⟩ := front
    cases split
    rfl

/-- A colon is written as one. -/
theorem Splits.text_of_colon {pos : Nat} {cs : List Char} {ts : List Token}
    (splits : Splits pos cs ts) : ∀ token ∈ ts, IsMark .colon token → token.text = ":" := by
  induction splits with
  | nil => simp
  | blank _ _ ih => exact ih
  | lexeme _ isLexeme _ _ ih =>
    simp only [List.forall_mem_cons]
    exact ⟨fun isColon => by rw [isLexeme.colon isColon], ih⟩

end Lexer

theorem spelling_qualified {scope colon name : Token} (sign : colon.text = ":") :
    spelling [scope, colon, name] = scope.text ++ ":" ++ name.text := by
  simp only [spelling, List.map_cons, List.map_nil, sign, String.join, List.foldl_cons,
    List.foldl_nil, String.empty_append]

/-- The image of a node is the text of the tokens that it carries. -/
theorem Label.Carries.image_eq {label : Label} {group : List Token} (carries : label.Carries group)
    (signs : ∀ token ∈ group, IsMark .colon token → token.text = ":") :
    label.image = some (spelling group) := by
  cases carries with
  | literal isLiteral => simp [spelling]
  | leaf isName isNamed => simp [spelling]
  | function isName => simp [spelling]
  | qualified isScope isColon isName first second =>
    rw [spelling_qualified (signs _ (by simp) isColon)]

theorem Text.eq_of_byteLength_eq {before before' after after' : List Char}
    (same : before ++ after = before' ++ after')
    (bytes : Text.byteLength before = Text.byteLength before') : before = before' := by
  induction before generalizing before' with
  | nil =>
    cases before' with
    | nil => rfl
    | cons c before' =>
      have := c.utf8Size_pos
      simp only [Text.byteLength_nil, Text.byteLength_cons] at bytes
      omega
  | cons c before ih =>
    cases before' with
    | nil =>
      have := c.utf8Size_pos
      simp only [Text.byteLength_nil, Text.byteLength_cons] at bytes
      omega
    | cons d before' =>
      obtain ⟨rfl, tails⟩ := List.cons.inj same
      simp only [Text.byteLength_cons, Nat.add_left_cancel_iff] at bytes
      rw [ih tails bytes]

/-- Texts that touch are one text. -/
theorem Atom.StandsIn.join {image image' : String} {span span' : Span} {pos : Nat} {cs : List Char}
    (first : Atom.StandsIn ⟨some image, span⟩ pos cs)
    (second : Atom.StandsIn ⟨some image', span'⟩ pos cs) (touch : span.stop = span'.start) :
    Atom.StandsIn ⟨some (image ++ image'), span.join span'⟩ pos cs := by
  obtain ⟨_, before, after, ⟨⟩, whole, starts, stops⟩ := first
  obtain ⟨_, before', after', ⟨⟩, whole', starts', stops'⟩ := second
  simp only at starts stops starts' stops'
  have same : before' ++ (image'.toList ++ after') = before ++ image.toList ++ after := by
    rw [← List.append_assoc, ← whole', whole]
  have split : before' = before ++ image.toList := by
    refine Text.eq_of_byteLength_eq same ?_
    rw [Text.byteLength_append]
    omega
  refine ⟨image ++ image', before, after', rfl, ?_, ?_, ?_⟩
  · simp only [whole', split, String.toList_append, List.append_assoc]
  · simp only [Span.join]
    omega
  · simp only [Span.join, String.toList_append, Text.byteLength_append]
    omega

/-- The text of a group of tokens stands at its place. -/
theorem Label.Carries.standsIn {label : Label} {group : List Token} (carries : label.Carries group)
    {pos : Nat} {cs : List Char} (stand : ∀ token ∈ group, token.atom.StandsIn pos cs) :
    Atom.StandsIn ⟨some (spelling group), extent group⟩ pos cs := by
  have single (token : Token) : token.atom = ⟨some (spelling [token]), extent [token]⟩ := by
    simp [Token.atom, spelling, extent, Span.cover]
  cases carries with
  | @literal token => exact single token ▸ stand token List.mem_cons_self
  | @leaf token => exact single token ▸ stand token List.mem_cons_self
  | @function token => exact single token ▸ stand token List.mem_cons_self
  | @qualified scope colon name _ _ isScope isColon isName first second =>
    simp only [List.forall_mem_cons] at stand
    obtain ⟨scopeStands, colonStands, nameStands, _⟩ := stand
    have forward : colon.span.start ≤ colon.span.stop := by
      obtain ⟨_, _, _, _, _, _, stops⟩ := colonStands
      exact Nat.le.intro (Eq.symm stops)
    have touch : (scope.span.join colon.span).stop = name.span.start := by
      simp only [Adjacent] at first second
      simp only [Span.join]
      omega
    have whole := (scopeStands.join colonStands first).join nameStands touch
    simpa [spelling, extent, Span.cover, String.append_assoc] using whole

/-! ## Rules -/

/-- Each name is in one group only. -/
theorem index_unique {ts : List Token} (distinct : ts.Nodup) {token : Token}
    (isOperand : token.isOperand = true) {i j : Nat} {group other : List Token}
    (here : (mentions ts)[i]? = some group) (there : (mentions ts)[j]? = some other)
    (inside : token ∈ group) (inside' : token ∈ other) : i = j := by
  have once : ((mentions ts).map (List.filter Token.isOperand)).flatten.Nodup := by
    rw [← List.filter_flatten, filter_mentions]
    exact distinct.filter _
  obtain ⟨bound, rfl⟩ := List.getElem?_eq_some_iff.mp here
  obtain ⟨bound', rfl⟩ := List.getElem?_eq_some_iff.mp there
  refine SyntaxTree.index_unique_of_nodup_flatten once (x := token) (by simpa) (by simpa) ?_ ?_
  · rw [List.getElem_map]
    exact List.mem_filter.mpr ⟨inside, isOperand⟩
  · rw [List.getElem_map]
    exact List.mem_filter.mpr ⟨inside', isOperand⟩

theorem Lexer.Splits.nodup {pos : Nat} {cs : List Char} {ts : List Token}
    (splits : Lexer.Splits pos cs ts) : ts.Nodup := by
  refine (List.pairwise_map.mp splits.ordered.pairwise).imp ?_
  rintro first second before rfl
  exact Nat.lt_irrefl _ before

theorem Grammar.IsName.isOperand {token : Token} (isName : IsName token) : token.isOperand = true := by
  obtain ⟨name, isIdent⟩ := isName
  rw [Token.isOperand, isIdent]

/-- A name is carried by a variable, a member or a function. -/
theorem Label.Carries.kind_of_isName {label : Label} {group : List Token}
    (carries : label.Carries group) {token : Token} (inside : token ∈ group)
    (isName : IsName token) :
    label.kind = .identifier ∨ label.kind = .member ∨ label.kind = .function := by
  cases carries with
  | @literal other _ _ isLiteral =>
    obtain rfl := List.mem_singleton.mp inside
    obtain ⟨name, isIdent⟩ := isName
    rw [isIdent] at isLiteral
    cases isLiteral
  | leaf _ isNamed => exact isNamed.imp_right .inl
  | function _ => exact .inr (.inr rfl)
  | qualified _ _ _ _ _ => exact .inr (.inr rfl)

namespace SyntaxTree

/-- The nodes that the root leads to and that have an image, in pre-order. -/
def imaged (tree : SyntaxTree) : List Node :=
  tree.visited.filter fun node => node.image.isSome

theorem labels_imaged (tree : SyntaxTree) :
    tree.imaged.map Node.label = tree.unfold.imaged := by
  rw [Tree.imaged, ← labels_visited, List.filter_map]
  rfl

theorem filterMap_imaged (tree : SyntaxTree) :
    tree.visited.filterMap Node.image = tree.imaged.filterMap Node.image := by
  rw [imaged, List.filterMap_filter]
  refine List.filterMap_congr fun node _ => ?_
  cases node.image <;> rfl

/-- The nodes with an image carry the operands of a rule, one for one and in order. -/
structure KeepsOperands (tree : SyntaxTree) (rule : String) (tokens : List Token) : Prop where
  /-- The images in pre-order are the texts of the operands in order. -/
  images : tree.visited.filterMap Node.image = (mentions tokens).map spelling
  /-- Each node is of a kind that suits its operand. -/
  carries : List.Forall₂ (fun node group => node.label.Carries group) tree.imaged
    (mentions tokens)
  /-- The operands are all names and literals in their order; only colons stand between them. -/
  operands : (mentions tokens).flatten.Sublist tokens ∧
    (mentions tokens).flatten.filter Token.isOperand = tokens.filter Token.isOperand
  /-- The text of an operand stands in the rule at the place of its tokens. -/
  source : ∀ group ∈ mentions tokens,
    Atom.StandsIn ⟨some (spelling group), extent group⟩ 0 rule.toList
  /-- Each name is in exactly one of the nodes for variables, members and functions. -/
  names : ∀ token ∈ tokens, IsName token →
    ∃! i : Nat, ∃ (node : Node) (group : List Token),
      tree.imaged[i]? = some node ∧ (mentions tokens)[i]? = some group ∧ token ∈ group ∧
        (node.kind = .identifier ∨ node.kind = .member ∨ node.kind = .function)

theorem exists_node_of_isName {nodes : List Node} {tokens : List Token}
    (carries : List.Forall₂ (fun node group => node.label.Carries group) nodes (mentions tokens))
    {token : Token} (member : token ∈ tokens) (isName : IsName token) :
    ∃ (i : Nat) (node : Node) (group : List Token),
      nodes[i]? = some node ∧ (mentions tokens)[i]? = some group ∧ token ∈ group ∧
        (node.kind = .identifier ∨ node.kind = .member ∨ node.kind = .function) := by
  have among : token ∈ (mentions tokens).flatten.filter Token.isOperand := by
    rw [filter_mentions]
    exact List.mem_filter.mpr ⟨member, isName.isOperand⟩
  obtain ⟨group, listed, inside⟩ := List.mem_flatten.mp (List.mem_filter.mp among).1
  obtain ⟨i, bound, rfl⟩ := List.mem_iff_getElem.mp listed
  have bound' : i < nodes.length := by rwa [carries.length_eq]
  have carried := carries.get bound' bound
  exact ⟨i, nodes[i], _, List.getElem?_eq_getElem bound', List.getElem?_eq_getElem bound, inside,
    carried.kind_of_isName inside isName⟩

theorem images_of_carries {nodes : List Node} {groups : List (List Token)}
    (carries : List.Forall₂ (fun node group => node.label.Carries group) nodes groups)
    (signs : ∀ token ∈ groups.flatten, IsMark .colon token → token.text = ":") :
    nodes.filterMap Node.image = groups.map spelling := by
  induction carries with
  | nil => rfl
  | @cons node group nodes groups first _ ih =>
    rw [List.flatten_cons, List.forall_mem_append] at signs
    have image : node.image = some (spelling group) := first.image_eq signs.1
    rw [List.filterMap_cons_some image, List.map_cons, ih signs.2]

/-- No operand of a rule is lost, comes twice or changes its place. -/
theorem keepsOperands_of_parse {rule : String} {tree : SyntaxTree}
    (success : SyntaxTree.parse rule = .ok tree) :
    ∃ tokens, (Body.of rule.toList).tokens = .ok tokens ∧ tree.KeepsOperands rule tokens := by
  obtain ⟨t, parsed, rfl⟩ := parse_eq_ok_iff.mp success
  obtain ⟨tokens, split, derived, _⟩ := Tree.parse_eq_ok_iff.mp parsed
  have splits := Lexer.splits_of_tokens split
  refine ⟨tokens, split, ?_⟩
  obtain ⟨groups, all, carried⟩ := derived.mentioned
  rw [mentions, List.append_nil] at all
  subst all
  rw [← unfold_ofTree t, ← labels_imaged, List.forall₂_map_left_iff] at carried
  generalize ofTree t = tree at *
  have sub := flatten_mentions_sublist tokens
  constructor
  case images =>
    rw [filterMap_imaged]
    exact images_of_carries carried fun token member => splits.text_of_colon token (sub.subset member)
  case carries => exact carried
  case operands => exact ⟨sub, filter_mentions tokens⟩
  case source =>
    intro group listed
    obtain ⟨i, bound, rfl⟩ := List.mem_iff_getElem.mp listed
    have carries := carried.get (by rwa [carried.length_eq]) bound
    have inside : ∀ token ∈ (mentions tokens)[i], token ∈ tokens := fun token member =>
      sub.subset (List.mem_flatten_of_mem listed member)
    exact (carries.standsIn fun token member => splits.standsIn token (inside token member)).whole
  case names =>
    intro token member isName
    obtain ⟨i, node, group, here, there, inside, named⟩ :=
      exists_node_of_isName carried member isName
    refine ⟨i, ⟨node, group, here, there, inside, named⟩, ?_⟩
    rintro j ⟨_, other, _, elsewhere, inside', _⟩
    exact index_unique splits.nodup isName.isOperand elsewhere there inside' inside

/-- The expression `p.a ? s:f(true) : b`. -/
def colons : Tree :=
  .node .ternary none ⟨0, 19⟩ [
    .node .property none ⟨0, 3⟩ [.node .identifier (some "p") ⟨0, 1⟩ [],
      .node .member (some "a") ⟨2, 3⟩ []],
    .node .function (some "s:f") ⟨6, 15⟩ [.node (.literal .boolean) (some "true") ⟨10, 14⟩ []],
    .node .identifier (some "b") ⟨18, 19⟩ []]

theorem tokens_colons : (Body.of "p.a ? s:f(true) : b".toList).tokens = .ok [
    ⟨.ident "p", ⟨0, 1⟩, "p"⟩, ⟨.mark .dot, ⟨1, 2⟩, "."⟩, ⟨.ident "a", ⟨2, 3⟩, "a"⟩,
    ⟨.mark .question, ⟨4, 5⟩, "?"⟩, ⟨.ident "s", ⟨6, 7⟩, "s"⟩, ⟨.mark .colon, ⟨7, 8⟩, ":"⟩,
    ⟨.ident "f", ⟨8, 9⟩, "f"⟩, ⟨.mark .openParen, ⟨9, 10⟩, "("⟩, ⟨.bool true, ⟨10, 14⟩, "true"⟩,
    ⟨.mark .closeParen, ⟨14, 15⟩, ")"⟩, ⟨.mark .colon, ⟨16, 17⟩, ":"⟩,
    ⟨.ident "b", ⟨18, 19⟩, "b"⟩] :=
  Lexer.tokens_of_split? (n := 20) rfl

theorem parse_colons : SyntaxTree.parse "p.a ? s:f(true) : b" = .ok (ofTree colons) :=
  parse_of_run (.fail .empty) tokens_colons rfl rfl rfl rfl

/-- A namespace and its colon count as one with the name, and the colon of a ternary as nothing. -/
theorem keepsOperands_colons :
    SyntaxTree.parse "p.a ? s:f(true) : b" = .ok (ofTree colons) ∧
      (ofTree colons).visited.filterMap Node.image = ["p", "a", "s:f", "true", "b"] := by
  obtain ⟨tokens, split, keeps⟩ := keepsOperands_of_parse parse_colons
  rw [tokens_colons] at split
  cases split
  exact ⟨parse_colons, keeps.images⟩

end SyntaxTree

end TargetingRules

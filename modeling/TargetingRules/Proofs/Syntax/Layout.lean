import TargetingRules.Proofs.Syntax.InStep

/-!
# Layout and the spelling of operators

Two rules whose tokens differ in their places and in the spelling of operators alone state the same, or
are refused for the same reason. The one thing about places that counts is whether a name and a colon
touch, in either order; the blanks between other tokens and the delimiters around the body are free.
-/

namespace TargetingRules

open Grammar

/-- A name and a colon, in either order, stand at a position of a list and the next one, without a blank
between them. -/
def TouchesAt (ts : List Token) (i : Nat) : Prop :=
  ∃ first second, ts[i]? = some first ∧ ts[i + 1]? = some second ∧
    (IsName first ∧ IsMark .colon second ∨ IsMark .colon first ∧ IsName second) ∧
    Adjacent first second

/-- Two token lists differ in layout and in the spelling of operators alone: they have the same kinds of
tokens and the same texts of names and literals, and names and colons touch at the same positions. -/
structure SameButLayout (ts us : List Token) : Prop where
  words : List.Forall₂ (fun token token' => token.kind = token'.kind ∧
    (token.isOperand = true → token.text = token'.text)) ts us
  touching : ∀ i, TouchesAt ts i ↔ TouchesAt us i

namespace SameButLayout

variable {token token' : Token} {ts us : List Token}

theorem symm (same : SameButLayout ts us) : SameButLayout us ts where
  words := by
    refine same.words.flip.imp fun token token' both => ⟨both.1.symm, fun isOperand => ?_⟩
    rw [Token.isOperand, ← both.1] at isOperand
    exact (both.2 isOperand).symm
  touching i := (same.touching i).symm

theorem tail (same : SameButLayout (token :: ts) (token' :: us)) : SameButLayout ts us where
  words := (List.forall₂_cons.mp same.words).2
  touching i := same.touching (i + 1)

theorem opensQualified (same : SameButLayout (token :: ts) (token' :: us)) (isName : IsName token)
    (qualified : OpensQualified token ts) : OpensQualified token' us := by
  match ts, qualified with
  | colon :: name :: opening :: _, ⟨isColon, isNamed, isOpen, first, second⟩ =>
    have before := (same.touching 0).mp ⟨token, colon, rfl, rfl, .inl ⟨isName, isColon⟩, first⟩
    have after := (same.touching 1).mp ⟨colon, name, rfl, rfl, .inr ⟨isColon, isNamed⟩, second⟩
    obtain ⟨colon', _, colons, words, rfl⟩ := List.forall₂_cons_left_iff.mp same.tail.words
    obtain ⟨name', _, names, more, rfl⟩ := List.forall₂_cons_left_iff.mp words
    obtain ⟨opening', _, openings, _, rfl⟩ := List.forall₂_cons_left_iff.mp more
    obtain ⟨_, _, ⟨⟩, ⟨⟩, _, adjacent⟩ := before
    obtain ⟨_, _, ⟨⟩, ⟨⟩, _, adjacent'⟩ := after
    refine ⟨colons.1.symm.trans isColon, ?_, openings.1.symm.trans isOpen, adjacent, adjacent'⟩
    exact isNamed.imp fun _ kind => names.1.symm.trans kind

/-- Where the places are forgotten, such lists correspond. -/
theorem corresponds (same : SameButLayout ts us) : Corresponds Span.forget Span.forget ts us := by
  induction ts generalizing us with
  | nil =>
    cases same.words
    exact .nil
  | cons token ts ih =>
    obtain ⟨token', us, both, _, rfl⟩ := List.forall₂_cons_left_iff.mp same.words
    refine .cons ⟨both.1, both.2, rfl⟩ (fun isName => ⟨?_, ?_⟩) (ih same.tail)
    · exact same.opensQualified isName
    · exact same.symm.opensQualified (isName.imp fun _ kind => both.1.symm.trans kind)

end SameButLayout

namespace SyntaxTree

/-- Rules that differ in layout and in the spelling of operators alone are both refused, with one error
but for its place, or they are both read, and the nodes of their syntax trees have the same kinds, images
and children, under the same numbers, and so have the roots. -/
theorem parse_sameButLayout {rule rule' : String} {ts us : List Token}
    (tokenized : (Body.of rule.toList).tokens = .ok ts)
    (tokenized' : (Body.of rule'.toList).tokens = .ok us) (same : SameButLayout ts us) :
    InStep (fun tree tree' => tree.relocate Span.forget = tree'.relocate Span.forget)
      (SyntaxTree.parse rule) (SyntaxTree.parse rule') :=
  parse_inStep Span.compatible_forget tokenized tokenized' same.corresponds

/-- The tokens of `x and f:g(a)`. -/
def wordTokens : List Token := [⟨.ident "x", ⟨0, 1⟩, "x"⟩, ⟨.mark .and, ⟨2, 5⟩, "and"⟩,
  ⟨.ident "f", ⟨6, 7⟩, "f"⟩, ⟨.mark .colon, ⟨7, 8⟩, ":"⟩, ⟨.ident "g", ⟨8, 9⟩, "g"⟩,
  ⟨.mark .openParen, ⟨9, 10⟩, "("⟩, ⟨.ident "a", ⟨10, 11⟩, "a"⟩, ⟨.mark .closeParen, ⟨11, 12⟩, ")"⟩]

/-- The tokens of `x  && f:g( a )` between delimiters. -/
def symbolTokens : List Token := [⟨.ident "x", ⟨3, 4⟩, "x"⟩, ⟨.mark .and, ⟨6, 8⟩, "&&"⟩,
  ⟨.ident "f", ⟨9, 10⟩, "f"⟩, ⟨.mark .colon, ⟨10, 11⟩, ":"⟩, ⟨.ident "g", ⟨11, 12⟩, "g"⟩,
  ⟨.mark .openParen, ⟨12, 13⟩, "("⟩, ⟨.ident "a", ⟨14, 15⟩, "a"⟩, ⟨.mark .closeParen, ⟨16, 17⟩, ")"⟩]

theorem sameButLayout_tokens : SameButLayout wordTokens symbolTokens where
  words := by simp [wordTokens, symbolTokens, Token.isOperand]
  touching := by
    rintro (_ | _ | _ | _ | _ | _ | _ | _ | i) <;>
      simp [TouchesAt, wordTokens, symbolTokens, IsName, IsMark, Adjacent]

/-- The expression `x and f:g(a)`. -/
def qualifiedConjunct : Tree :=
  .node .and none ⟨0, 12⟩ [.node .identifier (some "x") ⟨0, 1⟩ [],
    .node .function (some "f:g") ⟨6, 12⟩ [.node .identifier (some "a") ⟨10, 11⟩ []]]

/-- An operator as a word and as a symbol, beside the qualified name of a function. -/
theorem parse_sameButLayout_conjunction :
    SyntaxTree.parse "x and f:g(a)" = .ok (ofTree qualifiedConjunct) ∧
      SameButLayout wordTokens symbolTokens ∧
      ∃ tree, SyntaxTree.parse "$\x7b x  && f:g( a )\x7d" = .ok tree ∧
        (ofTree qualifiedConjunct).relocate Span.forget = tree.relocate Span.forget := by
  have tokenized : (Body.of "x and f:g(a)".toList).tokens = .ok wordTokens :=
    Lexer.tokens_of_split? (n := 16) rfl
  have tokenized' : (Body.of "$\x7b x  && f:g( a )\x7d".toList).tokens = .ok symbolTokens :=
    Lexer.tokens_of_split? (n := 16) rfl
  have parsed : SyntaxTree.parse "x and f:g(a)" = .ok (ofTree qualifiedConjunct) :=
    parse_of_run (.fail .empty) tokenized rfl rfl rfl rfl
  have step := parse_sameButLayout tokenized tokenized' sameButLayout_tokens
  rw [parsed] at step
  exact ⟨parsed, sameButLayout_tokens, step.exists_ok⟩

end SyntaxTree

end TargetingRules

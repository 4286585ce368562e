import TargetingRules.Evaluation.Expression
import TargetingRules.Proofs.Evaluation.Routines
import TargetingRules.Proofs.Evaluation.Surroundings
import TargetingRules.Proofs.Syntax.Indexing

/-!
# Nothing is out of range

From the text of a rule to its value, what is taken by an index or cut out by a range is there: in the
rule and its tokens, in the images of its literals, and in the arguments of functions and methods, which
can be any values and any number of them.

Every step is therefore taken here in a form that has no outcome otherwise, and turns out to have the
outcome that the definitions give which need neither indexes nor ranges.
-/

namespace TargetingRules

/-! ## Evaluation -/

namespace Surroundings

/-- Literals are cut out of their images, and arguments are taken by index. -/
def indexing (registry : Registry) (resolve : Resolver) : Surroundings Option where
  enter _ := some ()
  literal kind image :=
    match kind with
    | .string => do
      match ← liftM (Text.unquoteSlice? image.toList) with
      | some cs => return .ofChars cs
      | none => throw (.typeFault (.invalidString image))
    | kind => settled (kind.evaluate image)
  resolve name := some (resolve name)
  call := registry.call
  callMethod := Routine.callMethod

theorem reflects_indexing (registry : Registry) (resolve : Resolver) :
    (indexing registry resolve).Reflects ⟨registry.table, resolve⟩ fun _ x y => x = settled y where
  concluded result := rfl
  bind := by
    rintro α β x y f g rfl same
    rw [funext same]
    exact settled_bind y g
  enter t := rfl
  literal kind image := by
    cases kind with
    | string =>
      simp only [indexing, Text.unquoteSlice?_eq, LiteralKind.evaluate]
      cases Text.unquote? image.toList <;> rfl
    | null | boolean | number => rfl
  resolve name := rfl
  call := registry.call_eq
  callMethod := Routine.callMethod_eq

end Surroundings

/-- The value of a rule, read and evaluated by position. -/
def Registry.run (registry : Registry) (beyond : Assembler Nat) (rule : String) (type : ResultType)
    (resolve : Resolver) : ExceptT EvalError Option Value := do
  let tree ← ExceptT.adapt EvalError.parse (SyntaxTree.parseByPosition beyond rule)
  match tree.unknownFunction? registry.table with
  | some name => throw (.unknownFunction name)
  | none => do
    let v ← tree.unfold.evaluateIn (.indexing registry resolve)
    settled (type.coerce v)

theorem Registry.run_eq (registry : Registry) (beyond : Assembler Nat) (rule : String)
    (type : ResultType) (resolve : Resolver) :
    registry.run beyond rule type resolve =
      settled (do
        let expression ← (Expression.compile registry.table rule type).value
        expression.evaluate resolve) := by
  rw [run, SyntaxTree.parseByPosition_eq, adapt_settled, Expression.compile]
  cases SyntaxTree.parse rule with
  | error e => rfl
  | ok tree =>
    rw [Except.mapError, settled_ok_bind]
    dsimp only
    cases tree.unknownFunction? registry.table with
    | some name => rfl
    | none =>
      have evaluated := (Surroundings.reflects_indexing registry resolve).evaluate tree.unfold
      dsimp only at evaluated ⊢
      rw [evaluated, ← SyntaxTree.evaluate_eq_unfold, settled_bind]
      rfl

/-! ## Rules and calls -/

/-- Whatever is taken by an index or cut out by a range is there. -/
structure StaysInRange : Prop where
  /-- The body of a text is a slice of it. -/
  body : ∀ cs : List Char, (do
      let (start, stop) ← Text.bodyRange? cs
      Text.slice? start stop cs) = some (Body.of cs).chars
  /-- On a slice of a text, each look of the scanner at what is ahead is at a slice. -/
  tokens : ∀ (source : List Char) (start stop : Nat) (inside : List Char),
    Text.slice? start stop source = some inside →
      Scanner.scan source start stop =
        settled ((Lexer.tokens start inside).map (List.map Token.bare))
  /-- The inside of an image in quotes is a slice of it. -/
  literal : ∀ image : List Char, Text.unquoteSlice? image = some (Text.unquote? image)
  /-- The tokens that the parser takes by index are there, and the images that it cuts out. -/
  rule : ∀ (beyond : Assembler Nat) (rule : String),
    SyntaxTree.parseByPosition beyond rule = settled (SyntaxTree.parse rule)
  /-- The arguments that a function takes are there, and so are the parts of texts. -/
  call : ∀ (registry : Registry) (name : String) (args : List Value),
    registry.call name args = settled (registry.table.call name args)
  /-- The registry of the standard library is the table that rules are evaluated with. -/
  standard : Registry.standard.table = FunctionTable.standard
  /-- Bounds can be any numbers, and those that are none; there is a part of the text between them. -/
  substring : ∀ (text : Value) (x y : Float), ∃ start stop,
    Registry.standard.call "fn:substring" [text, .number x, .number y] =
      settled (.ok (.ofChars ((text.chars.take stop).drop start)))
  /-- The arguments that a method takes are there. -/
  callMethod : ∀ (target : Value) (method : String) (args : List Value),
    Routine.callMethod target method args = settled (target.callMethod method args)
  /-- So it is for all calls and literals of an expression. -/
  expression : ∀ (registry : Registry) (resolve : Resolver) (t : Tree),
    t.evaluateIn (.indexing registry resolve) = settled (t.evaluate ⟨registry.table, resolve⟩)
  /-- From the text of a rule to its value everything is in range. -/
  value : ∀ (registry : Registry) (beyond : Assembler Nat) (rule : String) (type : ResultType)
    (resolve : Resolver), registry.run beyond rule type resolve =
      settled (do
        let expression ← (Expression.compile registry.table rule type).value
        expression.evaluate resolve)

/-- No index and no slice is out of range. -/
theorem staysInRange : StaysInRange where
  body cs := by
    rw [Text.bodyRange?_eq]
    exact Body.slice?_of cs
  tokens _ _ _ _ range := Scanner.scan_eq range
  literal := Text.unquoteSlice?_eq
  rule := SyntaxTree.parseByPosition_eq
  call := Registry.call_eq
  standard := Registry.table_standard
  substring text x y := by
    have registered : Registry.standard.get? "fn:substring" = some .substring := by decide +kernel
    rw [Registry.call, registered]
    refine ⟨_, _, Native.does .substring "fn:substring" [text, .number x, .number y]⟩
  callMethod := Routine.callMethod_eq
  expression registry resolve := (Surroundings.reflects_indexing registry resolve).evaluate
  value := Registry.run_eq

/-- A call without arguments is refused, and a text that is found after a character of two bytes is
found at the second character. -/
theorem staysInRange_calls :
    Registry.standard.call "fn:trim" [] = settled (.error (.arity "fn:trim" 1 0)) ∧
      Registry.standard.call "fn:indexOf" [.string "éa", .string "a"] =
        settled (.ok (.number (Float.ofNat 1))) := by
  rw [staysInRange.call, staysInRange.call]
  exact ⟨rfl, rfl⟩

end TargetingRules

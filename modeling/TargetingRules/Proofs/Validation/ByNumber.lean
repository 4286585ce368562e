import TargetingRules.Proofs.Evaluation.Representation
import TargetingRules.Proofs.Syntax.Assembled
import TargetingRules.Validation.Validator

/-!
# Validation by node numbers

From the first node to the last leaf the validator goes by numbers: nodes are pushed with the numbers of
their children, the scans of a tree are loops with a stack of numbers, and evaluation looks up its
operands. Any of these numbers could have no node. What would then become of a rule is written out here,
branch by branch.

No rule comes to that. Each step has the outcome that it has without numbers, and so has the whole.
-/

namespace TargetingRules

theorem Dictionary.contains_of_size_eq_zero {α : Type} {d : Dictionary α} (isEmpty : d.size = 0)
    (name : String) : d.contains name = false := by
  have entries : d.entries = [] := List.eq_nil_of_length_eq_zero isEmpty
  rw [contains, get?, entries]
  rfl

/-- What a validator says where a number has no node. -/
def Defect.ofFault (fault : TreeError) : Defect :=
  .internal fault.message

/-- Run a traversal from a state, and hand on the last one. -/
def startedAt {ε σ α : Type} (state : σ) (part : ExceptT ε (StateT σ Option) α) :
    ExceptT ε Option (α × σ) :=
  ExceptT.mk ((part.run.run state).map fun reached => reached.1.map fun a => (a, reached.2))

theorem startedAt_ended {ε σ α : Type} (state : σ) (part : ExceptT ε (StateM σ) α) :
    startedAt state (ended part) =
      settled ((part.run.run state).1.map fun a => (a, (part.run.run state).2)) :=
  rfl

/-! ## Scans -/

namespace SyntaxTree

/-- Note the function that a node calls if a table lacks it, unless one is noted already. -/
def noteUnknown (functions : FunctionTable) (node : Node) :
    ExceptT EvalError (StateM (Option String)) Unit :=
  modify fun noted =>
    if node.kind == .function && noted.isNone && !functions.contains (node.image.getD "") then
      some (node.image.getD "")
    else noted

/-- The first function call in pre-order whose function a table lacks. -/
def unknownByStack (tree : SyntaxTree) (functions : FunctionTable) :
    ExceptT EvalError Option (Option String) := do
  let (_, noted) ← startedAt none (tree.walkByStack .tree (noteUnknown functions))
  return noted

/-- Stop at a construct that rules must not use. -/
def refuseConstruct (node : Node) : ExceptT Defect (StateM Unit) Unit :=
  match node.kind.construct? with
  | some construct => throw (.disallowed construct)
  | none => return ()

/-- Refuse a tree for its first construct in pre-order that rules must not use. -/
def checkConstructs (tree : SyntaxTree) : ExceptT Defect Option Unit := do
  let _ ← startedAt () (tree.walkByStack .ofFault refuseConstruct)
  return ()

/-- Refuse a tree for its first variable in pre-order that is neither defined nor absent. -/
def checkIdentifiers (tree : SyntaxTree) (context : Context) : ExceptT Defect Option Unit := do
  let isUndefined (name : String) : Bool :=
    !context.isDefined name && !context.absent.contains name
  let (found, _) ← ExceptT.adapt Defect.ofFault (startedAt () (tree.findByStack fun node =>
    pure (node.kind.isIdentifier && node.image.any isUndefined)))
  match found.bind Node.image with
  | some name => throw (.undefined name)
  | none => return ()

/-- Whether some leaf names an absent variable. Where there are none, no leaf is looked at. -/
def touchesByStack (tree : SyntaxTree) (absent : NameSet) : ExceptT Defect Option Bool :=
  if absent.size == 0 then return false
  else do
    let leaves ← ExceptT.adapt Defect.ofFault (.mk tree.leavesByStack)
    return leaves.any fun leaf => leaf.image.any absent.contains

variable (tree : SyntaxTree)

/-- A walk notes the first unknown function, unless one was noted before. -/
theorem run_forM_noteUnknown (functions : FunctionTable) (nodes : List Node)
    (noted : Option String) :
    (nodes.forM (noteUnknown functions)).run.run noted =
      (.ok (), noted <|> (nodes.find? fun node =>
        node.kind == .function && !functions.contains (node.image.getD "")).map
          fun node => node.image.getD "") := by
  induction nodes generalizing noted with
  | nil => cases noted <;> rfl
  | cons node nodes ih =>
    rw [List.forM_eq_forM] at ih ⊢
    rw [List.forM_cons, run_bind, List.find?_cons]
    refine (ih _).trans ?_
    cases noted with
    | some name => simp
    | none => cases node.kind == .function <;> cases functions.contains (node.image.getD "") <;> simp

theorem unknownByStack_eq (functions : FunctionTable) :
    tree.unknownByStack functions = settled (.ok (tree.unknownFunction? functions)) := by
  rw [unknownByStack, walkByStack_eq_walk, startedAt_ended, walk_eq_forM, run_forM_noteUnknown,
    unknownFunction?, find?_eq]
  rfl

/-- A walk stops at the first construct that rules must not use. -/
theorem run_forM_refuseConstruct (nodes : List Node) :
    ((nodes.forM refuseConstruct).run.run ()).1 =
      match (nodes.find? fun node => node.kind.construct?.isSome).bind fun node =>
        node.kind.construct? with
      | some construct => .error (.disallowed construct)
      | none => .ok () := by
  induction nodes with
  | nil => rfl
  | cons node nodes ih =>
    rw [List.forM_eq_forM] at ih ⊢
    rw [List.forM_cons, run_bind, List.find?_cons, refuseConstruct]
    cases found : node.kind.construct? with
    | some construct =>
      simp only [Option.isSome_some, Option.bind_some, found]
      rfl
    | none => exact ih

theorem checkConstructs_eq : tree.checkConstructs = settled (match tree.disallowed? with
      | some construct => .error (.disallowed construct)
      | none => .ok ()) := by
  rw [checkConstructs, walkByStack_eq_walk, startedAt_ended, walk_eq_forM, run_forM_refuseConstruct,
    disallowed?, find?_eq]
  cases (tree.visited.find? fun node => node.kind.construct?.isSome).bind fun node =>
    node.kind.construct? <;> rfl

theorem checkIdentifiers_eq (context : Context) :
    tree.checkIdentifiers context = settled (match tree.undefined? context with
      | some name => .error (.undefined name)
      | none => .ok ()) := by
  rw [checkIdentifiers]
  dsimp only
  rw [findByStack_pure, undefined?]
  change (match Option.bind _ Node.image with | some name => _ | none => _) = _
  split
  next name found => rw [found]; rfl
  next found => rw [found]; rfl

theorem touchesByStack_eq (absent : NameSet) :
    tree.touchesByStack absent = settled (.ok (tree.touches absent)) := by
  rw [touchesByStack]
  split
  next isEmpty =>
    have nothing : absent.contains = fun _ => false :=
      funext (Dictionary.contains_of_size_eq_zero (beq_iff_eq.mp isEmpty))
    have untouched : tree.touches absent = false := by
      simp [touches, nothing]
    rw [untouched]
    rfl
  next =>
    rw [leavesByStack_eq]
    rfl

end SyntaxTree

/-! ## Expressions -/

namespace Expression

/-- Read a rule node by node, and look up the functions that it calls. -/
def compileByNumber (beyond : Assembler Nat) (functions : FunctionTable) (text : String)
    (type : ResultType) : ExceptT EvalError Option Expression := do
  let tree ← settled ((SyntaxTree.assemble beyond text).mapError .parse)
  match ← tree.unknownByStack functions with
  | some name => throw (.unknownFunction name)
  | none => return ⟨text, tree, type, functions⟩

/-- The value of an expression for the given variables. -/
def evaluateByNumber (expression : Expression) (resolve : Resolver) :
    ExceptT EvalError Option Value := do
  let v ← expression.tree.evaluateByNumber ⟨expression.functions, resolve⟩
  settled (expression.type.coerce v)

/-- The value of an expression, read as a truth value. -/
def evaluateBoolByNumber (expression : Expression) (resolve : Resolver) :
    ExceptT EvalError Option Bool := do
  settled (← expression.evaluateByNumber resolve).truth

theorem compileByNumber_eq (beyond : Assembler Nat) (functions : FunctionTable) (text : String)
    (type : ResultType) :
    compileByNumber beyond functions text type = settled (compile functions text type).value := by
  rw [compileByNumber, SyntaxTree.assemble_eq_parse, compile]
  cases SyntaxTree.parse text with
  | error e => rfl
  | ok tree =>
    rw [Except.mapError, settled_ok_bind, SyntaxTree.unknownByStack_eq, settled_ok_bind]
    dsimp only
    cases tree.unknownFunction? functions <;> rfl

theorem evaluateByNumber_eq (expression : Expression) (resolve : Resolver) :
    expression.evaluateByNumber resolve = settled (expression.evaluate resolve) := by
  rw [evaluateByNumber, SyntaxTree.evaluateByNumber_eq, settled_bind, evaluate,
    SyntaxTree.evaluate_eq_unfold]

theorem evaluateBoolByNumber_eq (expression : Expression) (resolve : Resolver) :
    expression.evaluateBoolByNumber resolve = settled (expression.evaluateBool resolve) := by
  rw [evaluateBoolByNumber, evaluateByNumber_eq, settled_bind, evaluateBool]

end Expression

/-! ## Rules -/

namespace Validator

/-- Compile a rule as a condition and reject constructs that conditions must not use. -/
def compileByNumber (validator : Validator) (beyond : Assembler Nat) (rule : String) :
    ExceptT Rejection Option Expression := do
  let expression ← ExceptT.adapt (Rejection.ofCompileError rule)
    (Expression.compileByNumber beyond validator.functions rule .boolean)
  ExceptT.adapt (Rejection.mk rule) expression.tree.checkConstructs
  return expression

/-- Whether an evaluation error in a tree is ignored. The leaves are looked at unless the error is a
bookkeeping fault. -/
def ignoresByStack (tree : SyntaxTree) (absent : NameSet) : EvalError → ExceptT Defect Option Bool
  | .tree _ => return false
  | _ => tree.touchesByStack absent

/-- Evaluate a compiled rule, once its variables are known to be defined or absent. -/
def evaluateByNumber (expression : Expression) (context : Context) :
    ExceptT Rejection Option Outcome := do
  ExceptT.adapt (Rejection.mk expression.text) (expression.tree.checkIdentifiers context)
  match ← ExceptT.lift (expression.evaluateBoolByNumber context.resolve).run with
  | .ok b => return .evaluated b
  | .error e =>
    if ← ExceptT.adapt (Rejection.mk expression.text)
        (ignoresByStack expression.tree context.absent e) then
      return .ignored e
    else throw (.ofEvalError expression.text e)

/-- How a rule passes, or why it does not. -/
def validateByNumber (validator : Validator) (beyond : Assembler Nat) (rule : String)
    (context : Context) : ExceptT Rejection Option Outcome :=
  if isEmptyRule rule then return .empty
  else do
    let expression ← validator.compileByNumber beyond rule
    if context.evaluate then evaluateByNumber expression context else return .checked

/-- Whether a rule passes. -/
def verifyByNumber (validator : Validator) (beyond : Assembler Nat) (rule : String)
    (context : Context) : ExceptT Rejection Option Unit := do
  let _ ← validator.validateByNumber beyond rule context
  return ()

/-- Check the form of a rule. Empty rules pass. -/
def checkSyntaxByNumber (validator : Validator) (beyond : Assembler Nat) (rule : String) :
    ExceptT Rejection Option Unit :=
  if isEmptyRule rule then return ()
  else do
    let _ ← validator.compileByNumber beyond rule
    return ()

variable (validator : Validator) (beyond : Assembler Nat) (rule : String) (context : Context)

theorem compileByNumber_eq :
    validator.compileByNumber beyond rule = settled (validator.compile rule).value := by
  rw [compileByNumber, Expression.compileByNumber_eq, adapt_settled, compile]
  cases (Expression.compile validator.functions rule .boolean).value with
  | error e => rfl
  | ok expression =>
    rw [Except.mapError, settled_ok_bind, SyntaxTree.checkConstructs_eq, adapt_settled]
    dsimp only
    cases expression.tree.disallowed? <;> rfl

theorem ignoresByStack_eq (tree : SyntaxTree) (absent : NameSet) (e : EvalError) :
    ignoresByStack tree absent e = settled (.ok (ignores tree absent e)) := by
  cases e with
  | tree fault => rfl
  | _ => exact tree.touchesByStack_eq absent

theorem evaluateByNumber_eq (expression : Expression) :
    evaluateByNumber expression context = settled (evaluate expression context).value := by
  rw [evaluateByNumber, SyntaxTree.checkIdentifiers_eq, adapt_settled, evaluate]
  cases expression.tree.undefined? context with
  | some name => rfl
  | none =>
    rw [Except.mapError, settled_ok_bind, Expression.evaluateBoolByNumber_eq]
    cases expression.evaluateBool context.resolve with
    | ok b => rfl
    | error e =>
      change (do if ← ExceptT.adapt _ (ignoresByStack _ _ e) then _ else _) = _
      rw [ignoresByStack_eq, adapt_settled, Except.mapError, settled_ok_bind]
      dsimp only
      split <;> rfl

/-- Validating a rule by node numbers comes to an end, with the answer that the validator gives. -/
theorem validateByNumber_eq :
    validator.validateByNumber beyond rule context = settled (validator.validate rule context) := by
  rw [validateByNumber, validate, audit]
  split
  next => rfl
  next =>
    rw [compileByNumber_eq]
    dsimp only
    cases (validator.compile rule).value with
    | error rejection => rfl
    | ok expression =>
      rw [settled_ok_bind]
      dsimp only
      split
      next => rw [evaluateByNumber_eq]
      next => rfl

/-- So does verifying it. -/
theorem verifyByNumber_eq :
    validator.verifyByNumber beyond rule context = settled (validator.verify rule context) := by
  rw [verifyByNumber, validateByNumber_eq, verify]
  cases validator.validate rule context <;> rfl

/-- So does checking its form. -/
theorem checkSyntaxByNumber_eq :
    validator.checkSyntaxByNumber beyond rule = settled (validator.checkSyntax rule) := by
  rw [checkSyntaxByNumber, checkSyntax, auditSyntax]
  split
  next => rfl
  next =>
    rw [compileByNumber_eq]
    dsimp only
    cases (validator.compile rule).value <;> rfl

end Validator

end TargetingRules

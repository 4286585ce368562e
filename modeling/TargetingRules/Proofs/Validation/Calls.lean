import TargetingRules.Proofs.Syntax.NamedNodes
import TargetingRules.Proofs.Validation.FormCheck

/-!
# Calls of functions that there are not

Whether the functions of a rule exist is settled once, when the rule is compiled, for all calls in its
text and not for those alone that some evaluation reaches. A compiled rule therefore never meets an
unknown function, whatever its variables are, unless one of its own functions pretends to.

Of several unknown functions the leftmost one is reported. The scan meets nodes in pre-order, and a call
is put together after its arguments; that pre-order is the order of the text all the same is
`SyntaxTree.pairwise_imaged_of_parse`.
-/

namespace TargetingRules

/-- A node calls a function by a name that a table does not bind. -/
structure Node.CallsUnknown (node : Node) (functions : FunctionTable) (name : String) : Prop where
  isCall : node.kind = .function
  named : node.image = some name
  unknown : functions.contains name = false

/-- What the scan for unknown functions looks for. -/
def Node.isUnknownCall (functions : FunctionTable) (node : Node) : Bool :=
  node.kind == .function && !functions.contains (node.image.getD "")

theorem Node.isUnknownCall_iff {node : Node} {functions : FunctionTable} {name : String}
    (named : node.image = some name) :
    node.isUnknownCall functions = true ↔ node.CallsUnknown functions name := by
  rw [isUnknownCall, named, Option.getD_some, Bool.and_eq_true, beq_iff_eq, Bool.not_eq_true']
  exact ⟨fun ⟨isCall, unknown⟩ => ⟨isCall, named, unknown⟩, fun calls => ⟨calls.isCall, calls.unknown⟩⟩

/-- An error does not say that a function is unknown. -/
def EvalError.KnowsFunctions (e : EvalError) : Prop :=
  ∀ name, e ≠ .unknownFunction name

theorem EvalError.IsOrdinary.knowsFunctions {e : EvalError} (ordinary : e.IsOrdinary) :
    e.KnowsFunctions := by
  rintro name rfl
  cases ordinary.external

/-! ## The scan for unknown functions -/

namespace SyntaxTree

variable {rule : String} {tree : SyntaxTree} {functions : FunctionTable} {node : Node}
  {name : String}

/-- The call of a function in a rule has a name. -/
theorem exists_image_of_function (read : SyntaxTree.parse rule = .ok tree) (member : node ∈ tree.nodes)
    (isCall : node.kind = .function) : ∃ name, node.image = some name := by
  obtain ⟨t, parsed, rfl⟩ := parse_eq_ok_iff.mp read
  obtain ⟨s, inside, same⟩ := exists_label_of_mem_nodes member
  obtain ⟨kind, image, _, _⟩ := Label.mk.inj same
  obtain ⟨name, named⟩ := (Tree.evaluable_of_parse parsed).exists_image_of_function s inside
    (kind.symm.trans isCall)
  exact ⟨name, image.trans named⟩

/-- The nodes of a rule that fit the scan are those that call an unknown function. -/
theorem isUnknownCall_iff_exists (read : SyntaxTree.parse rule = .ok tree)
    (member : node ∈ tree.nodes) :
    node.isUnknownCall functions = true ↔ ∃ name, node.CallsUnknown functions name := by
  constructor
  · intro fits
    have isCall : node.kind = .function := beq_iff_eq.mp (Bool.and_eq_true_iff.mp fits).1
    obtain ⟨name, named⟩ := exists_image_of_function read member isCall
    exact ⟨name, (Node.isUnknownCall_iff named).mp fits⟩
  · rintro ⟨name, calls⟩
    exact (Node.isUnknownCall_iff calls.named).mpr calls

/-- They start further and further to the right, in pre-order. -/
theorem pairwise_isUnknownCall (read : SyntaxTree.parse rule = .ok tree) (functions : FunctionTable) :
    (tree.visited.filter (Node.isUnknownCall functions)).Pairwise
      fun first second => first.span.start < second.span.start := by
  have fewer : tree.visited.filter (Node.isUnknownCall functions) =
      tree.imaged.filter (Node.isUnknownCall functions) := by
    rw [imaged, List.filter_filter]
    refine List.filter_congr fun node member => ?_
    cases fits : node.isUnknownCall functions with
    | false => rfl
    | true =>
      obtain ⟨name, calls⟩ :=
        (isUnknownCall_iff_exists read ((mem_visited_iff read).mp member)).mp fits
      rw [calls.named]
      rfl
  rw [fewer]
  exact (pairwise_imaged_of_parse read).filter _

theorem unknownFunction?_eq_none_iff (read : SyntaxTree.parse rule = .ok tree) :
    tree.unknownFunction? functions = none ↔
      ∀ node ∈ tree.nodes, ∀ name, ¬ node.CallsUnknown functions name := by
  change ((tree.find? (Node.isUnknownCall functions)).map fun node => node.image.getD "") = none ↔ _
  rw [Option.map_eq_none_iff, find?_eq, List.find?_eq_none]
  simp only [mem_visited_iff read]
  refine forall₂_congr fun node member => ?_
  rw [isUnknownCall_iff_exists read member, not_exists]

/-- Of the calls of unknown functions the leftmost one is found. -/
theorem leftmost_of_unknownFunction? (read : SyntaxTree.parse rule = .ok tree)
    (found : tree.unknownFunction? functions = some name) :
    ∃ node ∈ tree.nodes, node.CallsUnknown functions name ∧ node.StandsBy name rule ∧
      ∀ other ∈ tree.nodes, ∀ name', other.CallsUnknown functions name' →
        other = node ∨ node.span.start < other.span.start := by
  have increasing := pairwise_isUnknownCall read functions
  obtain ⟨node, first, rfl⟩ := Option.map_eq_some_iff.mp found
  rw [find?_eq] at first
  obtain ⟨visited, fits, least⟩ := (find?_eq_some_iff_least increasing).mp first
  have member := (mem_visited_iff read).mp visited
  obtain ⟨name, calls⟩ := (isUnknownCall_iff_exists read member).mp fits
  rw [calls.named, Option.getD_some]
  refine ⟨node, member, calls, ?_, fun other member' name' calls' => ?_⟩
  · refine standsBy_of_parse read (List.mem_filter.mpr ⟨visited, ?_⟩) calls.named
    rw [calls.named]
    rfl
  · have visited' := (mem_visited_iff read).mpr member'
    have fits' := (Node.isUnknownCall_iff calls'.named).mpr calls'
    have distinct := List.pairwise_map.mpr (increasing.imp Nat.ne_of_lt)
    rcases Nat.eq_or_lt_of_le (least other visited' fits') with same | later
    · exact .inl (List.inj_on_of_nodup_map distinct (List.mem_filter.mpr ⟨visited', fits'⟩)
        (List.mem_filter.mpr ⟨visited, fits⟩) same.symm)
    · exact .inr later

end SyntaxTree

/-! ## Compilation -/

namespace Expression

variable {functions : FunctionTable} {text : String} {type : ResultType} {tree : SyntaxTree}

/-- The answer of a compilation, read off the syntax tree. -/
theorem compile_of_read (read : SyntaxTree.parse text = .ok tree) :
    (compile functions text type).value =
      match tree.unknownFunction? functions with
      | some name => .error (.unknownFunction name)
      | none => .ok ⟨text, tree, type, functions⟩ := by
  rw [compile, read]
  dsimp only
  cases tree.unknownFunction? functions <;> rfl

/-- A text that cannot be read fails for that. -/
theorem compile_of_unread {e : ParseError} (refused : SyntaxTree.parse text = .error e) :
    (compile functions text type).value = .error (.parse e) := by
  rw [compile, refused]

end Expression

/-- Compiling a rule finds the functions that there are not, and these alone. -/
structure ChecksCalls (functions : FunctionTable) (text : String) (type : ResultType) : Prop where
  /-- A text that cannot be read does not compile. -/
  unread : ∀ e, SyntaxTree.parse text = .error e →
    (Expression.compile functions text type).value = .error (.parse e)
  /-- A text compiles just if it can be read and the function of each call in it is bound. -/
  compiles : ∀ expression, (Expression.compile functions text type).value = .ok expression ↔
    ∃ tree, SyntaxTree.parse text = .ok tree ∧ expression = ⟨text, tree, type, functions⟩ ∧
      ∀ node ∈ tree.nodes, node.kind = .function →
        ∃ name, node.image = some name ∧ functions.contains name = true
  /-- If a function is not bound, the error names the leftmost such one. -/
  leftmost : ∀ tree, SyntaxTree.parse text = .ok tree →
    (∃ node ∈ tree.nodes, ∃ name, node.CallsUnknown functions name) →
      ∃ node ∈ tree.nodes, ∃ name, node.CallsUnknown functions name ∧ node.StandsBy name text ∧
        (∀ other ∈ tree.nodes, ∀ name', other.CallsUnknown functions name' →
          other = node ∨ node.span.start < other.span.start) ∧
        (Expression.compile functions text type).value = .error (.unknownFunction name)
  /-- What compiles never meets an unknown function, if its functions do not report one. -/
  evaluates : ∀ expression, (Expression.compile functions text type).value = .ok expression →
    functions.CallsFailWith EvalError.KnowsFunctions → ∀ resolve,
      FailsWith EvalError.KnowsFunctions (expression.evaluate resolve) ∧
        FailsWith EvalError.KnowsFunctions (expression.evaluateBool resolve)

/-- All functions are known just if the scan finds none that is not. -/
theorem SyntaxTree.unknownFunction?_eq_none_iff_known {tree : SyntaxTree} {rule : String}
    {functions : FunctionTable} (read : SyntaxTree.parse rule = .ok tree) :
    tree.unknownFunction? functions = none ↔ ∀ node ∈ tree.nodes, node.kind = .function →
      ∃ name, node.image = some name ∧ functions.contains name = true := by
  rw [unknownFunction?_eq_none_iff read]
  refine forall₂_congr fun node member => ⟨fun known isCall => ?_, fun known name calls => ?_⟩
  · obtain ⟨name, named⟩ := exists_image_of_function read member isCall
    exact ⟨name, named, Bool.eq_true_of_not_eq_false fun unknown => known name ⟨isCall, named, unknown⟩⟩
  · obtain ⟨name', named', known'⟩ := known calls.isCall
    obtain rfl := Option.some.inj (calls.named.symm.trans named')
    exact absurd (calls.unknown.symm.trans known') Bool.false_ne_true

/-- Compilation finds exactly the unknown functions, wherever they are called. -/
theorem checksCalls (functions : FunctionTable) (text : String) (type : ResultType) :
    ChecksCalls functions text type := by
  constructor
  case unread => exact fun e refused => Expression.compile_of_unread refused
  case compiles =>
    intro expression
    cases read : SyntaxTree.parse text with
    | error e => simp [Expression.compile_of_unread read]
    | ok tree =>
      have known : tree.unknownFunction? functions = none ↔ _ :=
        SyntaxTree.unknownFunction?_eq_none_iff_known read
      rw [Expression.compile_of_read read]
      simp only [Except.ok.injEq, exists_eq_left', ← known]
      cases tree.unknownFunction? functions with
      | some name => simp
      | none => simp [eq_comm]
  case leftmost =>
    intro tree read unknown
    cases found : tree.unknownFunction? functions with
    | none =>
      obtain ⟨node, member, name, calls⟩ := unknown
      exact absurd calls ((SyntaxTree.unknownFunction?_eq_none_iff read).mp found node member name)
    | some name =>
      obtain ⟨node, member, calls, stands, leftmost⟩ :=
        SyntaxTree.leftmost_of_unknownFunction? read found
      refine ⟨node, member, name, calls, stands, leftmost, ?_⟩
      rw [Expression.compile_of_read read, found]
  case evaluates =>
    intro expression compiled calls resolve
    have ordinary : ∀ e, EvalError.IsOrdinary e → EvalError.KnowsFunctions e := fun _ =>
      EvalError.IsOrdinary.knowsFunctions
    have constructs : ∀ construct, EvalError.KnowsFunctions (.unsupported construct) := nofun
    have undefined : ∀ name ∈ expression.tree.unfold.identifiers,
        resolve name = none → EvalError.KnowsFunctions (.unknownIdentifier name) := nofun
    exact ⟨Expression.failsWith_evaluate compiled ordinary calls (.inr constructs) undefined,
      Expression.failsWith_evaluateBool compiled ordinary calls (.inr constructs) undefined⟩

/-- The expression `f(x ? g(h(y)) : 1)` without blanks. -/
def branching : Tree :=
  .node .function (some "f") ⟨0, 14⟩ [.node .ternary none ⟨2, 13⟩ [
    .node .identifier (some "x") ⟨2, 3⟩ [],
    .node .function (some "g") ⟨4, 11⟩ [
      .node .function (some "h") ⟨6, 10⟩ [.node .identifier (some "y") ⟨8, 9⟩ []]],
    .node (.literal .number) (some "1") ⟨12, 13⟩ []]]

theorem parse_branching : SyntaxTree.parse "f(x?g(h(y)):1)" = .ok (.ofTree branching) := by
  have tokens : (Body.of "f(x?g(h(y)):1)".toList).tokens = .ok [
      ⟨.ident "f", ⟨0, 1⟩, "f"⟩, ⟨.mark .openParen, ⟨1, 2⟩, "("⟩, ⟨.ident "x", ⟨2, 3⟩, "x"⟩,
      ⟨.mark .question, ⟨3, 4⟩, "?"⟩, ⟨.ident "g", ⟨4, 5⟩, "g"⟩, ⟨.mark .openParen, ⟨5, 6⟩, "("⟩,
      ⟨.ident "h", ⟨6, 7⟩, "h"⟩, ⟨.mark .openParen, ⟨7, 8⟩, "("⟩, ⟨.ident "y", ⟨8, 9⟩, "y"⟩,
      ⟨.mark .closeParen, ⟨9, 10⟩, ")"⟩, ⟨.mark .closeParen, ⟨10, 11⟩, ")"⟩,
      ⟨.mark .colon, ⟨11, 12⟩, ":"⟩, ⟨.number 1, ⟨12, 13⟩, "1"⟩,
      ⟨.mark .closeParen, ⟨13, 14⟩, ")"⟩] :=
    Lexer.tokens_of_split? (n := 20) rfl
  exact SyntaxTree.parse_of_run (.fail .empty) tokens rfl rfl rfl rfl

/-- In a branch, the outer one of two unknown functions is reported, although its node comes after the
node of the inner one. -/
theorem checksCalls_branching :
    ((SyntaxTree.ofTree branching).nodes.toList.map Node.image =
      [some "x", some "y", some "h", some "g", some "1", none, some "f"]) ∧
    (Expression.compile Validator.onlyF "f(x?g(h(y)):1)" .any).value =
      .error (.unknownFunction "g") := by
  refine ⟨by decide, ?_⟩
  have inside : ⟨.function, some "g", ⟨4, 11⟩, [2]⟩ ∈ (SyntaxTree.ofTree branching).nodes :=
    List.mem_toArray.mpr (by decide)
  have unknown : Node.CallsUnknown ⟨.function, some "g", ⟨4, 11⟩, [2]⟩ Validator.onlyF "g" :=
    ⟨rfl, rfl, by decide⟩
  have others : ∀ node ∈ (SyntaxTree.ofTree branching).nodes.toList,
      node.isUnknownCall Validator.onlyF = true → 4 ≤ node.span.start := by decide
  obtain ⟨node, member, name, calls, _, leftmost, failed⟩ :=
    (checksCalls Validator.onlyF "f(x?g(h(y)):1)" .any).leftmost _ parse_branching ⟨_, inside, _, unknown⟩
  have fits := (Node.isUnknownCall_iff calls.named).mpr calls
  rcases leftmost _ inside _ unknown with rfl | earlier
  · rw [failed, Option.some.inj calls.named]
  · exact absurd earlier (Nat.not_lt.mpr (others node (Array.mem_toList_iff.mpr member) fits))

end TargetingRules

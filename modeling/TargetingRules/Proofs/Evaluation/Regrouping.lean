import TargetingRules.Proofs.Evaluation.Chains
import TargetingRules.Proofs.Syntax.Grouping

/-!
# Rewriting conditions

Authors of rules put parentheses into chains and take them out, and move negations inside. The parser
builds one node for a chain and one for each group, the evaluator has a loop for each of the two kinds
of chains, and negation is on its own; all the same such rewritings change neither the value of a rule
nor the error it ends with, nor what is evaluated on the way there.
-/

namespace TargetingRules

open Grammar
open Piece (ReadsAs)

/-! ## How far a chain gets -/

namespace Tree

variable {env : Environment} {b : Bool}

/-- An operand of a chain has the truth value with which the chain goes on. -/
def goesOn (env : Environment) (b : Bool) (t : Tree) : Bool :=
  match (t.operand env).truth with
  | .ok c => c == b
  | .error _ => false

/-- The operands of a chain that are evaluated: those with which it goes on, and the next one. -/
def reached (env : Environment) (b : Bool) (ts : List Tree) : List Tree :=
  ts.takeWhile (goesOn env b) ++ (ts.dropWhile (goesOn env b)).take 1

/-- What a chain ends with: the truth value or the error of the first operand with which it does not go
on. -/
def outcome (env : Environment) (b : Bool) (ts : List Tree) : Except EvalError Bool :=
  match ts.find? fun t => !goesOn env b t with
  | some t => (t.operand env).truth
  | none => .ok b

theorem reached_cons (t : Tree) (ts : List Tree) :
    reached env b (t :: ts) = t :: if goesOn env b t then reached env b ts else [] := by
  cases next : goesOn env b t <;> simp [reached, next]

theorem outcome_cons (t : Tree) (ts : List Tree) : outcome env b (t :: ts) =
    if goesOn env b t then outcome env b ts else (t.operand env).truth := by
  cases next : goesOn env b t <;> simp [outcome, next]

/-- The truth value of an operand is noted as its value is. -/
theorem run_truth (t : Tree) (env : Environment) :
    (t.part env.noting).truth.run = ⟨t.steps env, (t.operand env).truth⟩ := by
  have mirrors := env.reflects_noting.part t
  refine Noted.ext ?_ (env.reflects_noting.truth mirrors)
  rw [Part.truth, Noted.notes_bind]
  cases (t.part env.noting).value.run.value <;> exact List.append_nil _

/-- The loop over the operands notes the steps of those that are reached. -/
theorem run_chain (env : Environment) (b : Bool) (ts : List Tree) :
    (Part.chain b (partsOf env.noting ts)).run =
      ⟨(reached env b ts).flatMap (·.steps env), outcome env b ts⟩ := by
  induction ts with
  | nil => rfl
  | cons t ts ih =>
    have first := run_truth t env
    rw [partsOf, Part.chain, reached_cons, outcome_cons, List.flatMap_cons, goesOn]
    cases known : (t.operand env).truth with
    | error e =>
      rw [known] at first
      refine Noted.ext ?_ ?_
      · rw [Noted.notes_bind, first]
        rfl
      · rw [Noted.value_bind, first]
        rfl
    | ok c =>
      have second : (if c = b then Part.chain b (partsOf env.noting ts) else pure c).run =
          ⟨(if (c == b) = true then reached env b ts else []).flatMap (·.steps env),
            if (c == b) = true then outcome env b ts else .ok c⟩ := by
        by_cases same : c = b
        · rw [if_pos same, if_pos (beq_iff_eq.mpr same), if_pos (beq_iff_eq.mpr same), ih]
        · rw [if_neg same, if_neg (mt beq_iff_eq.mp same), if_neg (mt beq_iff_eq.mp same)]
          rfl
      rw [known] at first
      refine Noted.ext ?_ ?_
      · rw [Noted.notes_bind, first]
        exact congrArg (t.steps env ++ ·) (congrArg Noted.notes second)
      · rw [Noted.value_bind, first]
        exact (congrArg Noted.value second :)

variable {image : Option String} {span : Span}

/-- In a chain the operands that are reached are evaluated in order, and no others. -/
theorem steps_chaining (env : Environment) (b : Bool) (ts : List Tree) :
    (node (.chaining b) image span ts).steps env = (reached env b ts).flatMap (·.steps env) := by
  rw [steps, evaluateIn_chaining, Noted.notes_bind, run_chain]
  cases outcome env b ts <;> exact List.append_nil _

/-- A chain ends with the outcome of the last operand that is reached. -/
theorem evaluate_eq_outcome (env : Environment) (b : Bool) (ts : List Tree) :
    (node (.chaining b) image span ts).evaluate env = (outcome env b ts).map .bool := by
  rw [← value_noting, evaluateIn_chaining, Noted.value_bind, run_chain]
  rfl

end Tree

/-! ## Groups -/

namespace Grouping

section Surroundings

variable {n : Type → Type} [Monad n] [LawfulMonad n]

theorem chain_one (b : Bool) (part : Part n) : Part.chain b [part] = part.truth := by
  rw [Part.chain]
  refine (bind_congr fun c => ?_).trans (bind_pure _)
  split
  next same => rw [Part.chain, same]
  next => rfl

mutual

/-- A group has the truth value of the chain of its operands. -/
theorem truth_tree (s : Surroundings n) (b : Bool) : (g : Grouping) →
    ((g.tree (.chaining b)).part s).truth = Part.chain b (Tree.partsOf s (g.flat.map Prod.snd))
  | .operand text t => (chain_one b (t.part s)).symm
  | .group parts => by
    rw [tree, Tree.truth_chaining, flat]
    exact chain_trees s b parts

theorem chain_trees (s : Surroundings n) (b : Bool) : (parts : List Grouping) →
    Part.chain b (Tree.partsOf s (trees (.chaining b) parts)) =
      Part.chain b (Tree.partsOf s ((flatAll parts).map Prod.snd))
  | [] => rfl
  | g :: parts => by
    have first := truth_tree s b g
    have others := chain_trees s b parts
    rw [Tree.partsOf_eq_map] at first others ⊢
    rw [Tree.partsOf_eq_map] at others ⊢
    rw [flatAll, List.map_append, List.map_append, Part.chain_append, ← others, ← first, trees,
      List.map_cons, Part.chain]

end

end Surroundings

/-- A chain with groups takes the course of the chain of its operands. -/
theorem sameCourse_trees (b : Bool) (parts : List Grouping) :
    SameCourse (.node (.chaining b) none ⟨0, 0⟩ ((flatAll parts).map Prod.snd))
      (.node (.chaining b) none ⟨0, 0⟩ (trees (.chaining b) parts)) := by
  refine .of_anywhere fun s => ?_
  rw [Tree.evaluateIn_chaining, Tree.evaluateIn_chaining, chain_trees]

/-- So does a chain that is one group. -/
theorem sameCourse_whole (b : Bool) {parts : List Grouping} (several : 2 ≤ (flatAll parts).length) :
    SameCourse (.node (.chaining b) none ⟨0, 0⟩ ((flatAll parts).map Prod.snd))
      (whole (.chaining b) parts) := by
  match parts with
  | [.operand text t] => simp [flatAll, flat] at several
  | [.group parts] =>
    rw [flatAll, flatAll, List.append_nil, flat]
    exact sameCourse_trees b parts
  | [] => exact sameCourse_trees b []
  | part :: part' :: parts => exact sameCourse_trees b (part :: part' :: parts)

end Grouping

/-- The level of the chains of a kind. -/
def Grammar.Level.chaining : Bool → Level
  | true => .conjunction
  | false => .disjunction

/-- The mark between their operands. -/
def Mark.chaining : Bool → Mark
  | true => .and
  | false => .or

theorem mem_flatOperators_chaining (b : Bool) :
    (Mark.chaining b, Kind.chaining b) ∈ (Level.chaining b).flatOperators := by
  cases b <;> exact List.mem_singleton.mpr rfl

/-- Two texts are read as trees with the given outlines, and come to the same in the same way. -/
def ReadSame (text text' : String) (outline outline' : Tree) : Prop :=
  ∃ tree tree', SyntaxTree.parse text = .ok tree ∧ SyntaxTree.parse text' = .ok tree' ∧
    tree.unfold.outline = outline ∧ tree'.unfold.outline = outline' ∧
    SameCourse tree.unfold tree'.unfold ∧ ∀ env, tree.evaluate env = tree'.evaluate env

/-- Texts that stand alone for expressions with one course are read as such. -/
theorem readSame_of_standsAlone {ℓ ℓ' : Level} {text text' : String} {t t' u u' : Tree}
    (stands : StandsAlone maxDepth ℓ text t) (stands' : StandsAlone maxDepth ℓ' text' t')
    (outline : t.outline = u.outline) (outline' : t'.outline = u'.outline)
    (low : u.height ≤ maxDepth) (low' : u'.height ≤ maxDepth) (same : SameCourse u u') :
    ReadSame text text' u.outline u'.outline := by
  rw [← Tree.height_eq_of_outline outline] at low
  rw [← Tree.height_eq_of_outline outline'] at low'
  have read : SyntaxTree.parse text = .ok (.ofTree t) :=
    SyntaxTree.parse_eq_ok_iff.mpr ⟨t, stands.parse low, rfl⟩
  have read' : SyntaxTree.parse text' = .ok (.ofTree t') :=
    SyntaxTree.parse_eq_ok_iff.mpr ⟨t', stands'.parse low', rfl⟩
  have course : SameCourse t t' :=
    ((SameCourse.of_outline_eq outline).trans same).trans (.of_outline_eq outline'.symm)
  refine ⟨_, _, read, read', ?_⟩
  simp only [SyntaxTree.evaluate_eq_unfold, SyntaxTree.unfold_ofTree]
  exact ⟨outline, outline', course, course.value⟩

/-- How the operands of a chain are grouped does not matter. -/
structure GroupsFreely (b : Bool) : Prop where
  /-- Some of the operands can be the operands of one that is a chain of the same kind. -/
  nodes : ∀ (image image' image'' : Option String) (span span' span'' : Span) (xs ys zs : List Tree),
    SameCourse (.node (.chaining b) image span (xs ++ ys ++ zs))
      (.node (.chaining b) image' span' (xs ++ .node (.chaining b) image'' span'' ys :: zs))
  /-- The operands up to the first one that decides are evaluated, and what this one comes to is what
  the chain comes to. -/
  operands : ∀ (env : Environment) (image : Option String) (span : Span) (ts : List Tree),
    (Tree.node (.chaining b) image span ts).steps env =
        (Tree.reached env b ts).flatMap (·.steps env) ∧
      (Tree.node (.chaining b) image span ts).evaluate env =
        (Tree.outcome env b ts).map .bool
  /-- A text with parentheses around some of the operands, in any way that there is room for, is read as
  another tree than the text without them, which is one chain, and takes the same course. -/
  texts : ∀ (operator : String) (parts : List Grouping),
    Lexer.Lexes operator (.mark (.chaining b)) → 2 ≤ (Grouping.flatAll parts).length →
      (∀ part ∈ parts, part.Stands (.chaining b) maxDepth) →
        (Grouping.whole (.chaining b) parts).height ≤ maxDepth →
          ReadSame (joined operator ((Grouping.flatAll parts).map Prod.fst))
            (joined operator (Grouping.texts operator parts))
            (Tree.node (.chaining b) none ⟨0, 0⟩ ((Grouping.flatAll parts).map Prod.snd)).outline
            (Grouping.whole (.chaining b) parts).outline

/-- Grouping never matters in a chain. -/
theorem groupsFreely (b : Bool) : GroupsFreely b := by
  constructor
  case nodes => exact Tree.sameCourse_group b
  case operands =>
    exact fun env image span ts => ⟨Tree.steps_chaining env b ts, Tree.evaluate_eq_outcome env b ts⟩
  case texts =>
    intro operator parts lexes several each low
    have listed := mem_flatOperators_chaining b
    have reads := Piece.readsAs_of_lexes lexes
    have nonempty : parts ≠ [] := by
      rintro rfl
      cases several
    obtain ⟨t, chain, outline⟩ := StandsAlone.chain listed reads
      (Grouping.standsAlone_flatAll each) (by rwa [List.length_map])
    obtain ⟨t', grouped, outline'⟩ := Grouping.exists_whole listed reads nonempty each
    exact readSame_of_standsAlone chain grouped outline outline'
      (Nat.le_trans (Grouping.height_flatAll_le _ several) low) low
      (Grouping.sameCourse_whole b several)

/-- A variable with a name of one letter, as an operand. -/
def letter (name : String) : Tree :=
  .node .identifier (some name) ⟨0, 1⟩ []

theorem standsAlone_letter {n : Nat} {name : String}
    (split : (Body.of name.toList).tokens = .ok [⟨.ident name, ⟨0, 1⟩, name⟩])
    (bare : Body.unwrap? (Text.trim name.toList) = none) :
    StandsAlone (n + 1) .primary name (letter name) :=
  ⟨bare, _, split, .identifier ⟨name, rfl⟩ id⟩

theorem standsAlone_a {n : Nat} : StandsAlone (n + 1) .primary "a" (letter "a") :=
  standsAlone_letter (Lexer.tokens_of_split? (n := 1) rfl) rfl

theorem standsAlone_b {n : Nat} : StandsAlone (n + 1) .primary "b" (letter "b") :=
  standsAlone_letter (Lexer.tokens_of_split? (n := 1) rfl) rfl

/-- With two of three operands in parentheses the tree is another one, and the value is the same. -/
theorem groupsFreely_nested : ∃ tree tree',
    SyntaxTree.parse "a && b && a" = .ok tree ∧ SyntaxTree.parse "a && ( b && a )" = .ok tree' ∧
      tree.unfold.outline ≠ tree'.unfold.outline ∧
      ∀ env, tree.evaluate env = tree'.evaluate env := by
  have lexes : Lexer.Lexes "&&" (.mark .and) := Lexer.tokens_of_split? (n := 1) rfl
  have first {n : Nat} : Grouping.Stands .conjunction (n + 1) (.operand "a" (letter "a")) :=
    .operand (standsAlone_a.loosen (by decide))
  have second {n : Nat} : Grouping.Stands .conjunction (n + 1) (.operand "b" (letter "b")) :=
    .operand (standsAlone_b.loosen (by decide))
  have group : Grouping.Stands .conjunction maxDepth
      (.group [.operand "b" (letter "b"), .operand "a" (letter "a")]) :=
    .group (Nat.le_refl 2) (by simp [first, second])
  have each : ∀ part ∈ [.operand "a" (letter "a"),
      .group [.operand "b" (letter "b"), .operand "a" (letter "a")]],
      Grouping.Stands .conjunction maxDepth part := by
    simp only [List.forall_mem_cons]
    exact ⟨first, group, by simp⟩
  obtain ⟨tree, tree', read, read', outline, outline', _, same⟩ :=
    (groupsFreely true).texts "&&" _ lexes (by decide) each (by decide)
  have flat : joined "&&" ["a", "b", "a"] = "a && b && a" := by decide
  have nested : joined "&&" ["a", parenthesized (joined "&&" ["b", "a"])] = "a && ( b && a )" := by
    decide
  refine ⟨tree, tree', flat ▸ read, nested ▸ read', ?_, same⟩
  rw [outline, outline']
  rintro ⟨⟩

/-! ## Negations -/

namespace Tree

/-- The negation of an expression. -/
def negation (t : Tree) : Tree :=
  .node .not none ⟨0, 0⟩ [t]

variable {image image' : Option String} {span span' : Span}

/-- A negation is entered as little as a chain. -/
theorem steps_not (env : Environment) (b : Bool) (ts : List Tree) :
    (node .not image span [.node (.chaining b) image' span' ts]).steps env =
      (reached env b ts).flatMap (·.steps env) := by
  rw [steps, evaluateIn_not, truth_chaining, bind_map_left, Noted.notes_bind, run_chain]
  cases outcome env b ts <;> exact List.append_nil _

theorem evaluate_not (env : Environment) (b : Bool) (ts : List Tree) :
    (node .not image span [.node (.chaining b) image' span' ts]).evaluate env =
      (outcome env b ts).map fun c => .bool (!c) := by
  rw [← value_noting, evaluateIn_not, truth_chaining, bind_map_left, Noted.value_bind, run_chain]
  rfl

end Tree

/-- The negation of a chain is the chain of the other kind over the negations of its operands. -/
structure ObeysDeMorgan (b : Bool) : Prop where
  /-- They take the same course, wherever the nodes stand. -/
  nodes : ∀ (image image' image'' : Option String) (span span' span'' : Span)
    (ts negated : List Tree), List.Forall₂ (fun t t' => t'.Negates t) ts negated →
      SameCourse (.node .not image span [.node (.chaining b) image' span' ts])
        (.node (.chaining (!b)) image'' span'' negated)
  /-- In this course the operands are evaluated up to the first one that decides, and what comes of it is
  the opposite of its truth value, or its error. -/
  operands : ∀ (env : Environment) (image image' : Option String) (span span' : Span) (ts : List Tree),
    (Tree.node .not image span [.node (.chaining b) image' span' ts]).steps env =
        (Tree.reached env b ts).flatMap (·.steps env) ∧
      (Tree.node .not image span [.node (.chaining b) image' span' ts]).evaluate env =
        (Tree.outcome env b ts).map fun c => .bool (!c)
  /-- So it is for the texts, if there is room for the parentheses and the negations. -/
  texts : ∀ (operator operator' : String) (entries : List (String × Tree)),
    Lexer.Lexes operator (.mark (.chaining b)) → Lexer.Lexes operator' (.mark (.chaining (!b))) →
      2 ≤ entries.length →
        (∀ entry ∈ entries, StandsAlone (maxDepth - 2) .unary entry.1 entry.2 ∧
          entry.2.height ≤ maxDepth - 2) →
          ReadSame (negated (parenthesized (joined operator (entries.map Prod.fst))))
            (joined operator' (entries.map fun entry => parenthesized (negated entry.1)))
            (Tree.negation (.node (.chaining b) none ⟨0, 0⟩ (entries.map Prod.snd))).outline
            (Tree.node (.chaining (!b)) none ⟨0, 0⟩
              (entries.map fun entry => entry.2.negation)).outline

/-- De Morgan's laws hold as they stand, for values, errors and what is evaluated. -/
theorem obeysDeMorgan (b : Bool) : ObeysDeMorgan b := by
  constructor
  case nodes =>
    exact fun image image' image'' span span' span'' _ _ =>
      Tree.sameCourse_not b image image' image'' span span' span''
  case operands =>
    exact fun env _ _ _ _ ts => ⟨Tree.steps_not env b ts, Tree.evaluate_not env b ts⟩
  case texts =>
    intro operator operator' entries lexes lexes' several each
    have stand : ∀ entry ∈ entries, StandsAlone (maxDepth - 2) .unary entry.1 entry.2 :=
      fun entry member => (each entry member).1
    have low : Tree.heightAll (entries.map Prod.snd) ≤ maxDepth - 2 :=
      heightAll_le (List.forall_mem_map.mpr fun entry member => (each entry member).2)
    have looser : (Level.chaining b).tighter.rank ≤ Level.unary.rank := by cases b <;> decide
    obtain ⟨t, whole, outline⟩ := exists_negatedChain (mem_flatOperators_chaining b)
      (Piece.readsAs_of_lexes lexes) several stand looser
    obtain ⟨t', moved, outline'⟩ := exists_chain_negated (mem_flatOperators_chaining (!b))
      (Piece.readsAs_of_lexes lexes') several stand
    have opposites : List.Forall₂ (fun t t' => t'.Negates t) (entries.map Prod.snd)
        (entries.map fun entry => entry.2.negation) := by
      rw [List.forall₂_map_left_iff, List.forall₂_map_right_iff, List.forall₂_same]
      exact fun _ _ => ⟨none, ⟨0, 0⟩, rfl⟩
    have low' : Tree.heightAll (entries.map fun entry => entry.2.negation) ≤ maxDepth - 1 := by
      refine heightAll_le (List.forall_mem_map.mpr fun entry member => ?_)
      have below := (each entry member).2
      simp only [Tree.negation, Tree.height, Tree.heightAll, maxDepth] at below ⊢
      omega
    refine readSame_of_standsAlone whole moved outline outline' ?_ ?_
      (Tree.sameCourse_not b none none none ⟨0, 0⟩ ⟨0, 0⟩ ⟨0, 0⟩ opposites)
    · simp only [Tree.negation, Tree.height, Tree.heightAll, maxDepth] at low ⊢
      omega
    · simp only [Tree.height, maxDepth] at low' ⊢
      omega

/-- The negation of a conjunction of two variables, with the negation moved inside. -/
theorem obeysDeMorgan_conjunction : ∃ tree tree',
    SyntaxTree.parse "! ( a && b )" = .ok tree ∧ SyntaxTree.parse "( ! a ) || ( ! b )" = .ok tree' ∧
      SameCourse tree.unfold tree'.unfold ∧ ∀ env, tree.evaluate env = tree'.evaluate env := by
  have lexes : Lexer.Lexes "&&" (.mark .and) := Lexer.tokens_of_split? (n := 1) rfl
  have lexes' : Lexer.Lexes "||" (.mark .or) := Lexer.tokens_of_split? (n := 1) rfl
  have each : ∀ entry ∈ [("a", letter "a"), ("b", letter "b")],
      StandsAlone (maxDepth - 2) .unary entry.1 entry.2 ∧ entry.2.height ≤ maxDepth - 2 := by
    simp only [List.forall_mem_cons]
    exact ⟨⟨standsAlone_a.loosen (by decide), by decide⟩,
      ⟨standsAlone_b.loosen (by decide), by decide⟩, by simp⟩
  obtain ⟨tree, tree', read, read', _, _, course, same⟩ :=
    (obeysDeMorgan true).texts "&&" "||" _ lexes lexes' (by decide) each
  have outside : negated (parenthesized (joined "&&" ["a", "b"])) = "! ( a && b )" := by decide
  have inside : joined "||" [parenthesized (negated "a"), parenthesized (negated "b")] =
      "( ! a ) || ( ! b )" := by decide
  exact ⟨tree, tree', outside ▸ read, inside ▸ read', course, same⟩

end TargetingRules

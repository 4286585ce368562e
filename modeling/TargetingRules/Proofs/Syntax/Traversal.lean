import TargetingRules.Proofs.Syntax.PostOrder

/-!
# Traversals with a stack

Nodes are offered to a builder one after the other. It refuses a node with a child that is not there
yet, and goes on as if that node had never been offered. A traversal of the tree that is finished in
the end keeps a stack of the numbers that it still has to visit. Its loop looks every number up, and
nothing in it says that the node is there or that the stack ever runs empty: a loop that goes on for
ever has no value.

Both follow from the order in which the builder took the nodes. The loop visits what the expression
has in pre-order, a shared node once for each way to it, and stops where a visit fails.
-/

namespace TargetingRules

/-! ## Building -/

namespace TreeBuilder

/-- Offer a node to a builder, which stays as it is if it refuses the node. -/
def offer (builder : TreeBuilder) (node : Node) : Except TreeError Nat × TreeBuilder :=
  match builder.push node with
  | .ok (grown, id) => (.ok id, grown)
  | .error fault => (.error fault, builder)

/-- Offer nodes one after the other. -/
def offerAll (builder : TreeBuilder) : List Node → List (Except TreeError Nat) × TreeBuilder
  | [] => ([], builder)
  | node :: nodes =>
    let (answer, next) := builder.offer node
    let (answers, last) := next.offerAll nodes
    (answer :: answers, last)

/-- Offered some nodes in order, a builder gives these answers and becomes another one. It takes a
node whose children all have smaller numbers than the node would get, and refuses any other node for
the first child that has not. -/
inductive Offers : TreeBuilder → List Node → List (Except TreeError Nat) → TreeBuilder → Prop where
  | nil {builder} : Offers builder [] [] builder
  | taken {builder grown last : TreeBuilder} {node nodes answers}
      (below : ∀ child ∈ node.children, child < builder.nodes.size)
      (grows : grown.nodes = builder.nodes.push node)
      (others : Offers grown nodes answers last) :
      Offers builder (node :: nodes) (.ok builder.nodes.size :: answers) last
  | refused {builder last : TreeBuilder} {node nodes answers before child after}
      (split : node.children = before ++ child :: after)
      (below : ∀ earlier ∈ before, earlier < builder.nodes.size)
      (missing : builder.nodes.size ≤ child)
      (others : Offers builder nodes answers last) :
      Offers builder (node :: nodes) (.error (.danglingNode child) :: answers) last

theorem eq_of_nodes_eq {builder builder' : TreeBuilder} (same : builder.nodes = builder'.nodes) :
    builder = builder' := by
  obtain ⟨nodes, first⟩ := builder
  obtain ⟨nodes', first'⟩ := builder'
  cases same
  rfl

theorem push_eq_error {builder : TreeBuilder} {node : Node} {before after : List Nat} {child : Nat}
    (split : node.children = before ++ child :: after)
    (below : ∀ earlier ∈ before, earlier < builder.nodes.size)
    (missing : builder.nodes.size ≤ child) : builder.push node = .error (.danglingNode child) := by
  have found : node.children.find? (builder.nodes.size ≤ ·) = some child := by
    refine List.find?_eq_some_iff_append.mpr ⟨by simpa using missing, before, after, split, ?_⟩
    intro earlier member
    simpa using below earlier member
  unfold push
  split
  next child' found' =>
    rw [found] at found'
    cases found'
    rfl
  next absent =>
    rw [found] at absent
    cases absent

theorem takes_or_refuses (builder : TreeBuilder) (node : Node) :
    (∀ child ∈ node.children, child < builder.nodes.size) ∨
      ∃ before child after, node.children = before ++ child :: after ∧
        (∀ earlier ∈ before, earlier < builder.nodes.size) ∧ builder.nodes.size ≤ child := by
  cases found : node.children.find? (builder.nodes.size ≤ ·) with
  | none =>
    refine .inl fun child member => ?_
    simpa using List.find?_eq_none.mp found child member
  | some child =>
    obtain ⟨missing, before, after, split, below⟩ := List.find?_eq_some_iff_append.mp found
    refine .inr ⟨before, child, after, split, fun earlier member => ?_, by simpa using missing⟩
    simpa using below earlier member

theorem offers_offerAll (builder : TreeBuilder) (nodes : List Node) :
    Offers builder nodes (builder.offerAll nodes).1 (builder.offerAll nodes).2 := by
  induction nodes generalizing builder with
  | nil => exact .nil
  | cons node nodes ih =>
    simp only [offerAll, offer]
    rcases builder.takes_or_refuses node with below | ⟨before, child, after, split, below, missing⟩
    · obtain ⟨grown, pushed, grows⟩ := push_eq_ok below
      rw [pushed]
      exact .taken below grows (ih grown)
    · rw [push_eq_error split below missing]
      exact .refused split below missing (ih builder)

/-- What a builder answers to some nodes, and what it becomes. -/
theorem offerAll_eq_iff {builder last : TreeBuilder} {nodes : List Node}
    {answers : List (Except TreeError Nat)} :
    builder.offerAll nodes = (answers, last) ↔ Offers builder nodes answers last := by
  constructor
  · intro same
    have offers := offers_offerAll builder nodes
    rwa [same] at offers
  · intro offers
    induction offers with
    | nil => rfl
    | @taken builder grown last node nodes answers below grows others ih =>
      obtain ⟨next, pushed, same⟩ := push_eq_ok below
      obtain rfl : next = grown := eq_of_nodes_eq (same.trans grows.symm)
      simp only [offerAll, offer, pushed, ih]
    | refused split below missing others ih =>
      simp only [offerAll, offer, push_eq_error split below missing, ih]

namespace Offers

variable {builder last : TreeBuilder} {nodes : List Node} {answers : List (Except TreeError Nat)}

/-- The nodes taken get the next numbers in turn, and the nodes refused get none. -/
theorem numbers (offers : Offers builder nodes answers last) :
    List.range builder.nodes.size ++ answers.filterMap Except.toOption =
      List.range last.nodes.size := by
  induction offers with
  | nil => exact List.append_nil _
  | taken below grows others ih =>
    rw [← ih, grows, Array.size_push, List.range_succ, List.append_assoc]
    rfl
  | refused split below missing others ih => exact ih

/-- Nodes stay where they are. -/
theorem getElem?_of_lt (offers : Offers builder nodes answers last) {id : Nat}
    (bound : id < builder.nodes.size) : last.nodes[id]? = builder.nodes[id]? := by
  induction offers with
  | nil => rfl
  | taken below grows others ih =>
    rw [ih (by rw [grows, Array.size_push]; omega), grows, Array.getElem?_push_lt bound,
      Array.getElem?_eq_getElem bound]
  | refused split below missing others ih => exact ih bound

/-- A node that is taken is the one with the number that it gets. -/
theorem getElem?_of_answer (offers : Offers builder nodes answers last) {position id : Nat}
    (answer : answers[position]? = some (.ok id)) : last.nodes[id]? = nodes[position]? := by
  induction offers generalizing position with
  | nil => cases answer
  | @taken builder grown last node nodes answers below grows others ih =>
    cases position with
    | zero =>
      cases answer
      rw [others.getElem?_of_lt (by rw [grows, Array.size_push]; omega), grows]
      exact Array.getElem?_push_size
    | succ position => exact ih answer
  | refused split below missing others ih =>
    cases position with
    | zero => cases answer
    | succ position => exact ih answer

end Offers

end TreeBuilder

/-! ## Traversing -/

/-- A computation that comes to an end, as one that need not. -/
def ended {ε σ α : Type} (part : ExceptT ε (StateM σ) α) : ExceptT ε (StateT σ Option) α :=
  fun state => some (part state)

section Ended

variable {ε σ α β : Type}

theorem ended_bind (part : ExceptT ε (StateM σ) α) (next : α → ExceptT ε (StateM σ) β) :
    ended (part >>= next) = ended part >>= fun a => ended (next a) := by
  funext state
  change some (ExceptT.bindCont next (part state).1 (part state).2) =
    ExceptT.bindCont (fun a => ended (next a)) (part state).1 (part state).2
  cases (part state).1 <;> rfl

theorem run_bind (part : ExceptT ε (StateM σ) α) (next : α → ExceptT ε (StateM σ) β) (state : σ) :
    (part >>= next).run.run state =
      match part.run.run state with
      | (.ok a, mid) => (next a).run.run mid
      | (.error e, last) => (.error e, last) := by
  change ExceptT.bindCont next (part state).1 (part state).2 = _
  change _ = match part state with
    | (.ok a, mid) => next a mid
    | (.error e, last) => (.error e, last)
  obtain ⟨answer, last⟩ := part state
  cases answer <;> rfl

end Ended

/-- Put the children of a node on a stack, the last one first. -/
def stacked (children stack : List Nat) : List Nat :=
  children.reverse.foldl (fun stack child => child :: stack) stack

theorem stacked_eq (children stack : List Nat) : stacked children stack = children ++ stack := by
  simp [stacked]

namespace SyntaxTree

/-- Visit the nodes on a stack and whatever they lead to, until the stack is empty or a visit fails. -/
def walkStack {ε σ : Type} (tree : SyntaxTree) (ofFault : TreeError → ε)
    (visit : Node → ExceptT ε (StateM σ) Unit) :
    (stack : List Nat) → ExceptT ε (StateT σ Option) Unit
  | [] => return ()
  | id :: stack =>
    match tree.node id with
    | .error fault => throw (ofFault fault)
    | .ok node => do
      ended (visit node)
      tree |>.walkStack ofFault visit (stacked node.children stack)
partial_fixpoint

/-- Visit the nodes of a tree with a stack. -/
def walkByStack {ε σ : Type} (tree : SyntaxTree) (ofFault : TreeError → ε)
    (visit : Node → ExceptT ε (StateM σ) Unit) : ExceptT ε (StateT σ Option) Unit :=
  tree.walkStack ofFault visit [tree.root]

/-- Look for a node among those on a stack and whatever they lead to. -/
def findStack {σ : Type} (tree : SyntaxTree) (wanted : Node → StateM σ Bool) :
    (stack : List Nat) → ExceptT TreeError (StateT σ Option) (Option Node)
  | [] => return none
  | id :: stack =>
    match tree.node id with
    | .error fault => throw fault
    | .ok node => do
      if ← ended (ExceptT.lift (wanted node)) then return some node
      else tree |>.findStack wanted (stacked node.children stack)
partial_fixpoint

/-- Look for a node of a tree with a stack. -/
def findByStack {σ : Type} (tree : SyntaxTree) (wanted : Node → StateM σ Bool) :
    ExceptT TreeError (StateT σ Option) (Option Node) :=
  tree.findStack wanted [tree.root]

/-- Keep a node without children. -/
def keepLeaf (node : Node) : ExceptT TreeError (StateM (List Node)) Unit :=
  if node.isLeaf then modify (· ++ [node]) else return ()

/-- Collect the nodes without children with a stack. -/
def leavesByStack (tree : SyntaxTree) : Option (Except TreeError (List Node)) := do
  let (answer, leaves) ← (tree.walkByStack id keepLeaf).run.run []
  return answer.map fun () => leaves

/-- The numbers of the nodes that the root leads to, each before its children. -/
def preorder (tree : SyntaxTree) : List (Fin tree.nodes.size) :=
  tree.preorderFrom tree.root tree.root_lt

/-- The numbers of the nodes on a stack and whatever they lead to, in the order of visits. -/
def pending (tree : SyntaxTree) (stack : List Nat) (bounds : ∀ id ∈ stack, id < tree.nodes.size) :
    List (Fin tree.nodes.size) :=
  (stack.pmap tree.preorderFrom bounds).flatten

variable {tree : SyntaxTree}

theorem node_eq_ok {id : Nat} (bound : id < tree.nodes.size) : tree.node id = .ok tree.nodes[id] := by
  rw [node, Array.getElem?_eq_getElem bound]

theorem pending_root : tree.pending [tree.root] (by simpa using tree.root_lt) = tree.preorder := by
  simp only [pending, List.pmap_cons, List.pmap_nil, List.flatten_cons, List.flatten_nil,
    List.append_nil, preorder]

theorem stacked_lt {id : Nat} {stack : List Nat} (bound : id < tree.nodes.size)
    (bounds : ∀ id ∈ stack, id < tree.nodes.size) :
    ∀ other ∈ stacked tree.nodes[id].children stack, other < tree.nodes.size := by
  intro other member
  rw [stacked_eq, List.mem_append] at member
  rcases member with isChild | waiting
  · exact children_lt bound other isChild
  · exact bounds other waiting

/-- What is pending is the number on top of the stack, and then what is pending once the children of
its node have taken its place. -/
theorem pending_cons {id : Nat} {stack : List Nat} (bound : id < tree.nodes.size)
    (others : ∀ other ∈ stack, other < tree.nodes.size) :
    tree.pending (id :: stack) (List.forall_mem_cons.mpr ⟨bound, others⟩) =
      ⟨id, bound⟩ :: tree.pending (stacked tree.nodes[id].children stack)
        (stacked_lt bound others) := by
  simp only [pending, stacked_eq, List.pmap_cons, List.flatten_cons, preorderFrom_eq, List.pmap_append,
    List.flatten_append, List.cons_append]

/-- Induction over the turns of a loop with a stack. Each turn takes one number off what is pending,
so that the stack runs empty. -/
theorem stack_induction {motive : (stack : List Nat) → (∀ id ∈ stack, id < tree.nodes.size) → Prop}
    (done : ∀ bounds, motive [] bounds)
    (turn : ∀ (id : Nat) (stack : List Nat) (bound : id < tree.nodes.size)
      (others : ∀ other ∈ stack, other < tree.nodes.size),
      motive (stacked tree.nodes[id].children stack) (stacked_lt bound others) →
        motive (id :: stack) (List.forall_mem_cons.mpr ⟨bound, others⟩))
    (stack : List Nat) (bounds : ∀ id ∈ stack, id < tree.nodes.size) : motive stack bounds := by
  generalize order : tree.pending stack bounds = ids
  induction ids generalizing stack with
  | nil =>
    cases stack with
    | nil => exact done bounds
    | cons id stack =>
      obtain ⟨bound, others⟩ := List.forall_mem_cons.mp bounds
      rw [pending_cons bound others] at order
      cases order
  | cons first ids ih =>
    cases stack with
    | nil => exact done bounds
    | cons id stack =>
      obtain ⟨bound, others⟩ := List.forall_mem_cons.mp bounds
      rw [pending_cons bound others] at order
      exact turn id stack bound others (ih _ _ (List.cons.inj order).2)

/-- The loop visits what is pending. -/
theorem walkStack_eq {ε σ : Type} (ofFault : TreeError → ε)
    (visit : Node → ExceptT ε (StateM σ) Unit) (stack : List Nat)
    (bounds : ∀ id ∈ stack, id < tree.nodes.size) :
    tree.walkStack ofFault visit stack =
      ended ((tree.pending stack bounds).forM fun id => visit tree.nodes[id]) := by
  induction stack, bounds using stack_induction with
  | done bounds =>
    rw [walkStack]
    rfl
  | turn id stack bound others ih =>
    rw [walkStack, node_eq_ok bound, pending_cons bound others]
    simp only [ih, List.forM_eq_forM, List.forM_cons, ended_bind, Fin.getElem_fin]

/-- The loop looks at what is pending, up to the first node that is wanted. -/
theorem findStack_eq {σ : Type} (wanted : Node → StateM σ Bool) (stack : List Nat)
    (bounds : ∀ id ∈ stack, id < tree.nodes.size) :
    tree.findStack wanted stack =
      ended (ExceptT.lift
        (((tree.pending stack bounds).map fun id => tree.nodes[id]).findM? wanted)) := by
  induction stack, bounds using stack_induction with
  | done bounds =>
    rw [findStack]
    rfl
  | turn id stack bound others ih =>
    rw [findStack, node_eq_ok bound, pending_cons bound others]
    simp only [ih, List.map_cons, List.findM?, ExceptT.lift_bind, ended_bind, Fin.getElem_fin]
    refine bind_congr fun isWanted => ?_
    cases isWanted <;> rfl

/-! ## Orders -/

/-- The numbers stand for the parts of the expression, in its pre-order. -/
theorem map_unfoldFrom_preorderFrom {id : Nat} (bound : id < tree.nodes.size) :
    (tree.preorderFrom id bound).map
        (fun number : Fin tree.nodes.size => tree.unfoldFrom number number.isLt) =
      (tree.unfoldFrom id bound).preorder := by
  induction id using Nat.strongRecOn with
  | ind id ih =>
    rw [preorderFrom_eq, List.map_cons, List.map_flatten, List.map_pmap]
    rw [unfoldFrom_eq, Tree.preorder, Tree.preorderAll_eq, List.map_pmap, ← unfoldFrom_eq bound]
    congr 2
    exact List.pmap_congr_left _ fun child member _ _ =>
      ih child (tree.first id bound child member) _

theorem visited_eq_map (tree : SyntaxTree) :
    tree.visited = tree.preorder.map fun id => tree.nodes[id] :=
  visitedFrom_eq_map tree.root_lt

theorem walkByStack_eq {ε σ : Type} (tree : SyntaxTree) (ofFault : TreeError → ε)
    (visit : Node → ExceptT ε (StateM σ) Unit) :
    tree.walkByStack ofFault visit = ended (tree.preorder.forM fun id => visit tree.nodes[id]) := by
  rw [walkByStack, walkStack_eq ofFault visit [tree.root] (by simpa using tree.root_lt), pending_root]

theorem findByStack_eq {σ : Type} (tree : SyntaxTree) (wanted : Node → StateM σ Bool) :
    tree.findByStack wanted = ended (ExceptT.lift (tree.visited.findM? wanted)) := by
  rw [findByStack, findStack_eq wanted [tree.root] (by simpa using tree.root_lt), pending_root,
    visited_eq_map]

/-- A walk is the traversal by recursion over the nodes. -/
theorem walkByStack_eq_walk {ε σ : Type} (tree : SyntaxTree) (ofFault : TreeError → ε)
    (visit : Node → ExceptT ε (StateM σ) Unit) :
    tree.walkByStack ofFault visit = ended (tree.walk visit) := by
  rw [walkByStack_eq, walk_eq_forM, visited_eq_map, List.forM_eq_forM, List.forM_eq_forM, List.forM_map]

theorem findByStack_pure {σ : Type} (tree : SyntaxTree) (wanted : Node → Bool) :
    tree.findByStack (fun node => (pure (wanted node) : StateM σ Bool)) = pure (tree.find? wanted) := by
  rw [findByStack_eq, List.findM?_pure, find?_eq]
  rfl

theorem run_forM_keepLeaf (nodes kept : List Node) :
    (nodes.forM keepLeaf).run.run kept = (.ok (), kept ++ nodes.filter Node.isLeaf) := by
  induction nodes generalizing kept with
  | nil =>
    rw [List.filter_nil, List.append_nil]
    rfl
  | cons node nodes ih =>
    rw [List.forM_eq_forM] at ih ⊢
    rw [List.forM_cons, run_bind, keepLeaf, List.filter_cons]
    cases node.isLeaf with
    | true => exact (ih (kept ++ [node])).trans (by rw [List.append_assoc]; rfl)
    | false => exact ih kept

theorem leavesByStack_eq (tree : SyntaxTree) : tree.leavesByStack = some (.ok tree.leaves) := by
  have collected : (ended (tree.walk keepLeaf)).run.run [] = some (.ok (), tree.leaves) := by
    rw [walk_eq_forM, leaves_eq]
    exact congrArg some (run_forM_keepLeaf tree.visited [])
  rw [leavesByStack, walkByStack_eq_walk, collected]
  rfl

/-- Once the visits before a node have passed and the visit of the node fails, nothing more is
visited. -/
theorem run_forM_of_failed {ε σ α : Type} {visit : α → ExceptT ε (StateM σ) Unit}
    {before after : List α} {a : α} {e : ε} {state mid last : σ}
    (passed : (before.forM visit).run.run state = (.ok (), mid))
    (failed : (visit a).run.run mid = (.error e, last)) :
    ((before ++ a :: after).forM visit).run.run state = (.error e, last) := by
  induction before generalizing state with
  | nil =>
    cases passed
    rw [List.nil_append, List.forM_eq_forM, List.forM_cons, run_bind, failed]
  | cons b before ih =>
    rw [List.forM_eq_forM, List.forM_cons, run_bind] at passed
    rw [List.cons_append, List.forM_eq_forM, List.forM_cons, run_bind]
    cases first : (visit b).run.run state with
    | mk answer next =>
      rw [first] at passed
      cases answer with
      | error e' => cases passed
      | ok _ => exact ih passed

/-! ## All traversals -/

/-- A traversal with a stack comes to an end and visits what the recursion over the expression
visits. -/
structure TraversesInPreorder (tree : SyntaxTree) : Prop where
  /-- The order of visits is the pre-order of the expression. -/
  order : tree.preorder.map
      (fun number : Fin tree.nodes.size => tree.unfoldFrom number number.isLt) =
    tree.unfold.preorder
  /-- A walk visits the nodes in this order, and reports no missing node. -/
  walk : ∀ {ε σ : Type} (ofFault : TreeError → ε) (visit : Node → ExceptT ε (StateM σ) Unit),
    tree.walkByStack ofFault visit = ended (tree.preorder.forM fun number => visit tree.nodes[number])
  /-- A walk ends with the first visit that fails: the visits before it have been made, and no visit
  after it. -/
  stops : ∀ {ε σ : Type} (ofFault : TreeError → ε) (visit : Node → ExceptT ε (StateM σ) Unit)
    {before after number} {e : ε} {state mid last : σ}, tree.preorder = before ++ number :: after →
    (before.forM fun number => visit tree.nodes[number]).run.run state = (.ok (), mid) →
    (visit tree.nodes[number]).run.run mid = (.error e, last) →
    (tree.walkByStack ofFault visit).run.run state = some (.error e, last)
  /-- A search asks of the nodes in this order, up to the first one that is wanted. -/
  find : ∀ {σ : Type} (wanted : Node → StateM σ Bool), tree.findByStack wanted =
    ended (ExceptT.lift ((tree.preorder.map fun number => tree.nodes[number]).findM? wanted))
  /-- If only the node matters, that is the first one that is wanted. -/
  first : ∀ {σ : Type} (wanted : Node → Bool),
    tree.findByStack (fun node => (pure (wanted node) : StateM σ Bool)) =
      pure ((tree.preorder.map fun number => tree.nodes[number]).find? wanted)
  /-- The leaves are the nodes without children in this order. -/
  leaves : tree.leavesByStack =
    some (.ok ((tree.preorder.map fun number => tree.nodes[number]).filter Node.isLeaf))
  /-- A walk by recursion over the nodes comes to the same. -/
  walk_eq : ∀ {ε σ : Type} (ofFault : TreeError → ε) (visit : Node → ExceptT ε (StateM σ) Unit),
    tree.walkByStack ofFault visit = ended (tree.walk visit)
  /-- So does a search. -/
  find_eq : ∀ {σ : Type} (wanted : Node → Bool),
    tree.findByStack (fun node => (pure (wanted node) : StateM σ Bool)) = pure (tree.find? wanted)
  /-- So does the collection of the leaves. -/
  leaves_eq : tree.leavesByStack = some (.ok tree.leaves)

theorem traversesInPreorder (tree : SyntaxTree) : tree.TraversesInPreorder := by
  constructor
  case order => exact map_unfoldFrom_preorderFrom tree.root_lt
  case walk => exact tree.walkByStack_eq
  case stops =>
    intro ε σ ofFault visit before after number e state mid last split passed failed
    rw [walkByStack_eq, split]
    exact congrArg some (run_forM_of_failed passed failed)
  case find =>
    intro σ wanted
    rw [findByStack_eq, visited_eq_map]
  case first =>
    intro σ wanted
    rw [findByStack_pure, find?_eq, visited_eq_map]
  case leaves => rw [leavesByStack_eq, SyntaxTree.leaves_eq, visited_eq_map]
  case walk_eq => exact tree.walkByStack_eq_walk
  case find_eq => exact tree.findByStack_pure
  case leaves_eq => exact tree.leavesByStack_eq

end SyntaxTree

/-- Whatever nodes have been offered to a builder, and whichever of them it has taken, the tree that it
is finished to is traversed in pre-order. -/
theorem TreeBuilder.traverses_of_offerAll {nodes : List Node} {answers : List (Except TreeError Nat)}
    {builder : TreeBuilder} (offered : TreeBuilder.empty.offerAll nodes = (answers, builder)) :
    Offers .empty nodes answers builder ∧
      answers.filterMap Except.toOption = List.range builder.nodes.size ∧
      (∀ position id : Nat, answers[position]? = some (.ok id) →
        builder.nodes[id]? = nodes[position]?) ∧
      ∀ root tree, builder.finish root = .ok tree →
        tree.nodes = builder.nodes ∧ tree.root = root ∧ tree.TraversesInPreorder := by
  have offers := offerAll_eq_iff.mp offered
  refine ⟨offers, offers.numbers, fun position id => offers.getElem?_of_answer, ?_⟩
  intro root tree finished
  obtain ⟨same, isRoot⟩ := finish_eq_ok finished
  exact ⟨same, isRoot, tree.traversesInPreorder⟩

namespace TreeBuilder

/-- A variable, a negation of a node that is not there, and a conjunction of the variable with
itself. -/
def sharing : List Node := [
  ⟨.identifier, some "a", ⟨0, 1⟩, []⟩, ⟨.not, none, ⟨0, 2⟩, [3]⟩, ⟨.and, none, ⟨0, 6⟩, [0, 0]⟩]

/-- The conjunction. -/
def shared : SyntaxTree where
  nodes := #[⟨.identifier, some "a", ⟨0, 1⟩, []⟩, ⟨.and, none, ⟨0, 6⟩, [0, 0]⟩]
  root := 1
  root_lt := by decide
  first := (empty.offerAll sharing).2.first

theorem preorder_shared : shared.preorder = [⟨1, by decide⟩, ⟨0, by decide⟩, ⟨0, by decide⟩] := by
  simp [SyntaxTree.preorder, SyntaxTree.preorderFrom_eq, shared]

/-- Count a visit, and fail at a variable. -/
def countToVariable (node : Node) : ExceptT String (StateM Nat) Unit := do
  modify (· + 1)
  if node.kind.isIdentifier then throw "variable"

/-- A node refused gets no number, a shared node is visited twice, and a walk that fails at a variable
has made two of three visits. -/
theorem traverses_sharing : ∃ builder,
    empty.offerAll sharing = ([.ok 0, .error (.danglingNode 3), .ok 1], builder) ∧
      builder.finish 1 = .ok shared ∧ shared.TraversesInPreorder ∧ shared.preorder.length = 3 ∧
      (shared.walkByStack TreeError.message countToVariable).run.run 0 =
        some (.error "variable", 2) := by
  have offered : empty.offerAll sharing =
      ([.ok 0, .error (.danglingNode 3), .ok 1], (empty.offerAll sharing).2) := rfl
  have finished : (empty.offerAll sharing).2.finish 1 = .ok shared := rfl
  obtain ⟨_, _, _, built⟩ := traverses_of_offerAll offered
  have traverses := (built 1 shared finished).2.2
  refine ⟨_, offered, finished, traverses, by rw [preorder_shared]; rfl, ?_⟩
  have order : shared.preorder = [⟨1, by decide⟩] ++ ⟨0, by decide⟩ :: [⟨0, by decide⟩] :=
    preorder_shared
  exact traverses.stops TreeError.message countToVariable order rfl rfl

end TreeBuilder

end TargetingRules

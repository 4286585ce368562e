import Mathlib.Data.List.Forall2
import TargetingRules.Proofs.Syntax.Assembly
import TargetingRules.Proofs.Syntax.Reads
import TargetingRules.Proofs.Syntax.Refusal
import TargetingRules.Proofs.Syntax.Unfolding

/-!
# The bookkeeping of an assembly

What holds of every state that an assembly passes: the tokens read are tokens of the rule, the
nesting is within its limit, and the height noted for a node is the height of the expression that
the node stands for. A run is orderly if it keeps all this, never goes back, and ends at the depth
of nesting at which it began.

A run follows a reader of the grammar if it is orderly and comes to the same answer, where an
expression is one whose nodes, in post-order, are just the ones that the run has pushed. The rules
for following a reader go through the two programs in step.
-/

namespace TargetingRules

namespace Tree

theorem numberedAll_append (base : Nat) (ts us : List Tree) :
    numberedAll base (ts ++ us) = numberedAll base ts ++ numberedAll (base + sizeAll ts) us := by
  induction ts generalizing base with
  | nil => simp only [List.nil_append, numberedAll, sizeAll, Nat.add_zero]
  | cons t ts ih =>
    simp only [List.cons_append, numberedAll, sizeAll, ih, Nat.add_assoc, List.append_assoc]

theorem rootNumbers_append (base : Nat) (ts us : List Tree) :
    rootNumbers base (ts ++ us) = rootNumbers base ts ++ rootNumbers (base + sizeAll ts) us := by
  induction ts generalizing base with
  | nil => simp only [List.nil_append, rootNumbers, sizeAll, Nat.add_zero]
  | cons t ts ih => simp only [List.cons_append, rootNumbers, sizeAll, ih, Nat.add_assoc]

end Tree

/-! ## Expressions in a builder -/

/-- The syntax tree under a node of a builder. -/
def TreeBuilder.treeAt (builder : TreeBuilder) (id : Nat) (bound : id < builder.nodes.size) :
    SyntaxTree :=
  ⟨builder.nodes, id, bound, builder.first⟩

/-- A node of a builder stands for an expression. -/
def TreeBuilder.Stands (builder : TreeBuilder) (id : Nat) (t : Tree) : Prop :=
  ∃ bound, (builder.treeAt id bound).unfold = t

/-- After some nodes come those of consecutive expressions in post-order, with the given roots, and
no others. -/
structure Holds (before : List Node) (nodes : Array Node) (trees : List Tree) (ids : List Nat) :
    Prop where
  /-- The nodes. -/
  nodes_eq : nodes.toList = before ++ Tree.numberedAll before.length trees
  /-- The roots. -/
  roots : ids = Tree.rootNumbers before.length trees

theorem TreeBuilder.Stands.node_eq {builder : TreeBuilder} {id : Nat} {t : Tree}
    (stands : builder.Stands id t) :
    ∃ node, builder.node id = .ok node ∧ node.span = t.span := by
  obtain ⟨bound, rfl⟩ := stands
  refine ⟨builder.nodes[id], ?_, ?_⟩
  · rw [node, Array.getElem?_eq_getElem bound]
  · rw [SyntaxTree.unfold, SyntaxTree.unfoldFrom_eq]
    rfl

theorem SyntaxTree.unfoldFrom_congr {tree other : SyntaxTree} {id : Nat}
    (same : ∀ i ≤ id, tree.nodes[i]? = other.nodes[i]?) (bound : id < tree.nodes.size)
    (bound' : id < other.nodes.size) : tree.unfoldFrom id bound = other.unfoldFrom id bound' := by
  induction id using Nat.strongRecOn with
  | ind id ih =>
    have here : tree.nodes[id] = other.nodes[id] := by
      have := same id (Nat.le_refl id)
      rwa [Array.getElem?_eq_getElem bound, Array.getElem?_eq_getElem bound', Option.some.injEq] at this
    rw [unfoldFrom_eq, unfoldFrom_eq]
    congr 1
    · rw [here]
    · rw [here]
    · rw [here]
    · simp only [here]
      refine List.pmap_congr_left _ fun child member below _ => ?_
      have earlier := other.first id bound' child member
      exact ih child earlier (fun i le => same i (by omega)) _ _

theorem TreeBuilder.Stands.of_kept {builder later : TreeBuilder} {id : Nat} {t : Tree}
    (stands : builder.Stands id t) (kept : builder.nodes.toList <+: later.nodes.toList) :
    later.Stands id t := by
  obtain ⟨bound, unfolded⟩ := stands
  have bound' : id < later.nodes.size := by
    have := kept.length_le
    simp only [Array.length_toList] at this
    omega
  refine ⟨bound', ?_⟩
  rw [← unfolded]
  refine SyntaxTree.unfoldFrom_congr (fun i le => ?_) bound' bound
  have inside : i < builder.nodes.size := Nat.lt_of_le_of_lt le bound
  obtain ⟨more, kept⟩ := kept
  simp only [treeAt, ← Array.getElem?_toList, ← kept]
  exact List.getElem?_append_left (by simpa using inside)

namespace Holds

variable {before : List Node} {nodes after : Array Node} {trees more : List Tree}
  {ids others : List Nat}

theorem nil (nodes : Array Node) : Holds nodes.toList nodes [] [] :=
  ⟨by simp [Tree.numberedAll], rfl⟩

theorem length_eq (held : Holds before nodes trees ids) :
    nodes.size = before.length + Tree.sizeAll trees := by
  rw [← Array.length_toList, held.nodes_eq, List.length_append, Tree.length_numberedAll]

theorem append (held : Holds before nodes trees ids) (later : Holds nodes.toList after more others) :
    Holds before after (trees ++ more) (ids ++ others) := by
  have size : nodes.toList.length = before.length + Tree.sizeAll trees := held.length_eq
  constructor
  · rw [later.nodes_eq, size, held.nodes_eq, Tree.numberedAll_append, List.append_assoc]
  · rw [later.roots, size, held.roots, Tree.rootNumbers_append]

/-- A node over all the roots makes one expression of them. -/
theorem push (held : Holds before nodes trees ids) (kind : Kind) (image : Option String)
    (span : Span) : Holds before (nodes.push ⟨kind, image, span, ids⟩)
      [.node kind image span trees] [nodes.size] := by
  have size := held.length_eq
  constructor
  · simp only [Array.toList_push, held.nodes_eq, held.roots, Tree.numberedAll, Tree.numbered,
      List.append_assoc, List.append_nil]
  · simp only [Tree.rootNumbers, Tree.size, size, List.cons.injEq, and_true]
    omega

theorem lt_size (held : Holds before nodes trees ids) : ∀ id ∈ ids, id < nodes.size := by
  intro id member
  rw [held.roots] at member
  rw [held.length_eq]
  exact Tree.lt_of_mem_rootNumbers member

theorem stands {builder : TreeBuilder} (held : Holds before builder.nodes trees ids) :
    List.Forall₂ builder.Stands ids trees := by
  obtain ⟨nodes, rfl⟩ := held
  induction trees generalizing before with
  | nil => exact .nil
  | cons t trees ih =>
    have positive := t.size_pos
    have long : builder.nodes.size = before.length + (t.size + Tree.sizeAll trees) := by
      rw [← Array.length_toList, nodes, List.length_append, Tree.length_numberedAll, Tree.sizeAll]
    refine .cons ⟨by omega, ?_⟩ ?_
    · refine SyntaxTree.unfoldFrom_of_numbered _ before.length t ?_ _
      refine ⟨Tree.numberedAll (before.length + t.size) trees, ?_⟩
      change _ = builder.nodes.toList.drop before.length
      rw [nodes, List.drop_left, Tree.numberedAll]
    · have split : builder.nodes.toList = (before ++ t.numbered before.length) ++
          Tree.numberedAll (before ++ t.numbered before.length).length trees := by
        rw [nodes, Tree.numberedAll, List.append_assoc, List.length_append, Tree.length_numbered]
      have others := ih split
      rwa [List.length_append, Tree.length_numbered] at others

end Holds

/-! ## States -/

/-- The bookkeeping of a state is right. -/
structure Assembly.Sound (source : Source) (state : Assembly) : Prop where
  /-- No more tokens have been read than there are. -/
  position_le : state.position ≤ source.tokens.length
  /-- The nesting is within its limit. -/
  nesting_le : state.nesting ≤ Grammar.maxDepth
  /-- There is one height for each node. -/
  size_heights : state.heights.size = state.builder.nodes.size
  /-- The height of a node is that of its expression. -/
  height_eq : ∀ id bound,
    state.heights[id]? = some (state.builder.treeAt id bound).unfold.height
  /-- No node is too high. -/
  height_le : ∀ id bound, (state.builder.treeAt id bound).unfold.height ≤ Grammar.maxDepth

/-- The bookkeeping of a state is right, and the nesting is so deep. -/
structure Assembly.Ready (source : Source) (depth : Nat) (state : Assembly) : Prop where
  /-- The bookkeeping is right. -/
  sound : state.Sound source
  /-- The nesting. -/
  nesting_eq : state.nesting = depth

namespace Assembly

variable {source : Source} {depth : Nat} {state : Assembly}

theorem sound_initial (source : Source) : initial.Sound source where
  position_le := Nat.zero_le _
  nesting_le := Nat.zero_le _
  size_heights := rfl
  height_eq _ bound := absurd bound (Nat.not_lt_zero _)
  height_le _ bound := absurd bound (Nat.not_lt_zero _)

theorem Sound.moved (sound : state.Sound source) {token : Token} {rest : List Token}
    (next : source.ahead state = token :: rest) : state.moved.Sound source := by
  refine ⟨?_, sound.nesting_le, sound.size_heights, sound.height_eq, sound.height_le⟩
  have short := congrArg List.length next
  simp only [Source.ahead, List.length_drop, List.length_cons] at short
  change state.position + 1 ≤ _
  omega

theorem Sound.deeper (sound : state.Sound source) (shallow : state.nesting < Grammar.maxDepth) :
    state.deeper.Sound source :=
  ⟨sound.position_le, shallow, sound.size_heights, sound.height_eq, sound.height_le⟩

theorem Sound.shallower (sound : state.Sound source) : state.shallower.Sound source :=
  ⟨sound.position_le, Nat.le_trans (Nat.sub_le _ _) sound.nesting_le, sound.size_heights,
    sound.height_eq, sound.height_le⟩

theorem foldl_heights (state : Assembly) {ids : List Nat} {trees : List Tree} {least : Nat}
    (positive : 1 ≤ least)
    (heights : List.Forall₂ (fun id t => state.heights[id]? = some t.height) ids trees) :
    ids.foldl (fun height child => max height (state.heights.getD child 0 + 1)) least =
      max least (1 + Tree.heightAll trees) := by
  induction heights generalizing least with
  | nil => simp only [List.foldl_nil, Tree.heightAll]; omega
  | @cons id t ids trees known _ ih =>
    rw [List.foldl_cons, ih (by omega), Array.getD_eq_getD_getElem?, known, Option.getD_some,
      Tree.heightAll]
    omega

/-- The height that a node would have is that of its expression. -/
theorem Sound.heightOver_eq (sound : state.Sound source) {ids : List Nat} {trees : List Tree}
    (stands : List.Forall₂ state.builder.Stands ids trees) (kind : Kind) (image : Option String)
    (span : Span) : state.heightOver ids = (Tree.node kind image span trees).height := by
  have heights : List.Forall₂ (fun id t => state.heights[id]? = some t.height) ids trees :=
    stands.imp fun id t ⟨bound, unfolded⟩ => by rw [sound.height_eq id bound, unfolded]
  rw [heightOver, foldl_heights state (Nat.le_refl 1) heights, Tree.height]
  omega

/-- A pushed node keeps the bookkeeping right, if the height noted for it is right. -/
theorem Sound.push (sound : state.Sound source) {builder : TreeBuilder} {node : Node} {t : Tree}
    {height : Nat} (nodes : builder.nodes = state.builder.nodes.push node)
    (stands : builder.Stands state.builder.nodes.size t) (height_eq : height = t.height)
    (low : t.height ≤ Grammar.maxDepth) :
    Sound source { state with builder := builder, heights := state.heights.push height } := by
  have size : builder.nodes.size = state.builder.nodes.size + 1 := by
    rw [nodes, Array.size_push]
  have kept : state.builder.nodes.toList <+: builder.nodes.toList := by
    rw [nodes, Array.toList_push]
    exact List.prefix_append _ _
  have all : ∀ id bound, (state.heights.push height)[id]? =
      some (builder.treeAt id bound).unfold.height ∧
        (builder.treeAt id bound).unfold.height ≤ Grammar.maxDepth := by
    intro id bound
    rcases Nat.lt_or_ge id state.builder.nodes.size with inside | outside
    · have earlier : builder.Stands id (state.builder.treeAt id inside).unfold :=
        .of_kept ⟨inside, rfl⟩ kept
      obtain ⟨_, unfolded⟩ := earlier
      rw [unfolded, Array.getElem?_push, if_neg (by rw [sound.size_heights]; omega)]
      exact ⟨sound.height_eq id inside, sound.height_le id inside⟩
    · obtain rfl : id = state.builder.nodes.size := by omega
      obtain ⟨_, unfolded⟩ := stands
      rw [unfolded, Array.getElem?_push, if_pos sound.size_heights.symm, height_eq]
      exact ⟨rfl, low⟩
  refine ⟨sound.position_le, sound.nesting_le, ?_, fun id bound => (all id bound).1,
    fun id bound => (all id bound).2⟩
  rw [Array.size_push, sound.size_heights, size]

end Assembly

/-! ## Runs -/

/-- A run keeps the bookkeeping right, never goes back, and restores the depth of nesting. -/
structure Run.Orderly {α : Type} (run : Run α) (source : Source) (depth : Nat) (state : Assembly) :
    Prop where
  /-- The bookkeeping is right in every state passed. -/
  sound : ∀ mid ∈ run.passed, mid.Sound source
  /-- Tokens once read stay read. -/
  ascending : (state :: run.passed).Pairwise (·.position ≤ ·.position)
  /-- The end comes after all that has been passed. -/
  le_last : ∀ mid ∈ state :: run.passed, mid.position ≤ run.last.position
  /-- The bookkeeping is right at the end, and the depth is the one at the start. -/
  ready : run.last.Ready source depth

/-- Two computations end alike: with related results, or with the same failure. -/
def Answers {α β : Type} (agrees : α → β → Prop) : Except ParseError α → Except ParseError β → Prop
  | .ok a, .ok b => agrees a b
  | .error e, .error e' => e = e'
  | _, _ => False

theorem Answers.eq_error {α β : Type} {agrees : α → β → Prop} {e : ParseError}
    {answer : Except ParseError β} (answers : Answers agrees (.error e) answer) :
    answer = .error e := by
  cases answer with
  | error e' => exact congrArg Except.error (Eq.symm answers)
  | ok b => exact answers.elim

theorem Answers.exists_ok {α β : Type} {agrees : α → β → Prop} {a : α}
    {answer : Except ParseError β} (answers : Answers agrees (.ok a) answer) :
    ∃ b, answer = .ok b ∧ agrees a b := by
  cases answer with
  | error e => exact answers.elim
  | ok b => exact ⟨b, rfl, answers⟩

theorem Answers.imp {α β : Type} {agrees agrees' : α → β → Prop} {result : Except ParseError α}
    {answer : Except ParseError β} (answers : Answers agrees result answer)
    (same : ∀ a b, agrees a b → agrees' a b) : Answers agrees' result answer := by
  cases result with
  | error e => rw [answers.eq_error]; rfl
  | ok a =>
    obtain ⟨b, rfl, found⟩ := answers.exists_ok
    exact same a b found

theorem Answers.of_ok {α β γ : Type} {agrees : α → β → Prop} {agrees' : γ → β → Prop} {a : α}
    {c : γ} {answer : Except ParseError β} (answers : Answers agrees (.ok a) answer)
    (same : ∀ b, agrees a b → agrees' c b) : Answers agrees' (.ok c) answer := by
  obtain ⟨b, rfl, found⟩ := answers.exists_ok
  exact same b found

/-- From a state with the right bookkeeping, a run is orderly and answers as a reader does. -/
def Follows {α β : Type} (source : Source) (depth : Nat) (state : Assembly) (run : Run β)
    (result : Except ParseError α) (agrees : α → β → Assembly → Prop) : Prop :=
  state.Ready source depth → run.Orderly source depth state ∧
    Answers (fun a b => agrees a b run.last) result run.answer

section Following

variable {α β γ δ : Type} {source : Source} {depth : Nat} {state : Assembly}
  {agrees : α → β → Assembly → Prop}

theorem Run.Orderly.still {answer : Except ParseError β} (ready : state.Ready source depth) :
    Run.Orderly ⟨answer, state, []⟩ source depth state where
  sound _ member := absurd member List.not_mem_nil
  ascending := List.pairwise_singleton _ _
  le_last mid member := by
    obtain rfl := List.mem_singleton.mp member
    exact Nat.le_refl _
  ready := ready

theorem Run.Orderly.step {answer : Except ParseError β} {next : Assembly}
    (ready : next.Ready source depth) (forward : state.position ≤ next.position) :
    Run.Orderly ⟨answer, next, [next]⟩ source depth state where
  sound mid member := by
    obtain rfl := List.mem_singleton.mp member
    exact ready.sound
  ascending := List.pairwise_pair.mpr forward
  le_last := List.forall_mem_cons.mpr
    ⟨forward, List.forall_mem_singleton.mpr (Nat.le_refl _)⟩
  ready := ready

theorem Run.Orderly.start_le {run : Run β} (orderly : run.Orderly source depth state) :
    state.position ≤ run.last.position :=
  orderly.le_last state List.mem_cons_self

theorem Run.Orderly.append {first : Run β} {second : Run δ} {within : Nat}
    (before : first.Orderly source within state) (after : second.Orderly source depth first.last) :
    Run.Orderly ⟨second.answer, second.last, first.passed ++ second.passed⟩ source depth state where
  sound mid member := (List.mem_append.mp member).elim (before.sound mid) (after.sound mid)
  ascending := by
    rw [← List.cons_append, List.pairwise_append]
    refine ⟨before.ascending, after.ascending.of_cons, fun mid passed later member => ?_⟩
    exact Nat.le_trans (before.le_last mid passed)
      ((List.pairwise_cons.mp after.ascending).1 later member)
  le_last mid member := by
    rw [← List.cons_append] at member
    rcases List.mem_append.mp member with passed | later
    · exact Nat.le_trans (before.le_last mid passed) after.start_le
    · exact after.le_last mid (List.mem_cons_of_mem _ later)
  ready := after.ready

/-! ## Rules -/

namespace Follows

theorem pure {a : α} {b : β} (same : agrees a b state) :
    Follows source depth state ((Pure.pure b : Assembler β).run source state) (.ok a) agrees :=
  fun ready => ⟨.still ready, same⟩

theorem fail (e : ParseError) :
    Follows source depth state ((Assembler.fail e : Assembler β).run source state) (.error e) agrees :=
  fun ready => ⟨.still ready, rfl⟩

theorem bind {part : Assembler β} {result : Except ParseError α} {next : β → Assembler δ}
    {next' : α → Except ParseError γ} {agrees' : γ → δ → Assembly → Prop}
    (first : Follows source depth state (part.run source state) result agrees)
    (second : ∀ a b mid, result = .ok a → agrees a b mid →
      Follows source depth mid ((next b).run source mid) (next' a) agrees') :
    Follows source depth state ((part >>= next).run source state) (result >>= next') agrees' := by
  intro ready
  obtain ⟨orderly, answers⟩ := first ready
  cases result with
  | error e =>
    rw [Assembler.bind_of_error answers.eq_error]
    exact ⟨⟨orderly.sound, orderly.ascending, orderly.le_last, orderly.ready⟩, rfl⟩
  | ok a =>
    obtain ⟨b, answer, same⟩ := answers.exists_ok
    rw [Assembler.bind_of_ok answer]
    obtain ⟨rest, answers⟩ := second a b _ rfl same orderly.ready
    exact ⟨orderly.append rest, answers⟩

/-- Where the reader only looks at the tokens, it goes on from what it has seen. -/
theorem after {part : Assembler β} {seen : α} {next : β → Assembler δ} {result : Except ParseError γ}
    {agrees' : γ → δ → Assembly → Prop}
    (first : Follows source depth state (part.run source state) (.ok seen) agrees)
    (second : ∀ b mid, agrees seen b mid →
      Follows source depth mid ((next b).run source mid) result agrees') :
    Follows source depth state ((part >>= next).run source state) result agrees' := by
  change Follows _ _ _ _ (.ok seen >>= fun _ => result) _
  refine bind first fun a b mid found same => ?_
  cases found
  exact second b mid same

/-- The reader may return something that it makes from the result. -/
theorem map {run : Run β} {result : Except ParseError α} {make : α → γ}
    {agrees' : γ → β → Assembly → Prop} (first : Follows source depth state run result agrees)
    (same : ∀ a b, agrees a b run.last → agrees' (make a) b run.last) :
    Follows source depth state run (result >>= fun a => .ok (make a)) agrees' := by
  intro ready
  obtain ⟨orderly, answers⟩ := first ready
  refine ⟨orderly, ?_⟩
  cases result with
  | error e =>
    rw [answers.eq_error]
    rfl
  | ok a =>
    obtain ⟨b, answer, found⟩ := answers.exists_ok
    rw [answer]
    exact same a b found

end Follows

/-- So far a run has pushed just the nodes of consecutive expressions, and these tokens are left. -/
structure Reached (source : Source) (before : List Node) (trees : List Tree) (ts : List Token)
    (ids : List Nat) (state : Assembly) : Prop where
  /-- The tokens that have not been read. -/
  here : source.ahead state = ts
  /-- The nodes. -/
  held : Holds before state.builder.nodes trees ids

/-- A part of the machine does what a reader of the grammar does: it pushes the nodes of the
expression that the reader reads and no others, or fails as the reader fails. -/
def Assembles (source : Source) (depth : Nat) (part : Assembler Nat) (reader : Grammar.Reader) :
    Prop :=
  ∀ state ts, source.ahead state = ts →
    Follows source depth state (part.run source state) (reader ts) fun parsed id =>
      Reached source state.builder.nodes.toList [parsed.tree] parsed.rest [id]

namespace Reached

variable {before : List Node} {trees more : List Tree} {ids others : List Nat}
  {ts rest : List Token} {token : Token} {last : Assembly}

theorem start (here : source.ahead state = ts) :
    Reached source state.builder.nodes.toList [] ts [] state :=
  ⟨here, .nil _⟩

theorem append (reached : Reached source before trees ts ids state)
    (later : Reached source state.builder.nodes.toList more rest others last) :
    Reached source before (trees ++ more) rest (ids ++ others) last :=
  ⟨later.here, reached.held.append later.held⟩

theorem moved (reached : Reached source before trees (token :: rest) ids state) :
    Reached source before trees rest ids state.moved := by
  refine ⟨?_, reached.held⟩
  change source.tokens.drop (state.position + 1) = rest
  rw [← List.drop_drop]
  exact congrArg (List.drop 1) reached.here

end Reached

namespace Follows

variable {result : Except ParseError α} {before : List Node} {trees : List Tree} {ids : List Nat}
  {ts rest : List Token} {token : Token} {mark : Mark}

/-! ### Tokens -/

theorem ahead (reached : Reached source before trees ts ids state) {next : List Token → Assembler β}
    (seen : Follows source depth state ((next ts).run source state) result agrees) :
    Follows source depth state ((Assembler.ahead >>= next).run source state) result agrees := by
  obtain ⟨rfl, held⟩ := reached
  exact seen

theorem move (reached : Reached source before trees (token :: rest) ids state)
    {next : Unit → Assembler β}
    (moved : Reached source before trees rest ids state.moved →
      Follows source depth state.moved ((next ()).run source state.moved) result agrees) :
    Follows source depth state ((Assembler.move >>= next).run source state) result agrees := by
  have step : Follows source depth state (Assembler.move.run source state) (.ok ())
      fun _ _ mid => mid = state.moved :=
    fun ready => ⟨.step ⟨ready.sound.moved reached.here, ready.nesting_eq⟩ (Nat.le_succ _), rfl⟩
  refine step.after fun _ mid same => ?_
  subst same
  exact moved reached.moved

theorem eat (reached : Reached source before trees ts ids state) {next : Option Token → Assembler β}
    (absent : Grammar.take? mark ts = none →
      Follows source depth state ((next none).run source state) result agrees)
    (present : ∀ taken, Grammar.take? mark ts = some taken →
      Reached source before trees taken.rest ids state.moved →
      Follows source depth state.moved ((next (some taken.token)).run source state.moved) result
        agrees) :
    Follows source depth state ((Assembler.eat mark >>= next).run source state) result agrees := by
  rw [Assembler.eat, bind_assoc]
  refine ahead reached ?_
  cases found : Grammar.take? mark ts with
  | none => exact absent found
  | some taken =>
    rw [bind_assoc]
    rw [(Grammar.take?_eq_some found).1] at reached
    exact move reached (present taken found)

theorem expect (reached : Reached source before trees ts ids state) {next : Token → Assembler β}
    {next' : Grammar.Taken ts → Except ParseError α}
    (present : ∀ taken, Reached source before trees taken.rest ids state.moved →
      Follows source depth state.moved ((next taken.token).run source state.moved) (next' taken)
        agrees) :
    Follows source depth state ((Assembler.expect mark >>= next).run source state)
      (Grammar.expect mark ts >>= next') agrees := by
  rw [Assembler.expect, bind_assoc, Grammar.expect]
  refine ahead reached ?_
  cases found : Grammar.take? mark ts with
  | none =>
    rw [bind_assoc]
    exact ahead reached (fail _)
  | some taken =>
    rw [bind_assoc]
    rw [(Grammar.take?_eq_some found).1] at reached
    exact move reached (present taken)

/-- A mark that is known to come next is passed. -/
theorem pass (reached : Reached source before trees (token :: rest) ids state)
    (isMark : Grammar.IsMark mark token) {next : Token → Assembler β}
    (passed : Reached source before trees rest ids state.moved →
      Follows source depth state.moved ((next token).run source state.moved) result agrees) :
    Follows source depth state ((Assembler.expect mark >>= next).run source state) result agrees := by
  rw [Assembler.expect, bind_assoc]
  refine ahead reached ?_
  rw [Grammar.take?_cons isMark]
  dsimp only
  rw [bind_assoc]
  exact move reached passed

theorem operator {kind? : Mark → Option Kind} (reached : Reached source before trees ts ids state)
    {next : Option (Kind × Token) → Assembler β}
    (absent : Grammar.operator? kind? ts = none →
      Follows source depth state ((next none).run source state) result agrees)
    (present : ∀ kind taken, Grammar.operator? kind? ts = some (kind, taken) →
      Reached source before trees taken.rest ids state.moved →
      Follows source depth state.moved ((next (some (kind, taken.token))).run source state.moved)
        result agrees) :
    Follows source depth state ((Assembler.operator kind? >>= next).run source state) result
      agrees := by
  rw [Assembler.operator, bind_assoc]
  refine ahead reached ?_
  cases found : Grammar.operator? kind? ts with
  | none => exact absent found
  | some pair =>
    obtain ⟨kind, taken⟩ := pair
    rw [(Grammar.operator?_eq_some found).1] at reached
    dsimp only
    rw [bind_assoc]
    exact move reached (present kind taken found)

theorem propertyName (reached : Reached source before trees ts ids state)
    {next : Token → Assembler β} {next' : Grammar.Taken ts → Except ParseError α}
    (present : ∀ taken, Reached source before trees taken.rest ids state.moved →
      Follows source depth state.moved ((next taken.token).run source state.moved) (next' taken)
        agrees) :
    Follows source depth state ((Assembler.propertyName >>= next).run source state)
      (Grammar.propertyName ts >>= next') agrees := by
  rw [Assembler.propertyName, bind_assoc]
  refine ahead reached ?_
  cases found : Grammar.propertyName ts with
  | error e => exact fail e
  | ok taken =>
    dsimp only
    rw [bind_assoc]
    rw [(Grammar.propertyName_eq_ok found).1] at reached
    exact move reached (present taken)

/-! ### Nodes -/

theorem read {part : Assembler Nat} {reader : Grammar.Reader}
    (assembles : Assembles source depth part reader)
    (reached : Reached source before trees ts ids state) {next : Nat → Assembler β}
    {next' : Grammar.Parsed ts → Except ParseError α}
    (seen : ∀ parsed id mid, reader ts = .ok parsed →
      Reached source before (trees ++ [parsed.tree]) parsed.rest (ids ++ [id]) mid →
      Follows source depth mid ((next id).run source mid) (next' parsed) agrees) :
    Follows source depth state ((part >>= next).run source state) (reader ts >>= next') agrees :=
  bind (assembles state ts reached.here) fun parsed id mid found later =>
    seen parsed id mid found (reached.append later)

theorem spanOf {id : Nat} {t : Tree} (stands : state.builder.Stands id t)
    {next : Span → Assembler β}
    (seen : Follows source depth state ((next t.span).run source state) result agrees) :
    Follows source depth state ((Assembler.spanOf id >>= next).run source state) result agrees := by
  obtain ⟨node, found, same⟩ := stands.node_eq
  have look : Follows source depth state ((Assembler.spanOf id).run source state) (.ok t.span)
      fun span span' mid => span' = span ∧ mid = state := by
    intro ready
    unfold Assembler.spanOf
    dsimp only
    rw [found]
    exact ⟨.still ready, same, rfl⟩
  refine look.after fun span mid ⟨same, here⟩ => ?_
  subst same here
  exact seen

theorem push (reached : Reached source before trees ts ids state) (kind : Kind)
    (image : Option String) (span : Span) :
    Follows source depth state ((Assembler.push ⟨kind, image, span, ids⟩).run source state)
      (Grammar.grow kind image span trees) fun t id => Reached source before [t] ts [id] := by
  intro ready
  have height := ready.sound.heightOver_eq reached.held.stands kind image span
  simp only [Assembler.push, Grammar.grow, height]
  split
  · next high =>
    rw [if_neg (by omega)]
    exact ⟨.still ready, rfl⟩
  · next low =>
    rw [if_pos (by omega)]
    have held := reached.held.push kind image span
    have below : ∀ child ∈ (Node.mk kind image span ids).children,
        child < state.builder.nodes.size := reached.held.lt_size
    obtain ⟨builder, pushed, nodes⟩ := TreeBuilder.push_eq_ok below
    rw [pushed]
    rw [← nodes] at held
    have stands := (List.forall₂_cons.mp held.stands).1
    exact ⟨.step ⟨ready.sound.push nodes stands rfl (by omega), ready.nesting_eq⟩ (Nat.le_refl _),
      reached.here, held⟩

theorem leaf (here : source.ahead state = ts) {kind : Kind} {token : Token} {a : α}
    {agrees : α → Nat → Assembly → Prop}
    (same : ∀ id last, Reached source state.builder.nodes.toList [Grammar.leaf kind token] ts [id]
      last → agrees a id last) :
    Follows source depth state ((Assembler.leaf kind token).run source state) (.ok a) agrees := by
  have grown : Grammar.grow kind (some token.text) token.span [] = .ok (Grammar.leaf kind token) :=
    Grammar.grow_eq_ok_iff.mpr ⟨rfl, Grammar.height_leaf_le kind token⟩
  intro ready
  have pushed := push (.start here) kind (some token.text) token.span ready
  rw [grown] at pushed
  exact pushed.imp_right fun answers => answers.of_ok fun id => same id _

theorem leaf_bind (reached : Reached source before trees ts ids state) {kind : Kind} {token : Token}
    {next : Nat → Assembler β}
    (seen : ∀ id mid, Reached source before (trees ++ [Grammar.leaf kind token]) ts (ids ++ [id])
      mid → Follows source depth mid ((next id).run source mid) result agrees) :
    Follows source depth state ((Assembler.leaf kind token >>= next).run source state) result
      agrees := by
  have pushed : Follows source depth state ((Assembler.leaf kind token).run source state) (.ok ())
      fun _ id => Reached source state.builder.nodes.toList [Grammar.leaf kind token] ts [id] :=
    leaf reached.here fun _ _ pushed => pushed
  exact pushed.after fun id mid later => seen id mid (reached.append later)

theorem spansOf (stands : List.Forall₂ state.builder.Stands ids trees)
    {next : List Span → Assembler β}
    (seen : Follows source depth state ((next (trees.map Tree.span)).run source state) result
      agrees) :
    Follows source depth state ((Assembler.spansOf ids >>= next).run source state) result agrees := by
  induction stands generalizing next with
  | nil => exact seen
  | cons first _ ih =>
    rw [Assembler.spansOf, bind_assoc]
    refine spanOf first ?_
    rw [bind_assoc]
    exact ih seen

theorem branch (reached : Reached source before trees ts ids state) (kind : Kind) :
    Follows source depth state ((Assembler.branch kind ids).run source state)
      (Grammar.branch kind trees) fun t id => Reached source before [t] ts [id] :=
  spansOf reached.held.stands (push reached kind none _)

end Follows

/-! ### Nesting -/

/-- Past the limit of nesting, both stop at the next token. -/
theorem assembles_descend_stop {part : Assembler Nat} (deep : Grammar.maxDepth ≤ depth) :
    Assembles source depth (.descend part)
      fun ts => .error (.tooDeep (Grammar.position source.textEnd ts)) := by
  intro state ts here ready
  unfold Assembler.descend
  dsimp only
  rw [if_pos (by rwa [ready.nesting_eq]), here]
  exact ⟨.still ready, rfl⟩

theorem assembles_descend {part : Assembler Nat} {reader : Grammar.Reader}
    (shallow : depth < Grammar.maxDepth) (inside : Assembles source (depth + 1) part reader) :
    Assembles source depth (.descend part) reader := by
  intro state ts here ready
  have deeper : state.deeper.Ready source (depth + 1) :=
    ⟨ready.sound.deeper (by rwa [ready.nesting_eq]), congrArg (· + 1) ready.nesting_eq⟩
  obtain ⟨orderly, answers⟩ := inside state.deeper ts here deeper
  unfold Assembler.descend
  dsimp only
  rw [if_neg (by rw [ready.nesting_eq]; omega)]
  have shallower : (part.run source state.deeper).last.shallower.Ready source depth :=
    ⟨orderly.ready.sound.shallower, congrArg (· - 1) orderly.ready.nesting_eq⟩
  have inward : Run.Orderly ⟨.ok (), state.deeper, [state.deeper]⟩ source (depth + 1) state :=
    .step deeper (Nat.le_refl _)
  have outward : Run.Orderly ⟨(part.run source state.deeper).answer, _, [_]⟩ source depth
      (part.run source state.deeper).last := .step shallower (Nat.le_refl _)
  exact ⟨inward.append (orderly.append outward),
    answers.imp fun _ _ reached => ⟨reached.here, reached.held⟩⟩

end Following

end TargetingRules

import TargetingRules.Proofs.Syntax.Reads

/-!
# What is derivable is read

Where no token after an expression goes on with it, the reader of its level reads exactly that
expression. A left recursive derivation tells what is read before the last operator; that the loop
of its level goes on from there is carried along as what the reader `Resumes` to.
-/

namespace TargetingRules.Grammar

/-! ## Heights -/

theorem height_le_heightAll {t : Tree} {trees : List Tree} (member : t ∈ trees) :
    t.height ≤ Tree.heightAll trees := by
  induction trees with
  | nil => cases member
  | cons first others ih =>
    simp only [Tree.heightAll]
    rcases List.mem_cons.mp member with rfl | member
    · exact Nat.le_max_left _ _
    · exact Nat.le_trans (ih member) (Nat.le_max_right _ _)

theorem low_of_mem {kind : Kind} {image : Option String} {span : Span} {children : List Tree}
    {t : Tree} (low : (Tree.node kind image span children).height ≤ maxDepth)
    (member : t ∈ children) : t.height ≤ maxDepth := by
  simp only [Tree.height] at low
  have below := height_le_heightAll member
  omega

/-! ## Resuming -/

/-- What the reader of a level goes on to, once it has read an expression of the level. -/
inductive Resumes (inner : Entry → Reader) :
    Level → Tree → List Token → Tree → List Token → Prop where
  | done {ℓ t rest} (ends : Ends ℓ rest) : Resumes inner ℓ t rest t rest
  | chain {ℓ t rest t' rest'} (left : ℓ.leftOperators ≠ []) (ends : Ends ℓ.tighter rest)
      (goesOn : GoesOn (leftChainFrom ℓ.left? (ℓ.tighter.reader inner)) t rest t' rest') :
      Resumes inner ℓ t rest t' rest'
  | access {t rest t' rest'} (ends : Ends .primary rest)
      (goesOn : GoesOn (accessFrom inner) t rest t' rest') : Resumes inner .access t rest t' rest'

section Resuming

variable {inner : Entry → Reader} {ℓ : Level} {t t' : Tree} {ts rest rest' : List Token}

theorem Ends.left? (ends : Ends ℓ rest) : operator? ℓ.left? rest = none := by
  refine operator?_eq_none fun token member mark isMark => ?_
  cases known : ℓ.left? mark with
  | none => rfl
  | some kind =>
    have goesOn := continues?_of_mem_leftOperators (Level.left?_eq_some_iff.mp known)
    exact absurd (ends token member mark isMark ℓ goesOn) (Nat.lt_irrefl _)

theorem Resumes.stops (resumes : Resumes inner ℓ t rest t' rest') (flat : ℓ.leftOperators = [])
    (noAccess : ℓ ≠ .access) : Ends ℓ rest ∧ t = t' ∧ rest = rest' := by
  cases resumes with
  | done ends => exact ⟨ends, rfl, rfl⟩
  | chain left ends goesOn => exact absurd flat left
  | access ends goesOn => exact absurd rfl noAccess

theorem Resumes.leftChain (resumes : Resumes inner ℓ t rest t' rest') (left : ℓ.leftOperators ≠ []) :
    Ends ℓ.tighter rest ∧
      GoesOn (leftChainFrom ℓ.left? (ℓ.tighter.reader inner)) t rest t' rest' := by
  cases resumes with
  | done ends => exact ⟨ends.mono ℓ.rank_le_tighter, .leftChain_done ends.left?⟩
  | chain left ends goesOn => exact ⟨ends, goesOn⟩
  | access ends goesOn => exact absurd rfl left

theorem Resumes.accesses (resumes : Resumes inner .access t rest t' rest') :
    Ends .primary rest ∧ GoesOn (accessFrom inner) t rest t' rest' := by
  cases resumes with
  | done ends => exact ⟨ends.mono (by decide), .access_done ends⟩
  | chain left ends goesOn => exact absurd rfl left
  | access ends goesOn => exact ⟨ends, goesOn⟩

theorem leftOperators_of_mem_flatOperators {mark : Mark} {kind : Kind}
    (listed : (mark, kind) ∈ ℓ.flatOperators) : ℓ.leftOperators = [] := by
  cases ℓ <;> first | rfl | cases listed

theorem reader_eq_leftChain (left : ℓ.leftOperators ≠ []) :
    ℓ.reader inner = Grammar.leftChain ℓ.left? (ℓ.tighter.reader inner) := by
  cases ℓ <;> first | rfl | exact absurd rfl left

theorem reader_eq_flatChain {mark : Mark} {kind : Kind} (listed : (mark, kind) ∈ ℓ.flatOperators) :
    ℓ.reader inner = Grammar.flatChain kind mark (ℓ.tighter.reader inner) := by
  cases ℓ <;> simp only [Level.flatOperators, List.mem_cons, Prod.mk.injEq, List.not_mem_nil,
    or_false] at listed <;> obtain ⟨rfl, rfl⟩ := listed <;> rfl

/-- The reader of a level starts with the one of the next tighter level. -/
theorem reads_tighter {n : Nat} (derived : Derives n ℓ.tighter ts t rest)
    (below : Ends ℓ.tighter rest → Reads (ℓ.tighter.reader inner) ts t rest)
    (resumes : Resumes inner ℓ t rest t' rest') : Reads (ℓ.reader inner) ts t' rest' := by
  cases resumes with
  | chain left ends goesOn =>
    rw [reader_eq_leftChain left]
    exact reads_leftChain (below ends) goesOn
  | access ends goesOn => exact reads_access (below ends) goesOn
  | done ends =>
    have read := below (ends.mono ℓ.rank_le_tighter)
    cases ℓ with
    | assignment => exact reads_assignment_one read (ends.take? .assign (by decide))
    | lambda => exact reads_lambda_one read (lambdaHead?_eq_none (derived.not_parameters ends))
    | ternary => exact reads_ternary_one read (ends.take? .question (by decide))
    | disjunction => exact reads_flatChain_one (.one read (ends.take? .or (by decide)))
    | conjunction => exact reads_flatChain_one (.one read (ends.take? .and (by decide)))
    | equality => exact reads_leftChain read (.leftChain_done ends.left?)
    | relation => exact reads_leftChain read (.leftChain_done ends.left?)
    | concatenation => exact reads_leftChain read (.leftChain_done ends.left?)
    | sum => exact reads_leftChain read (.leftChain_done ends.left?)
    | product => exact reads_leftChain read (.leftChain_done ends.left?)
    | unary =>
      obtain ⟨token, others, rfl, first⟩ := derived.opens
      refine reads_unary read (operator?_eq_none fun token' member mark isMark => ?_)
      cases member
      have opener := first mark isMark
      simp only [Level.tighter, openers, List.mem_cons, List.not_mem_nil, or_false] at opener
      rcases opener with rfl | rfl <;> rfl
    | access => exact reads_access read (.access_done ends)
    | primary => exact read

end Resuming

/-! ## Completeness -/

mutual

theorem Derives.pos {n : Nat} {ℓ : Level} {ts : List Token} {t : Tree} {rest : List Token} :
    Derives n ℓ ts t rest → 0 < n
  | .tighter inner => inner.pos
  | .assign .. => Nat.succ_pos _
  | .lambda .. => Nat.succ_pos _
  | .ternary .. => Nat.succ_pos _
  | .flat _ operands _ => operands.pos
  | .binary _ first _ _ => first.pos
  | .prefixed .. => Nat.succ_pos _
  | .property inner _ _ => inner.pos
  | .method .. => Nat.succ_pos _
  | .index .. => Nat.succ_pos _
  | .literal _ => Nat.succ_pos _
  | .identifier .. => Nat.succ_pos _
  | .call .. => Nat.succ_pos _
  | .qualifiedCall .. => Nat.succ_pos _
  | .parentheses .. => Nat.succ_pos _
  | .list .. => Nat.succ_pos _

theorem Series.pos {n : Nat} {ℓ : Level} {mark : Mark} {ts : List Token} {trees : List Tree}
    {rest : List Token} : Series n ℓ mark ts trees rest → 0 < n
  | .one last => last.pos
  | .more first _ _ => first.pos

end

theorem reads_nested (textEnd : Nat) (entry : Entry) {n : Nat} {ts : List Token} {t : Tree}
    {rest : List Token} (pos : 0 < n)
    (read : ∀ {m}, n = m + 1 → Reads (entry.level.reader (nested textEnd m)) ts t rest) :
    Reads (nested textEnd n entry) ts t rest := by
  obtain ⟨m, rfl⟩ := Nat.exists_eq_add_one.mpr pos
  rw [nested_succ]
  exact read rfl

theorem endsBefore_tighter {ℓ : Level} {mark : Mark} (goesOn : continues? mark = some ℓ)
    (notPrimary : ℓ ≠ .primary) : EndsBefore ℓ.tighter mark := by
  intro level member
  rw [goesOn] at member
  cases member
  cases ℓ <;> first | decide | exact absurd rfl notPrimary

/-- The marks that close lists. -/
def IsClosing (mark : Mark) : Prop :=
  mark = .closeParen ∨ mark = .closeBracket

theorem IsClosing.ends {mark : Mark} (closing : IsClosing mark) {close : Token}
    (isClose : IsMark mark close) (ℓ : Level) (rest : List Token) : Ends ℓ (close :: rest) := by
  refine ends_cons isClose ?_ rest
  rcases closing with rfl | rfl <;> intro level member <;> cases member

theorem IsClosing.ne_comma {mark : Mark} (closing : IsClosing mark) : mark ≠ .comma := by
  rcases closing with rfl | rfl <;> decide

theorem IsClosing.not_opener {mark : Mark} (closing : IsClosing mark) (ℓ : Level) :
    mark ∉ openers ℓ := by
  rcases closing with rfl | rfl <;> cases ℓ <;> decide

theorem take?_of_opens {ℓ : Level} {ts : List Token} (opens : Opens ℓ ts) {mark : Mark}
    (notOpener : mark ∉ openers ℓ) : take? mark ts = none := by
  obtain ⟨token, rest, rfl, first⟩ := opens
  refine take?_eq_none fun token' member isMark => ?_
  cases member
  exact notOpener (first mark isMark)

mutual

/-- What the grammar derives is read, if it is not too high. -/
theorem Derives.reads (textEnd : Nat) {n : Nat} {ℓ : Level} {ts : List Token} {t : Tree}
    {rest : List Token} :
    Derives n ℓ ts t rest → t.height ≤ maxDepth → ∀ {m : Nat} {t' : Tree} {rest' : List Token},
      n = m + 1 → Resumes (nested textEnd m) ℓ t rest t' rest' →
        Reads (ℓ.reader (nested textEnd m)) ts t' rest'
  | .tighter inner, low, _, _, _, same, resumes =>
    reads_tighter inner (fun ends => inner.reads textEnd low same (.done ends)) resumes
  | .assign first isOp second, low, m, _, _, same, resumes => by
    obtain ⟨ends, rfl, rfl⟩ := resumes.stops rfl (by decide)
    obtain rfl := Nat.succ.inj same
    have left := first.reads textEnd (low_of_mem low (by simp)) rfl
      (.done (ends_cons isOp (by decide) _))
    have right := reads_nested textEnd .assignment second.pos fun same =>
      second.reads textEnd (low_of_mem low (by simp)) same (.done ends)
    exact reads_assign left isOp right low
  | .lambda head inner, low, _, _, _, same, resumes => by
    obtain ⟨ends, rfl, rfl⟩ := resumes.stops rfl (by decide)
    obtain rfl := Nat.succ.inj same
    have body := reads_nested textEnd .lambda inner.pos fun same =>
      inner.reads textEnd (low_of_mem low (by simp)) same (.done ends)
    exact reads_lambda head body low
  | .ternary first isQuestion second isColon third, low, _, _, _, same, resumes => by
    obtain ⟨ends, rfl, rfl⟩ := resumes.stops rfl (by decide)
    obtain rfl := Nat.succ.inj same
    have condition := first.reads textEnd (low_of_mem low (by simp)) rfl
      (.done (ends_cons isQuestion (by decide) _))
    have whenTrue := reads_nested textEnd .ternary second.pos fun same =>
      second.reads textEnd (low_of_mem low (by simp)) same (.done (ends_cons isColon (by decide) _))
    have whenFalse := reads_nested textEnd .ternary third.pos fun same =>
      third.reads textEnd (low_of_mem low (by simp)) same (.done ends)
    exact reads_ternary condition isQuestion whenTrue isColon whenFalse low
  | .flat listed operands several, low, _, _, _, same, resumes => by
    have goesOn := continues?_of_mem_flatOperators listed
    obtain ⟨ends, rfl, rfl⟩ := resumes.stops (leftOperators_of_mem_flatOperators listed)
      (by rintro rfl; cases listed)
    rw [reader_eq_flatChain listed]
    refine reads_flatChain ?_ several low
    refine operands.reads textEnd (fun t member => low_of_mem low member) ?_
      (ends.mono (Level.rank_le_tighter _)) (ends.take? _ ?_) same
    · exact endsBefore_tighter goesOn (by rintro rfl; cases listed)
    · exact fun before => before.ne_of_continues goesOn rfl
  | .binary listed first isOp second, low, _, _, _, same, resumes => by
    have left := List.ne_nil_of_mem listed
    have goesOn := continues?_of_mem_leftOperators listed
    obtain ⟨ends, loop⟩ := resumes.leftChain left
    have right := second.reads textEnd (low_of_mem low (by simp)) same (.done ends)
    have step := GoesOn.leftChain_step isOp (Level.left?_eq_some_iff.mpr listed) right low loop
    refine first.reads textEnd (low_of_mem low (by simp)) same (.chain left ?_ step)
    exact ends_cons isOp (endsBefore_tighter goesOn (by rintro rfl; exact left rfl)) _
  | .prefixed listed isOp inner, low, _, _, _, same, resumes => by
    obtain ⟨ends, rfl, rfl⟩ := resumes.stops rfl (by decide)
    obtain rfl := Nat.succ.inj same
    have operand := reads_nested textEnd .unary inner.pos fun same =>
      inner.reads textEnd (low_of_mem low (by simp)) same (.done ends)
    exact reads_prefixed (unary?_eq_some_iff.mpr listed) isOp operand low
  | .property inner isDot isName, low, _, _, _, same, resumes => by
    obtain ⟨ends, loop⟩ := resumes.accesses
    refine inner.reads textEnd (low_of_mem low (by simp)) same (.access ?_ ?_)
    · exact ends_cons isDot (by decide) _
    · exact .property isDot isName ends low loop
  | .method inner isDot isName isOpen list, low, _, _, _, same, resumes => by
    obtain ⟨ends, loop⟩ := resumes.accesses
    obtain rfl := Nat.succ.inj same
    have lowArguments := low_of_mem low (.tail _ (.tail _ (.head _)))
    have arguments := list.reads textEnd (fun t member => low_of_mem lowArguments member) (.inl rfl)
    refine inner.reads textEnd (low_of_mem low (by simp)) rfl (.access ?_ ?_)
    · exact ends_cons isDot (by decide) _
    · exact .method rfl isDot isName isOpen arguments low lowArguments loop
  | .index inner isOpen nested isClose, low, _, _, _, same, resumes => by
    obtain ⟨ends, loop⟩ := resumes.accesses
    obtain rfl := Nat.succ.inj same
    have index := reads_nested textEnd .assignment nested.pos fun same =>
      nested.reads textEnd (low_of_mem low (by simp)) same
        (.done ((IsClosing.ends (.inr rfl) isClose) _ _))
    refine inner.reads textEnd (low_of_mem low (by simp)) rfl (.access ?_ ?_)
    · exact ends_cons isOpen (by decide) _
    · exact .index isOpen index isClose low loop
  | .literal isLiteral, low, _, _, _, same, resumes => by
    obtain ⟨ends, rfl, rfl⟩ := resumes.stops rfl (by decide)
    exact reads_literal isLiteral
  | .identifier isName unqualified, low, _, _, _, same, resumes => by
    obtain ⟨ends, rfl, rfl⟩ := resumes.stops rfl (by decide)
    exact reads_identifier isName (callee?_eq_none unqualified ends)
  | .call isName isOpen list, low, _, _, _, same, resumes => by
    obtain ⟨ends, rfl, rfl⟩ := resumes.stops rfl (by decide)
    obtain rfl := Nat.succ.inj same
    have arguments := list.reads textEnd (fun t member => low_of_mem low member) (.inl rfl)
    exact reads_call isName (callee?_cons isOpen _) arguments low
  | .qualifiedCall isName qualified list, low, _, _, _, same, resumes => by
    obtain ⟨ends, rfl, rfl⟩ := resumes.stops rfl (by decide)
    obtain rfl := Nat.succ.inj same
    obtain ⟨_, called⟩ := callee?_qualified qualified
    have arguments := list.reads textEnd (fun t member => low_of_mem low member) (.inl rfl)
    exact reads_call isName called arguments low
  | .parentheses isOpen inner isClose, low, _, _, _, same, resumes => by
    obtain ⟨ends, rfl, rfl⟩ := resumes.stops rfl (by decide)
    obtain rfl := Nat.succ.inj same
    have inside := reads_nested textEnd .assignment inner.pos fun same =>
      inner.reads textEnd low same (.done (IsClosing.ends (.inl rfl) isClose _ _))
    exact reads_parentheses isOpen inside isClose
  | .list isOpen list, low, _, _, _, same, resumes => by
    obtain ⟨ends, rfl, rfl⟩ := resumes.stops rfl (by decide)
    obtain rfl := Nat.succ.inj same
    have items := list.reads textEnd (fun t member => low_of_mem low member) (.inr rfl)
    exact reads_list isOpen items low

theorem Series.reads (textEnd : Nat) {n : Nat} {ℓ : Level} {mark : Mark} {ts : List Token}
    {trees : List Tree} {rest : List Token} :
    Series n ℓ mark ts trees rest → (∀ t ∈ trees, t.height ≤ maxDepth) → EndsBefore ℓ mark →
      Ends ℓ rest → take? mark rest = none → ∀ {m : Nat}, n = m + 1 →
        ReadsSeveral mark (ℓ.reader (nested textEnd m)) ts trees rest
  | .one last, lows, _, ends, stops, _, same =>
    .one (last.reads textEnd (lows _ (List.mem_singleton_self _)) same (.done ends)) stops
  | .more first isOp others, lows, before, ends, stops, _, same =>
    .more (first.reads textEnd (lows _ List.mem_cons_self) same (.done (ends_cons isOp before _)))
      isOp (others.reads textEnd (fun t member => lows t (List.mem_cons_of_mem _ member)) before
        ends stops same)

theorem Items.reads (textEnd : Nat) {n : Nat} {mark : Mark} {ts : List Token} {trees : List Tree}
    {close : Token} {rest : List Token} :
    Items n mark ts trees close rest → (∀ t ∈ trees, t.height ≤ maxDepth) → IsClosing mark →
      ReadsClosed (nested textEnd n) mark ts trees close rest
  | .none isClose, _, _ => .none isClose
  | .some listed isClose, lows, closing => by
    obtain ⟨m, same⟩ := Nat.exists_eq_add_one.mpr listed.pos
    have ends := closing.ends isClose .assignment
    have items := listed.reads textEnd lows (by decide) (ends _) ?_ same
    · refine .some (take?_of_opens listed.opens (closing.not_opener _)) ?_ isClose
      subst same
      rwa [nested_succ]
    · exact take?_other isClose closing.ne_comma

end

theorem expression_of_derives {textEnd : Nat} {ts : List Token} {t : Tree}
    (derived : Derives maxDepth .assignment ts t []) (low : t.height ≤ maxDepth) :
    expression textEnd ts = .ok t := by
  obtain ⟨_, read⟩ := reads_nested textEnd .assignment derived.pos
    fun same => derived.reads textEnd low same (.done (ends_nil _))
  obtain ⟨token, others, rfl, _⟩ := derived.opens
  simp only [expression, List.isEmpty_cons, Bool.false_eq_true, ↓reduceIte, read, bind, Except.bind]
  rfl

/-- Tokens are read as an expression just if the grammar derives it from all of them, within the
limits on nesting and height. -/
theorem expression_eq_ok_iff {textEnd : Nat} {ts : List Token} {t : Tree} :
    expression textEnd ts = .ok t ↔
      Derives maxDepth .assignment ts t [] ∧ t.height ≤ maxDepth :=
  ⟨derives_of_expression, fun ⟨derived, low⟩ => expression_of_derives derived low⟩

end TargetingRules.Grammar

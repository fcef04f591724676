import SpokenArithmetic.Proofs.Grammar.Located

set_option autoImplicit false

namespace SpokenArithmetic.Grammar

open SpokenArithmetic.Parser

def LocatesDeeper : (levels : Nat) -> Option Deeper -> Prop
  | 0, deeper => deeper = none
  | levels + 1, deeper => exists readers, deeper = some readers ∧
      Locates levels .sum readers.sum ∧ Locates levels .signed readers.signed

variable {levels : Nat} {deeper : Option Deeper} {tokens : List Token} {failure : Parser.Failure}

theorem LocatesDeeper.reads (locates : LocatesDeeper levels deeper) : ReadsDeeper levels deeper := by
  cases levels with
  | zero => exact locates
  | succ levels =>
    obtain ⟨readers, same, sum, signed⟩ := locates
    exact ⟨readers, same, sum.toReads, signed.toReads⟩

theorem LocatesDeeper.enter (locates : LocatesDeeper levels deeper) {readers : Deeper}
    (entered : Parser.enter deeper = .ok readers) :
    exists levels', levels = levels' + 1 ∧ Locates levels' .sum readers.sum ∧
      Locates levels' .signed readers.signed := by
  rw [enter_eq_ok] at entered
  cases levels with
  | zero =>
    obtain rfl : deeper = none := locates
    cases entered
  | succ levels =>
    obtain ⟨readers', same, sum, signed⟩ := locates
    obtain rfl := Option.some.inj (entered.symm.trans same)
    exact ⟨levels, rfl, sum, signed⟩

theorem LocatesDeeper.enter_fails (locates : LocatesDeeper levels deeper)
    (failed : Parser.enter deeper = .error failure) : levels = 0 ∧ failure.fault = .tooDeep := by
  cases levels with
  | zero =>
    obtain rfl : deeper = none := locates
    obtain rfl := Except.error.inj failed
    exact ⟨rfl, rfl⟩
  | succ levels =>
    obtain ⟨readers, rfl, _⟩ := locates
    cases failed

theorem fails_placeonce {form : Form} {fault : SyntaxFault} (position : fault.position? = position? tokens)
    (possible : exists derivation : Derivation (.form form), derivation.Named)
    (other : forall (derivation : Derivation (.form form)) (tail : List Lexeme), derivation.Passes [] tail ->
      tail.head? ≠ (tokens.map Token.lexeme).head?) :
    Fails levels (.form form) tokens fault := by
  obtain ⟨derivation, named⟩ := possible
  exact @Fails.stuck levels (.form form) [] tokens fault position ⟨derivation, named, List.nil_prefix⟩ other

section Call

variable {name : List Char} {position opening : Nat}

theorem passes_call {outer : Derivation (.form .primary)} {tail : List Lexeme}
    (passes : outer.Passes [] (.name name :: tail)) :
    exists (given : Derivation .arguments) (behind : List Lexeme), outer = .call name given ∧
      (callable? name).isSome ∧ given.Named ∧
      tail = .mark .opening :: (given.yield ++ .mark .closing :: behind) := by
  obtain ⟨named, behind, _, same⟩ := passes
  cases outer with
  | call name' given =>
    simp only [Derivation.yield, List.cons_append, List.append_assoc, List.nil_append, List.cons.injEq,
      Lexeme.name.injEq] at same
    obtain ⟨rfl, rfl⟩ := same
    exact ⟨given, behind, rfl, named.1, named.2, rfl⟩
  | numeral | group => simp at same

theorem fails_unknown (unknown : callable? name = none) {fault : SyntaxFault}
    (place : fault.position? = some position) :
    Fails levels (.form .primary) (⟨.name name, position⟩ :: tokens) fault := by
  refine fails_placeonce place ⟨.numeral [], trivial⟩ fun derivation tail passes head => ?_
  obtain ⟨rest, rfl⟩ := List.head?_eq_some_iff.1 head
  obtain ⟨_, _, _, known, _⟩ := passes_call passes
  rw [unknown] at known
  cases known

theorem fails_unopened (known : (callable? name).isSome) {fault : SyntaxFault}
    (place : fault.position? = position? tokens)
    (other : (tokens.map Token.lexeme).head? ≠ some (.mark .opening)) :
    Fails levels (.form .primary) (⟨.name name, position⟩ :: tokens) fault := by
  refine @Fails.stuck _ _ [⟨.name name, position⟩] tokens _ place
    ⟨.call name .noArguments, ⟨known, trivial⟩, by simp⟩ fun outer tail passes head => ?_
  obtain ⟨given, behind, _, _, _, rfl⟩ := passes_call passes.whole
  exact other head.symm

theorem fails_arguments (known : (callable? name).isSome) {fault : SyntaxFault}
    (fails : Fails levels .arguments tokens fault) :
    Fails (levels + 1) (.form .primary)
      (⟨.name name, position⟩ :: ⟨.mark .opening, opening⟩ :: tokens) fault := by
  refine @Fails.within _ _ _ _ [⟨.name name, position⟩, ⟨.mark .opening, opening⟩] _ _ fails
    (fun given givenNamed => ⟨.call name given, ⟨known, givenNamed⟩, by simp⟩) fun outer tail passes _ => ?_
  obtain ⟨given, behind, rfl, _, givenNamed, same⟩ := passes_call passes.whole
  have closes : Nonterminal.arguments.Stops (.mark .closing :: behind) := rfl
  exact ⟨given, ⟨givenNamed, _, closes, (List.cons.inj same).2.symm⟩, fun deep => Nat.succ_lt_succ deep⟩

theorem given_closed {first : Derivation (.form .sum)} {others : Derivation .furtherArguments}
    {given : Derivation .arguments} {lexemes behind : List Lexeme} (ends : EndsArguments lexemes)
    (same : (Derivation.arguments first others).yield ++ lexemes = given.yield ++ .mark .closing :: behind) :
    lexemes = .mark .closing :: behind := by
  have closes := endsArguments_closing behind
  rw [Derivation.yield, List.append_assoc] at same
  cases given with
  | noArguments => exact absurd same.symm (first.yield_form_ne_closing rfl _)
  | arguments first' others' =>
    rw [Derivation.yield, List.append_assoc] at same
    have next := (first.determined first' _ _ (ends.behind others) (closes.behind others') same).2
    exact furtherArguments_end ends closes others others' next

theorem fails_unclosed (known : (callable? name).isSome) {front : List Token}
    {first : Derivation (.form .sum)} {others : Derivation .furtherArguments}
    (named : (Derivation.arguments first others).Named)
    (yield : (Derivation.arguments first others).yield = front.map Token.lexeme)
    (ends : EndsArguments (tokens.map Token.lexeme)) {fault : SyntaxFault}
    (place : fault.position? = position? tokens)
    (other : (tokens.map Token.lexeme).head? ≠ some (.mark .closing)) :
    Fails levels (.form .primary)
      (⟨.name name, position⟩ :: ⟨.mark .opening, opening⟩ :: (front ++ tokens)) fault := by
  refine @Fails.stuck _ _ (⟨.name name, position⟩ :: ⟨.mark .opening, opening⟩ :: front) tokens _ place
    ⟨.call name (.arguments first others), ⟨known, named⟩, by
      rw [Derivation.yield, yield, List.map_cons, List.map_cons]; simp⟩ fun outer tail passes head => ?_
  obtain ⟨given, behind, rfl, _, _, opened⟩ := passes_call passes.whole
  have same : front.map Token.lexeme ++ tail = given.yield ++ .mark .closing :: behind :=
    (List.cons.inj opened).2
  rw [← yield] at same
  rw [given_closed (ends.of_head head) same] at head
  exact other head.symm

theorem call_fails (locates : LocatesDeeper levels deeper)
    (failed : Parser.call deeper name position tokens = .error failure) :
    Fails levels (.form .primary) (⟨.name name, position⟩ :: tokens) failure.fault := by
  unfold Parser.call at failed
  split at failed
  next unknown =>
    split at failed <;> obtain rfl := Except.error.inj failed <;> exact fails_unknown unknown rfl
  next callable named =>
    have known : (callable? name).isSome := by rw [callable?, named]; rfl
    rcases bind_eq_error.1 failed with unopened | ⟨behind, opened, failed₁⟩
    next =>
      obtain ⟨fault, other⟩ := expect_eq_error unopened
      rw [fault]
      exact fails_unopened known rfl other
    obtain ⟨opening, rfl⟩ := expect_eq_ok.1 opened
    rcases bind_eq_error.1 failed₁ with unentered | ⟨readers, entered, failed₂⟩
    next =>
      obtain ⟨rfl, fault⟩ := locates.enter_fails unentered
      rw [fault]
      refine @Fails.deep _ _ [⟨.name name, position⟩, ⟨.mark .opening, opening⟩] behind (by simp)
        ⟨.call name .noArguments, ⟨known, trivial⟩, by simp⟩ fun outer tail passes => ?_
      obtain ⟨given, _, rfl, _⟩ := passes_call passes.whole
      exact Nat.succ_pos _
    obtain ⟨levels, rfl, sum, _⟩ := locates.enter entered
    rcases bind_eq_error.1 failed₂ with argumentsFailed | ⟨⟨operands, behind'⟩, argumentsRead, failed₃⟩
    next => exact fails_arguments known (arguments_fails sum argumentsFailed)
    rcases bind_eq_error.1 failed₃ with unclosed | ⟨behind'', closed, failed₄⟩
    next =>
      obtain ⟨inner, innerFailed, fault⟩ := foldr_following_eq_error unclosed
      obtain ⟨innerFault, other⟩ := expect_eq_error innerFailed
      rw [← fault, innerFault]
      rcases arguments_ends sum argumentsRead with closing | ⟨front, first, others, rfl, givenNamed, yield, ends⟩
      next => exact absurd closing other
      next => exact fails_unclosed known givenNamed yield ends rfl other
    rcases bind_eq_error.1 failed₄ with unmade | ⟨_, _, none⟩
    next =>
      obtain ⟨fault, count⟩ := makeCall_eq_error unmade
      rw [fault]
      exact @Fails.arity _ _ [] _ name callable _ position named count
        ⟨.call name .noArguments, ⟨known, trivial⟩, by simp⟩
    next => cases none

end Call

section Group

variable {position : Nat}

theorem passes_group {outer : Derivation (.form .primary)} {tail : List Lexeme}
    (passes : outer.Passes [] (.mark .opening :: tail)) :
    exists (inner : Derivation (.form .sum)) (behind : List Lexeme), outer = .group inner ∧ inner.Named ∧
      tail = inner.yield ++ .mark .closing :: behind := by
  obtain ⟨named, behind, _, same⟩ := passes
  cases outer with
  | group inner =>
    simp only [Derivation.yield, List.cons_append, List.append_assoc, List.nil_append, List.cons.injEq, true_and]
      at same
    exact ⟨inner, behind, rfl, named, same.symm⟩
  | numeral | call => simp at same

theorem begins_group : Begins (.form .primary) [.mark .opening] :=
  ⟨.group (.chain .sum (.chain .product (.unsigned (.bare (.numeral []))) (.noFurther .product))
    (.noFurther .sum)), by simp, by simp⟩

theorem fails_group {fault : SyntaxFault} (fails : Fails levels (.form .sum) tokens fault) :
    Fails (levels + 1) (.form .primary) (⟨.mark .opening, position⟩ :: tokens) fault := by
  refine @Fails.within _ _ _ _ [⟨.mark .opening, position⟩] _ _ fails
    (fun inner named => ⟨.group inner, named, by simp⟩) fun outer tail passes _ => ?_
  obtain ⟨inner, behind, rfl, named, same⟩ := passes_group passes.whole
  exact ⟨inner, ⟨named, _, Form.stops_mark .sum behind (by simp), same.symm⟩, fun deep => Nat.succ_lt_succ deep⟩

theorem fails_group_unclosed {front : List Token} {inner : Derivation (.form .sum)} (named : inner.Named)
    (yield : inner.yield = front.map Token.lexeme) (stops : Form.sum.Stops (tokens.map Token.lexeme))
    {fault : SyntaxFault} (place : fault.position? = position? tokens)
    (other : (tokens.map Token.lexeme).head? ≠ some (.mark .closing)) :
    Fails levels (.form .primary) (⟨.mark .opening, position⟩ :: (front ++ tokens)) fault := by
  refine @Fails.stuck _ _ (⟨.mark .opening, position⟩ :: front) tokens _ place
    ⟨.group inner, named, by simp [yield]⟩ fun outer tail passes head => ?_
  obtain ⟨inner', behind, rfl, _, same⟩ := passes_group passes.whole
  rw [← yield] at same
  have next := (inner.determined inner' _ _ (stops.of_head head) (Form.stops_mark .sum behind (by simp)) same).2
  rw [next] at head
  exact other head.symm

end Group

theorem primary_starts {outer : Derivation (.form .primary)} {tail : List Lexeme} (passes : outer.Passes [] tail) :
    tail.head? ≠ none ∧ forall mark, tail.head? = some (.mark mark) -> mark = .opening := by
  obtain ⟨_, behind, _, same⟩ := passes
  rw [List.nil_append] at same
  subst same
  cases outer <;> simp [eq_comm]

theorem primary_fails (locates : LocatesDeeper levels deeper)
    (failed : Parser.primary deeper tokens = .error failure) :
    Fails levels (.form .primary) tokens failure.fault := by
  have possible : exists derivation : Derivation (.form .primary), derivation.Named := ⟨.numeral [], trivial⟩
  unfold Parser.primary at failed
  split at failed
  next =>
    obtain rfl := Except.error.inj failed
    exact fails_placeonce rfl possible fun derivation tail passes => (primary_starts passes).1
  next => cases failed
  next text position behind => exact call_fails locates failed
  next position behind =>
    rcases bind_eq_error.1 failed with unentered | ⟨readers, entered, failed₁⟩
    next =>
      obtain ⟨rfl, fault⟩ := locates.enter_fails unentered
      rw [fault]
      refine @Fails.deep _ _ [⟨.mark .opening, position⟩] behind (by simp) begins_group
        fun outer tail passes => ?_
      obtain ⟨inner, _, rfl, _⟩ := passes_group passes.whole
      exact Nat.succ_pos _
    obtain ⟨levels, rfl, sum, _⟩ := locates.enter entered
    rcases bind_eq_error.1 failed₁ with innerFailed | ⟨⟨tree, rest⟩, innerRead, failed₂⟩
    next => exact fails_group (sum.fails innerFailed)
    rcases bind_eq_error.1 failed₂ with unclosed | ⟨_, _, none⟩
    next =>
      obtain ⟨inner, expected, fault⟩ := following_eq_error unclosed
      obtain ⟨innerFault, other⟩ := expect_eq_error expected
      have stops := sum.stops innerRead
      obtain ⟨front, first, rfl, derives⟩ := sum.sound innerRead
      rw [← fault, innerFault]
      exact fails_group_unclosed derives.named derives.yield stops rfl other
    next => cases none
  next mark position behind other =>
    have dead (derivation : Derivation (.form .primary)) (tail : List Lexeme) (passes : derivation.Passes [] tail) :
        tail.head? ≠ some (.mark mark) := fun head => other ((primary_starts passes).2 mark head)
    split at failed <;> obtain rfl := Except.error.inj failed <;> exact fails_placeonce rfl possible dead

theorem primary_locates (locates : LocatesDeeper levels deeper) :
    Locates levels .primary (Parser.primary deeper) where
  toReads := primary_reads locates.reads
  stops _ := Form.stops_primary _
  fails := primary_fails locates

section Power

variable {position : Nat} {front : List Token} {base : Derivation (.form .primary)}

theorem passes_raised (yield : base.yield = front.map Token.lexeme) {outer : Derivation (.form .power)}
    {tail : List Lexeme}
    (passes : outer.Passes ((front ++ [(⟨.mark (.operator .power), position⟩ : Token)]).map Token.lexeme) tail) :
    exists exponent : Derivation (.form .signed), outer = .raised base exponent ∧
      exponent.Passes [] tail := by
  obtain ⟨named, behind, stops, same⟩ := passes
  rw [List.map_append, ← yield, List.append_assoc] at same
  cases outer with
  | bare base' =>
    have next := (base'.determined base _ _ (Form.stops_primary _) (Form.stops_primary _) same).2
    rw [next] at stops
    exact absurd stops (Form.not_stops (by simp [Form.continuing]))
  | raised base' exponent =>
    rw [Derivation.yield, List.append_assoc] at same
    obtain ⟨rfl, next⟩ := base'.determined base _ _ (Form.stops_primary _) (Form.stops_primary _) same
    exact ⟨exponent, rfl, named.2, behind, stops, (List.cons.inj next).2⟩

theorem begins_raised (named : base.Named) (yield : base.yield = front.map Token.lexeme) :
    Begins (.form .power) ((front ++ [(⟨.mark (.operator .power), position⟩ : Token)]).map Token.lexeme) :=
  ⟨.raised base (.unsigned (.bare (.numeral []))), ⟨named, trivial⟩, by simp [yield]⟩

theorem fails_base {fault : SyntaxFault} (fails : Fails levels (.form .primary) tokens fault) :
    Fails levels (.form .power) tokens fault := by
  refine @Fails.within _ _ _ _ [] _ _ fails (fun inner named => ⟨.bare inner, named, by simp⟩)
    fun outer tail ⟨named, behind, stops, same⟩ _ => ?_
  cases outer with
  | bare base => exact ⟨base, ⟨named, behind, Form.stops_primary _, same⟩, id⟩
  | raised base exponent =>
    rw [Derivation.yield, List.append_assoc] at same
    exact ⟨base, ⟨named.1, _, Form.stops_primary _, same⟩,
      fun deep => Nat.lt_of_lt_of_le deep (Nat.le_max_left _ _)⟩

theorem fails_exponent (named : base.Named) (yield : base.yield = front.map Token.lexeme) {fault : SyntaxFault}
    (fails : Fails levels (.form .signed) tokens fault) :
    Fails (levels + 1) (.form .power) (front ++ ⟨.mark (.operator .power), position⟩ :: tokens) fault := by
  rw [List.append_cons]
  refine fails.within (fun exponent exponentNamed => ⟨.raised base exponent, ⟨named, exponentNamed⟩, by simp [yield]⟩)
    fun outer tail passes _ => ?_
  obtain ⟨exponent, rfl, exponentPasses⟩ := passes_raised yield passes
  exact ⟨exponent, exponentPasses, fun deep => Nat.lt_of_lt_of_le (Nat.succ_lt_succ deep) (Nat.le_max_right _ _)⟩

theorem power_fails (locates : LocatesDeeper levels deeper)
    (failed : Parser.power deeper tokens = .error failure) :
    Fails levels (.form .power) tokens failure.fault := by
  rcases bind_eq_error.1 failed with baseFailed | ⟨⟨first, rest⟩, baseRead, failed₁⟩
  next => exact fails_base ((primary_locates locates).fails baseFailed)
  obtain ⟨front, base, rfl, derives⟩ := (primary_locates locates).sound baseRead
  dsimp only at failed₁
  split at failed₁
  next => cases failed₁
  next operator behind found =>
    obtain ⟨member, position, rfl⟩ := operator?_eq_some.1 found
    obtain rfl := List.mem_singleton.1 member
    rcases bind_eq_error.1 failed₁ with unentered | ⟨readers, entered, failed₂⟩
    next =>
      obtain ⟨inner, innerFailed, same⟩ := following_eq_error unentered
      obtain ⟨rfl, fault⟩ := locates.enter_fails innerFailed
      rw [← same, fault, List.append_cons]
      refine .deep (by simp) (begins_raised derives.named derives.yield) fun outer tail passes => ?_
      obtain ⟨exponent, rfl, _⟩ := passes_raised derives.yield passes
      exact Nat.lt_of_lt_of_le (Nat.succ_pos _) (Nat.le_max_right _ _)
    obtain ⟨levels, rfl, _, signed⟩ := locates.enter (following_eq_ok.1 entered)
    rcases bind_eq_error.1 failed₂ with exponentFailed | ⟨_, _, none⟩
    next =>
      obtain ⟨inner, innerFailed, same⟩ := following_eq_error exponentFailed
      rw [← same]
      exact fails_exponent derives.named derives.yield (signed.fails innerFailed)
    next => cases none

theorem power_stops (locates : LocatesDeeper levels deeper) {rest : List Token} {tree : Expression}
    (read : Parser.power deeper tokens = .ok (tree, rest)) : Form.power.Stops (rest.map Token.lexeme) := by
  obtain ⟨⟨first, behind⟩, _, read₁⟩ := bind_eq_ok.1 read
  dsimp only at read₁
  split at read₁
  next none =>
    obtain ⟨_, rfl⟩ := Prod.mk.inj (Except.ok.inj read₁)
    exact fun operator member => head_of_operator?_none none member
  next operator behind' found =>
    obtain ⟨readers, entered, read₂⟩ := bind_eq_ok.1 read₁
    obtain ⟨levels, rfl, _, signed⟩ := locates.enter (following_eq_ok.1 entered)
    obtain ⟨⟨second, behind''⟩, exponentRead, read₃⟩ := bind_eq_ok.1 read₂
    obtain ⟨_, rfl⟩ := Prod.mk.inj (Except.ok.inj read₃)
    -- What continues an exponent continues the power that it stands in.
    exact signed.stops (following_eq_ok.1 exponentRead)

theorem power_locates (locates : LocatesDeeper levels deeper) :
    Locates levels .power (Parser.power deeper) where
  toReads := power_reads locates.reads
  stops := power_stops locates
  fails := power_fails locates

end Power

section Signed

variable {position : Nat}

theorem signOperator_surjective {operator : Operator} (member : operator ∈ [.add, .subtract]) :
    exists negative, operator = signOperator negative := by
  simp only [List.mem_cons, List.not_mem_nil, or_false] at member
  rcases member with rfl | rfl
  next => exact ⟨false, rfl⟩
  next => exact ⟨true, rfl⟩

theorem passes_signed {negative : Bool} {outer : Derivation (.form .signed)} {tail : List Lexeme}
    (passes : outer.Passes [] (.mark (.operator (signOperator negative)) :: tail)) :
    exists (negative' : Bool) (operand : Derivation (.form .signed)), outer = .signed negative' operand ∧
      operand.Passes [] tail := by
  obtain ⟨named, behind, stops, same⟩ := passes
  cases outer with
  | unsigned operand => exact absurd same (operand.yield_power_ne _ _ _)
  | signed negative' operand => exact ⟨negative', operand, rfl, named, behind, stops, (List.cons.inj same).2⟩

theorem fails_unsigned (none : operator? [.add, .subtract] tokens = none) {fault : SyntaxFault}
    (fails : Fails levels (.form .power) tokens fault) : Fails levels (.form .signed) tokens fault := by
  refine @Fails.within _ _ _ _ [] _ _ fails (fun inner named => ⟨.unsigned inner, named, by simp⟩)
    fun outer tail ⟨named, behind, stops, same⟩ head => ?_
  cases outer with
  | unsigned operand => exact ⟨operand, ⟨named, behind, stops, same⟩, id⟩
  | signed negative operand =>
    -- The token that comes next would be the sign.
    obtain rfl : _ = tail := same
    exact absurd head.symm (head_of_operator?_none none (by cases negative <;> simp [signOperator]))

theorem fails_signed {negative : Bool} {fault : SyntaxFault}
    (fails : Fails levels (.form .signed) tokens fault) :
    Fails (levels + 1) (.form .signed) (⟨.mark (.operator (signOperator negative)), position⟩ :: tokens) fault := by
  refine @Fails.within _ _ _ _ [⟨.mark (.operator (signOperator negative)), position⟩] _ _ fails
    (fun operand named => ⟨.signed negative operand, named, by simp⟩) fun outer tail passes _ => ?_
  obtain ⟨_, operand, rfl, operandPasses⟩ := passes_signed passes.whole
  exact ⟨operand, operandPasses, fun deep => Nat.succ_lt_succ deep⟩

theorem signed_fails (locates : LocatesDeeper levels deeper)
    (failed : Parser.signed deeper tokens = .error failure) :
    Fails levels (.form .signed) tokens failure.fault := by
  unfold Parser.signed at failed
  split at failed
  next none => exact fails_unsigned none ((power_locates locates).fails failed)
  next operator behind found =>
    obtain ⟨member, position, rfl⟩ := operator?_eq_some.1 found
    obtain ⟨negative, rfl⟩ := signOperator_surjective member
    rcases bind_eq_error.1 failed with unentered | ⟨readers, entered, failed₁⟩
    next =>
      obtain ⟨rfl, fault⟩ := locates.enter_fails unentered
      rw [fault]
      refine @Fails.deep _ _ [⟨.mark (.operator (signOperator negative)), position⟩] behind (by simp)
        ⟨.signed negative (.unsigned (.bare (.numeral []))), trivial, by simp⟩ fun outer tail passes => ?_
      obtain ⟨_, operand, rfl, _⟩ := passes_signed passes.whole
      exact Nat.succ_pos _
    obtain ⟨levels, rfl, _, signed⟩ := locates.enter entered
    rcases bind_eq_error.1 failed₁ with operandFailed | ⟨_, _, none⟩
    next => exact fails_signed (signed.fails operandFailed)
    next => cases none

theorem signed_locates (locates : LocatesDeeper levels deeper) :
    Locates levels .signed (Parser.signed deeper) where
  toReads := signed_reads locates.reads
  stops {tokens rest tree} read := by
    unfold Parser.signed at read
    split at read
    next => exact (power_locates locates).stops read
    next operator behind found =>
      obtain ⟨readers, entered, read₁⟩ := bind_eq_ok.1 read
      obtain ⟨levels, rfl, _, signed⟩ := locates.enter entered
      obtain ⟨⟨tree', behind'⟩, operandRead, read₂⟩ := bind_eq_ok.1 read₁
      obtain ⟨_, rfl⟩ := Prod.mk.inj (Except.ok.inj read₂)
      exact signed.stops operandRead
  fails := signed_fails locates

end Signed

theorem sum_locates (locates : LocatesDeeper levels deeper) : Locates levels .sum (Parser.sum deeper) :=
  @chain_locates levels .sum (Parser.product deeper)
    (@chain_locates levels .product (Parser.signed deeper) (signed_locates locates))

theorem below_locates (levels : Nat) : LocatesDeeper levels (below levels) := by
  -- As for what the readers find: those of a level are built from those below it.
  induction levels with
  | zero => rfl
  | succ levels ih => exact ⟨readers (below levels), rfl, sum_locates ih, signed_locates ih⟩

end SpokenArithmetic.Grammar

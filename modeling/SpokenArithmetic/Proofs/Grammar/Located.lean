import SpokenArithmetic.Proofs.Grammar.Value
import SpokenArithmetic.Proofs.Grammar.Viable

set_option autoImplicit false

namespace SpokenArithmetic.Grammar

open SpokenArithmetic.Parser

section Steps

variable {A : Type} {tokens : List Token} {failure : Parser.Failure}

theorem following_eq_error {operand : Expression} {next : Except Parser.Failure A}
    (failed : following operand next = .error failure) :
    exists inner, next = .error inner ∧ inner.fault = failure.fault := by
  cases next with
  | ok value => cases failed
  | error inner =>
    obtain rfl := Except.error.inj failed
    exact ⟨inner, rfl, rfl⟩

theorem foldr_following_eq_error {operands : List Expression} {next : Except Parser.Failure A}
    (failed : operands.foldr following next = .error failure) :
    exists inner, next = .error inner ∧ inner.fault = failure.fault := by
  induction operands generalizing failure with
  | nil => exact ⟨failure, failed, rfl⟩
  | cons operand rest ih =>
    obtain ⟨inner, behind, same⟩ := following_eq_error failed
    obtain ⟨innermost, found, same'⟩ := ih behind
    exact ⟨innermost, found, same'.trans same⟩

theorem expect_eq_error {mark : Mark} {fault : Option Nat -> SyntaxFault}
    (failed : expect mark fault tokens = .error failure) :
    failure.fault = fault (position? tokens) ∧ (tokens.map Token.lexeme).head? ≠ some (.mark mark) := by
  cases tokens with
  | nil =>
    obtain rfl := Except.error.inj failed
    exact ⟨rfl, by simp⟩
  | cons token rest =>
    by_cases same : token.lexeme = .mark mark
    next => simp [expect, same] at failed
    next =>
      simp only [expect, same, if_false] at failed
      obtain rfl := Except.error.inj failed
      exact ⟨rfl, by simpa using same⟩

theorem head_of_operator?_none {among : List Operator} {operator : Operator}
    (none : operator? among tokens = none) (member : operator ∈ among) :
    (tokens.map Token.lexeme).head? ≠ some (.mark (.operator operator)) := by
  intro same
  cases tokens with
  | nil => simp at same
  | cons token rest =>
    obtain ⟨lexeme, position⟩ := token
    obtain rfl : lexeme = .mark (.operator operator) := by simpa using same
    have found : operator? among (⟨.mark (.operator operator), position⟩ :: rest) = some (operator, rest) :=
      operator?_eq_some.2 ⟨member, position, rfl⟩
    rw [none] at found
    cases found

theorem makeCall_eq_error {callable : Callable} {position : Nat} {given : List Expression}
    (failed : makeCall callable position given = .error failure) :
    failure.fault = .arity callable given.length position ∧ given.length ≠ callable.arity := by
  match given, callable with
  | [], .power | [], .apply _ | [_], .power | [_, _], .apply _
  | _ :: _ :: _ :: _, .power | _ :: _ :: _ :: _, .apply _ =>
    obtain rfl := Except.error.inj failed
    simp [Callable.arity]
  | [_], .apply _ | [_, _], .power => cases failed

end Steps

/-- A reader of a form that stops where it has to, and fails where no derivation goes on. -/
structure Locates (levels : Nat) (form : Form) (reader : Reader Expression) : Prop
    extends Reads levels form reader where
  stops : forall {tokens rest : List Token} {tree : Expression}, reader tokens = .ok (tree, rest) ->
    form.Stops (rest.map Token.lexeme)
  fails : forall {tokens : List Token} {failure : Parser.Failure}, reader tokens = .error failure ->
    Fails levels (.form form) tokens failure.fault

section Chain

variable {levels : Nat} {tier : Tier} {operand : Reader Expression} {left tree : Expression}
  {tokens rest : List Token} {failure : Parser.Failure}

theorem operator?_stops (none : operator? tier.operators tokens = none)
    (stops : tier.operand.Stops (tokens.map Token.lexeme)) :
    (Form.chain tier).Stops (tokens.map Token.lexeme) := by
  intro operator member
  rcases (Form.continuing_chain tier operator).1 member with inner | own
  next => exact stops operator inner
  next => exact head_of_operator?_none none own

theorem chainFrom_ends (locates : Locates levels tier.operand operand) {rounds : Nat}
    (enough : tokens.length <= rounds) (stops : tier.operand.Stops (tokens.map Token.lexeme))
    (read : chainFrom tier.operators operand rounds left tokens = .ok (tree, rest)) :
    (Form.chain tier).Stops (rest.map Token.lexeme) := by
  induction rounds generalizing left tokens with
  | zero =>
    obtain rfl := List.eq_nil_of_length_eq_zero (Nat.le_zero.1 enough)
    obtain ⟨_, rfl⟩ := Prod.mk.inj (Except.ok.inj read)
    exact (Form.chain tier).stops_nil
  | succ rounds ih =>
    rw [chainFrom] at read
    split at read
    next none =>
      obtain ⟨_, rfl⟩ := Prod.mk.inj (Except.ok.inj read)
      exact operator?_stops none stops
    next operator behind found =>
      obtain ⟨_, position, rfl⟩ := operator?_eq_some.1 found
      obtain ⟨⟨right, behind'⟩, operandRead, othersRead⟩ := bind_eq_ok.1 read
      obtain ⟨front, _, rfl, _⟩ := locates.sound (following_eq_ok.1 operandRead)
      refine ih ?_ (locates.stops (following_eq_ok.1 operandRead)) othersRead
      simp only [List.length_cons, List.length_append] at enough
      omega

theorem fails_operand {operator : Operator} (member : operator ∈ tier.operators) {position : Nat}
    {fault : SyntaxFault} (fails : Fails levels (.form tier.operand) tokens fault) :
    Fails levels (.further tier) (⟨.mark (.operator operator), position⟩ :: tokens) fault := by
  refine @Fails.within _ _ _ _ [⟨.mark (.operator operator), position⟩] _ _ fails
    (fun inner named => ⟨.further tier operator member inner (.noFurther tier), ?_, ?_⟩)
    fun outer tail ⟨named, behind, stops, same⟩ _ => ?_
  next => exact ⟨named, trivial⟩
  next => simp
  next =>
    cases outer with
    | noFurther =>
      obtain rfl : behind = _ := same
      exact absurd stops (Derivation.not_stops_further member _)
    | further _ operator' _ inner others =>
      simp only [Derivation.yield, List.cons_append, List.append_assoc, List.map_cons, List.map_nil,
        List.cons.injEq] at same
      exact ⟨inner, ⟨named.1, _, others.stops_further stops, same.2⟩,
        fun deep => Nat.lt_of_lt_of_le deep (Nat.le_max_left _ _)⟩

theorem fails_others {operator : Operator} (member : operator ∈ tier.operators) {position : Nat}
    {front : List Token} {first : Derivation (.form tier.operand)} (named : first.Named)
    (yield : first.yield = front.map Token.lexeme) (stops : tier.operand.Stops (tokens.map Token.lexeme))
    {fault : SyntaxFault} (fails : Fails levels (.further tier) tokens fault) :
    Fails levels (.further tier) (⟨.mark (.operator operator), position⟩ :: (front ++ tokens)) fault := by
  refine @Fails.within _ _ _ _ (⟨.mark (.operator operator), position⟩ :: front) _ _ fails
    (fun others othersNamed => ⟨.further tier operator member first others, ⟨named, othersNamed⟩, ?_⟩)
    fun outer tail ⟨outerNamed, behind, outerStops, same⟩ head => ?_
  next => simp [yield]
  next =>
    cases outer with
    | noFurther =>
      obtain rfl : behind = _ := same
      exact absurd outerStops (Derivation.not_stops_further member _)
    | further _ operator' _ inner others =>
      simp only [Derivation.yield, List.cons_append, List.append_assoc, List.map_cons, List.cons.injEq,
        ← yield] at same
      have next := (inner.determined first _ _ (others.stops_further outerStops) (stops.of_head head)
        same.2).2
      exact ⟨others, ⟨outerNamed.2, behind, outerStops, next⟩,
        fun deep => Nat.lt_of_lt_of_le deep (Nat.le_max_right _ _)⟩

theorem chainFrom_fails (locates : Locates levels tier.operand operand) {rounds : Nat}
    (failed : chainFrom tier.operators operand rounds left tokens = .error failure) :
    Fails levels (.further tier) tokens failure.fault := by
  induction rounds generalizing left tokens with
  | zero => cases failed
  | succ rounds ih =>
    rw [chainFrom] at failed
    split at failed
    next => cases failed
    next operator behind found =>
      obtain ⟨member, position, rfl⟩ := operator?_eq_some.1 found
      rcases bind_eq_error.1 failed with operandFailed | ⟨⟨right, behind'⟩, operandRead, othersFailed⟩
      next =>
        obtain ⟨inner, innerFailed, same⟩ := following_eq_error operandFailed
        rw [← same]
        exact fails_operand member (locates.fails innerFailed)
      next =>
        have read := following_eq_ok.1 operandRead
        obtain ⟨front, first, rfl, derives⟩ := locates.sound read
        exact fails_others member derives.named derives.yield (locates.stops read) (ih othersFailed)

theorem chain_locates (locates : Locates levels tier.operand operand) :
    Locates levels (.chain tier) (Parser.chain tier.operators operand) where
  toReads := chain_reads locates.toReads
  stops {tokens rest tree} read := by
    obtain ⟨⟨left, behind⟩, firstRead, othersRead⟩ := bind_eq_ok.1 read
    exact chainFrom_ends locates (Nat.le_refl _) (locates.stops firstRead) othersRead
  fails {tokens failure} failed := by
    rcases bind_eq_error.1 failed with firstFailed | ⟨⟨left, behind⟩, firstRead, othersFailed⟩
    next =>
      refine @Fails.within _ _ _ _ [] _ _ (locates.fails firstFailed)
        (fun inner named => ⟨.chain tier inner (.noFurther tier), ⟨named, trivial⟩, by simp⟩)
        fun outer tail ⟨named, behind, stops, same⟩ _ => ?_
      cases outer with
      | chain _ first others =>
        rw [Derivation.yield, List.append_assoc] at same
        exact ⟨first, ⟨named.1, _, others.stops_further stops, same⟩,
          fun deep => Nat.lt_of_lt_of_le deep (Nat.le_max_left _ _)⟩
    next =>
      have stops := locates.stops firstRead
      obtain ⟨front, first, rfl, derives⟩ := locates.sound firstRead
      refine (chainFrom_fails locates othersFailed).within
        (fun others named => ⟨.chain tier first others, ⟨derives.named, named⟩, by simp [derives.yield]⟩)
        fun outer tail ⟨named, behind', outerStops, same⟩ head => ?_
      cases outer with
      | chain _ first' others =>
        rw [Derivation.yield, List.append_assoc, ← derives.yield] at same
        have next := (first'.determined first _ _ (others.stops_further outerStops) (stops.of_head head)
          same).2
        exact ⟨others, ⟨named.2, behind', outerStops, next⟩,
          fun deep => Nat.lt_of_lt_of_le deep (Nat.le_max_right _ _)⟩

end Chain

section Arguments

variable {levels : Nat} {argument : Reader Expression} {operands : List Expression} {tokens rest : List Token}
  {failure : Parser.Failure}

def EndsArguments (lexemes : List Lexeme) : Prop :=
  Form.sum.Stops lexemes ∧ lexemes.head? ≠ some (.mark .comma)

theorem endsArguments_closing (rest : List Lexeme) : EndsArguments (.mark .closing :: rest) :=
  ⟨Form.stops_mark .sum rest (by simp), by simp⟩

theorem EndsArguments.of_head {lexemes lexemes' : List Lexeme} (ends : EndsArguments lexemes)
    (same : lexemes'.head? = lexemes.head?) : EndsArguments lexemes' :=
  ⟨ends.1.of_head same, by rw [same]; exact ends.2⟩

theorem EndsArguments.behind {lexemes : List Lexeme} (ends : EndsArguments lexemes)
    (others : Derivation .furtherArguments) : Form.sum.Stops (others.yield ++ lexemes) := by
  cases others with
  | noFurtherArguments => exact ends.1
  | furtherArguments first others => exact Form.stops_mark .sum _ (by simp)

theorem furtherArguments_end {behind behind' : List Lexeme} (ends : EndsArguments behind)
    (ends' : EndsArguments behind') (others : Derivation .furtherArguments)
    (others' : Derivation .furtherArguments) (same : others.yield ++ behind = others'.yield ++ behind') :
    behind = behind' := by
  match others, others' with
  | .noFurtherArguments, .noFurtherArguments => exact same
  | .noFurtherArguments, .furtherArguments _ _ =>
    obtain rfl : behind = _ := same
    exact absurd rfl ends.2
  | .furtherArguments _ _, .noFurtherArguments =>
    obtain rfl : _ = behind' := same
    exact absurd rfl ends'.2
  | .furtherArguments first others, .furtherArguments first' others' =>
    simp only [Derivation.yield, List.cons_append, List.append_assoc, List.cons.injEq, true_and] at same
    have next := (first.determined first' _ _ (ends.behind others) (ends'.behind others') same).2
    exact furtherArguments_end ends ends' others others' next

theorem argumentsFrom_ends (locates : Locates levels .sum argument) {rounds : Nat}
    (enough : tokens.length <= rounds) (stops : Form.sum.Stops (tokens.map Token.lexeme))
    (read : argumentsFrom argument rounds tokens = .ok (operands, rest)) :
    EndsArguments (rest.map Token.lexeme) := by
  induction rounds generalizing tokens operands with
  | zero =>
    obtain rfl := List.eq_nil_of_length_eq_zero (Nat.le_zero.1 enough)
    obtain ⟨_, rfl⟩ := Prod.mk.inj (Except.ok.inj read)
    exact ⟨Form.sum.stops_nil, by simp⟩
  | succ rounds ih =>
    unfold argumentsFrom at read
    split at read
    next position behind =>
      obtain ⟨⟨head, behind'⟩, firstRead, read⟩ := bind_eq_ok.1 read
      obtain ⟨⟨tail, behind''⟩, othersRead, read⟩ := bind_eq_ok.1 read
      obtain ⟨_, rfl⟩ := Prod.mk.inj (Except.ok.inj read)
      obtain ⟨front, _, rfl, _⟩ := locates.sound firstRead
      refine ih ?_ (locates.stops firstRead) (following_eq_ok.1 othersRead)
      simp only [List.length_cons, List.length_append] at enough
      omega
    next other =>
      obtain ⟨_, rfl⟩ := Prod.mk.inj (Except.ok.inj read)
      refine ⟨stops, fun comma => ?_⟩
      cases tokens with
      | nil => simp at comma
      | cons token behind =>
        obtain ⟨lexeme, position⟩ := token
        obtain rfl : lexeme = .mark .comma := by simpa using comma
        exact other position behind rfl

theorem fails_argument {position : Nat} {fault : SyntaxFault} (fails : Fails levels (.form .sum) tokens fault) :
    Fails levels .furtherArguments (⟨.mark .comma, position⟩ :: tokens) fault := by
  refine @Fails.within _ _ _ _ [⟨.mark .comma, position⟩] _ _ fails
    (fun inner named => ⟨.furtherArguments inner .noFurtherArguments, ⟨named, trivial⟩, by simp⟩)
    fun outer tail ⟨named, behind, stops, same⟩ _ => ?_
  cases outer with
  | noFurtherArguments =>
    obtain rfl : behind = _ := same
    cases stops
  | furtherArguments first others =>
    simp only [Derivation.yield, List.cons_append, List.append_assoc, List.map_cons, List.map_nil,
      List.cons.injEq] at same
    exact ⟨first, ⟨named.1, _, others.stops_furtherArguments stops, same.2⟩,
      fun deep => Nat.lt_of_lt_of_le deep (Nat.le_max_left _ _)⟩

theorem fails_otherArguments {position : Nat} {front : List Token} {first : Derivation (.form .sum)}
    (named : first.Named) (yield : first.yield = front.map Token.lexeme)
    (stops : Form.sum.Stops (tokens.map Token.lexeme)) {fault : SyntaxFault}
    (fails : Fails levels .furtherArguments tokens fault) :
    Fails levels .furtherArguments (⟨.mark .comma, position⟩ :: (front ++ tokens)) fault := by
  refine @Fails.within _ _ _ _ (⟨.mark .comma, position⟩ :: front) _ _ fails
    (fun others othersNamed => ⟨.furtherArguments first others, ⟨named, othersNamed⟩, by simp [yield]⟩)
    fun outer tail ⟨outerNamed, behind, outerStops, same⟩ head => ?_
  cases outer with
  | noFurtherArguments =>
    obtain rfl : behind = _ := same
    cases outerStops
  | furtherArguments first' others =>
    simp only [Derivation.yield, List.cons_append, List.append_assoc, List.map_cons, List.cons.injEq, true_and,
      ← yield] at same
    have next := (first'.determined first _ _ (others.stops_furtherArguments outerStops) (stops.of_head head)
      same).2
    exact ⟨others, ⟨outerNamed.2, behind, outerStops, next⟩,
      fun deep => Nat.lt_of_lt_of_le deep (Nat.le_max_right _ _)⟩

theorem argumentsFrom_fails (locates : Locates levels .sum argument) {rounds : Nat}
    (failed : argumentsFrom argument rounds tokens = .error failure) :
    Fails levels .furtherArguments tokens failure.fault := by
  induction rounds generalizing tokens failure with
  | zero => cases failed
  | succ rounds ih =>
    unfold argumentsFrom at failed
    split at failed
    next position behind =>
      rcases bind_eq_error.1 failed with firstFailed | ⟨⟨head, behind'⟩, firstRead, failed⟩
      next => exact fails_argument (locates.fails firstFailed)
      next =>
        rcases bind_eq_error.1 failed with othersFailed | ⟨_, _, none⟩
        next =>
          obtain ⟨inner, innerFailed, same⟩ := following_eq_error othersFailed
          obtain ⟨front, first, rfl, derives⟩ := locates.sound firstRead
          rw [← same]
          exact fails_otherArguments derives.named derives.yield (locates.stops firstRead) (ih innerFailed)
        next => cases none
    next => cases failed

theorem arguments_fails (locates : Locates levels .sum argument)
    (failed : arguments argument tokens = .error failure) : Fails levels .arguments tokens failure.fault := by
  unfold arguments at failed
  split at failed
  next => cases failed
  next other =>
    have open_ : (tokens.map Token.lexeme).head? ≠ some (.mark .closing) := by
      intro closing
      cases tokens with
      | nil => simp at closing
      | cons token behind =>
        obtain ⟨lexeme, position⟩ := token
        obtain rfl : lexeme = .mark .closing := by simpa using closing
        exact other position behind rfl
    rcases bind_eq_error.1 failed with firstFailed | ⟨⟨head, behind⟩, firstRead, failed⟩
    next =>
      refine @Fails.within _ _ _ _ [] _ _ (locates.fails firstFailed)
        (fun inner named => ⟨.arguments inner .noFurtherArguments, ⟨named, trivial⟩, by simp⟩)
        fun outer tail ⟨named, behind, stops, same⟩ head => ?_
      cases outer with
      | noArguments =>
        obtain rfl : behind = tail := same
        exact absurd (head.symm.trans stops) open_
      | arguments first others =>
        rw [Derivation.yield, List.append_assoc] at same
        exact ⟨first, ⟨named.1, _, others.stops_furtherArguments stops, same⟩,
          fun deep => Nat.lt_of_lt_of_le deep (Nat.le_max_left _ _)⟩
    next =>
      rcases bind_eq_error.1 failed with othersFailed | ⟨_, _, none⟩
      next =>
        obtain ⟨inner, innerFailed, same⟩ := following_eq_error othersFailed
        have stops := locates.stops firstRead
        obtain ⟨front, first, rfl, derives⟩ := locates.sound firstRead
        rw [← same]
        refine (argumentsFrom_fails locates innerFailed).within
          (fun others named => ⟨.arguments first others, ⟨derives.named, named⟩, by simp [derives.yield]⟩)
          fun outer tail ⟨named, behind', outerStops, same⟩ head => ?_
        cases outer with
        | noArguments =>
          obtain rfl : behind' = _ := same
          exact absurd (by rw [derives.yield]) (first.yield_form_ne_closing outerStops tail)
        | arguments first' others =>
          rw [Derivation.yield, List.append_assoc, ← derives.yield] at same
          have next := (first'.determined first _ _ (others.stops_furtherArguments outerStops)
            (stops.of_head head) same).2
          exact ⟨others, ⟨named.2, behind', outerStops, next⟩,
            fun deep => Nat.lt_of_lt_of_le deep (Nat.le_max_right _ _)⟩
      next => cases none

theorem arguments_ends (locates : Locates levels .sum argument)
    (read : arguments argument tokens = .ok (operands, rest)) :
    (rest.map Token.lexeme).head? = some (.mark .closing) ∨
      exists front first others, tokens = front ++ rest ∧ (Derivation.arguments first others).Named ∧
        (Derivation.arguments first others).yield = front.map Token.lexeme ∧
        EndsArguments (rest.map Token.lexeme) := by
  unfold arguments at read
  split at read
  next =>
    obtain ⟨_, rfl⟩ := Prod.mk.inj (Except.ok.inj read)
    exact .inl rfl
  next =>
    obtain ⟨⟨head, behind⟩, firstRead, read⟩ := bind_eq_ok.1 read
    obtain ⟨⟨tail, behind'⟩, othersRead, read⟩ := bind_eq_ok.1 read
    obtain ⟨_, rfl⟩ := Prod.mk.inj (Except.ok.inj read)
    have othersRead := following_eq_ok.1 othersRead
    have ends := argumentsFrom_ends locates (Nat.le_refl _) (locates.stops firstRead) othersRead
    obtain ⟨front, first, rfl, derives⟩ := locates.sound firstRead
    obtain ⟨back, others, rfl, othersDerive⟩ := argumentsFrom_sound locates.toReads othersRead
    exact .inr ⟨front ++ back, first, others, by simp, ⟨derives.named, othersDerive.named⟩,
      by simp [derives.yield, othersDerive.yield], ends⟩

end Arguments

end SpokenArithmetic.Grammar

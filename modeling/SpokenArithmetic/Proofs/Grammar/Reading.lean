import Mathlib.Tactic.SplitIfs
import SpokenArithmetic.Expression.Parser
import SpokenArithmetic.Proofs.Grammar.Derives
import SpokenArithmetic.Proofs.Results

set_option autoImplicit false

namespace SpokenArithmetic

namespace Grammar

open SpokenArithmetic.Parser

/-- A reader that finds the derivations of a form within so many levels, and nothing else. -/
structure Reads (levels : Nat) (form : Form) (reader : Reader Expression) : Prop where
  sound : forall {tokens rest : List Token} {tree : Expression}, reader tokens = .ok (tree, rest) ->
    exists (front : List Token) (derivation : Derivation (.form form)),
      tokens = front ++ rest ∧ Derives levels derivation front tree
  complete : forall {front rest : List Token} {derivation : Derivation (.form form)}
    {tree : Expression}, Derives levels derivation front tree ->
      form.Stops (rest.map Token.lexeme) -> reader (front ++ rest) = .ok (tree, rest)

def ReadsDeeper : (levels : Nat) -> Option Deeper -> Prop
  | 0, deeper => deeper = none
  | levels + 1, deeper => exists readers, deeper = some readers ∧
      Reads levels .sum readers.sum ∧ Reads levels .signed readers.signed

theorem following_eq_ok {A : Type} {operand : Expression} {next : Except Parser.Failure A} {result : A} :
    following operand next = .ok result ↔ next = .ok result := by
  cases next <;> simp [following, Except.mapError]

theorem foldr_following_eq_ok {A : Type} {operands : List Expression} {next : Except Parser.Failure A}
    {result : A} : operands.foldr following next = .ok result ↔ next = .ok result := by
  induction operands with
  | nil => rfl
  | cons operand rest ih => rw [List.foldr_cons, following_eq_ok, ih]

theorem expect_eq_ok {mark : Mark} {fault : Option Nat -> SyntaxFault} {tokens rest : List Token} :
    expect mark fault tokens = .ok rest ↔
      exists position, tokens = ⟨.mark mark, position⟩ :: rest := by
  cases tokens with
  | nil => simp [expect, fail]
  | cons token tail =>
    obtain ⟨lexeme, position⟩ := token
    by_cases same : lexeme = .mark mark <;> simp [expect, fail, same]

theorem operator?_eq_some {among : List Operator} {tokens rest : List Token} {operator : Operator} :
    operator? among tokens = some (operator, rest) ↔
      operator ∈ among ∧ exists position, tokens = ⟨.mark (.operator operator), position⟩ :: rest := by
  unfold operator?
  split
  next other position tail =>
    by_cases member : other ∈ among <;> simp [member] <;> grind
  next other =>
    constructor
    next => simp
    next =>
      rintro ⟨_, position, rfl⟩
      exact absurd rfl (other operator position rest)

theorem operator?_eq_none {among : List Operator} {tokens : List Token}
    (other : forall operator, operator ∈ among ->
      (tokens.map Token.lexeme).head? ≠ some (.mark (.operator operator))) :
    operator? among tokens = none := by
  cases found : operator? among tokens with
  | none => rfl
  | some pair =>
    obtain ⟨member, position, rfl⟩ := operator?_eq_some.1 found
    exact absurd rfl (other pair.1 member)

theorem enter_eq_ok {deeper : Option Deeper} {readers : Deeper} :
    enter deeper = .ok readers ↔ deeper = some readers := by
  cases deeper <;> simp [enter, fail]

theorem makeCall_eq_ok {callable : Callable} {position : Nat} {given : List Expression}
    {tree : Expression} : makeCall callable position given = .ok tree ↔ applied? callable given = some tree := by
  match given, callable with
  | [], .power | [], .apply _ => simp [makeCall, applied?]
  | [argument], .power | [argument], .apply _ => simp [makeCall, applied?]
  | [base, exponent], .power | [base, exponent], .apply _ => simp [makeCall, applied?]
  | _ :: _ :: _ :: _, .power | _ :: _ :: _ :: _, .apply _ => simp [makeCall, applied?]

section Chain

variable {levels : Nat} {tier : Tier} {operand : Reader Expression}

theorem chainFrom_sound (reads : Reads levels tier.operand operand) {rounds : Nat}
    {left tree : Expression} {tokens rest : List Token}
    (read : chainFrom tier.operators operand rounds left tokens = .ok (tree, rest)) :
    exists (front : List Token) (others : Derivation (.further tier))
      (pairs : List (Operator × Expression)),
      tokens = front ++ rest ∧ Derives levels others front pairs ∧ tree = foldChain left pairs := by
  have ends (tree' : Expression) (tokens' : List Token)
      (read : Except.ok (tree', tokens') = (.ok (tree, rest) : Except Parser.Failure _)) :
      exists (front : List Token) (others : Derivation (.further tier))
        (pairs : List (Operator × Expression)),
        tokens' = front ++ rest ∧ Derives levels others front pairs ∧ tree = foldChain tree' pairs := by
    obtain ⟨rfl, rfl⟩ := Prod.mk.inj (Except.ok.inj read)
    exact ⟨[], .noFurther tier, [], rfl, derives_noFurther.2 ⟨rfl, rfl⟩, rfl⟩
  -- The operands read so far are in `left`, so the induction is over every one of them.
  induction rounds generalizing left tokens with
  | zero => exact ends left tokens read
  | succ rounds ih =>
    rw [chainFrom] at read
    split at read
    next => exact ends left tokens read
    next operator behind found =>
      obtain ⟨member, position, rfl⟩ := operator?_eq_some.1 found
      obtain ⟨⟨right, behind'⟩, operandRead, othersRead⟩ := bind_eq_ok.1 read
      obtain ⟨front, first, rfl, firstDerives⟩ := reads.sound (following_eq_ok.1 operandRead)
      obtain ⟨back, others, pairs, rfl, othersDerive, rfl⟩ := ih othersRead
      exact ⟨⟨.mark (.operator operator), position⟩ :: (front ++ back),
        .further tier operator member first others, (operator, right) :: pairs, by simp,
        derives_further.2 ⟨position, front, back, right, pairs, rfl, rfl, firstDerives, othersDerive⟩, rfl⟩

theorem chainFrom_stops {rounds : Nat} {left : Expression} {rest : List Token}
    (stops : (Form.chain tier).Stops (rest.map Token.lexeme)) :
    chainFrom tier.operators operand rounds left rest = .ok (left, rest) := by
  have none : operator? tier.operators rest = none :=
    operator?_eq_none fun operator member =>
      stops operator ((Form.continuing_chain tier operator).2 (.inr member))
  cases rounds <;> simp [chainFrom, none]

theorem chainFrom_complete (reads : Reads levels tier.operand operand) {rounds : Nat}
    {left : Expression} {front rest : List Token} {others : Derivation (.further tier)}
    {pairs : List (Operator × Expression)} (derives : Derives levels others front pairs)
    (stops : (Form.chain tier).Stops (rest.map Token.lexeme)) (enough : front.length <= rounds) :
    chainFrom tier.operators operand rounds left (front ++ rest) =
      .ok (foldChain left pairs, rest) := by
  induction rounds generalizing left front others pairs with
  | zero =>
    obtain rfl := List.eq_nil_of_length_eq_zero (Nat.le_zero.1 enough)
    cases others with
    | noFurther =>
      obtain ⟨_, rfl⟩ := derives_noFurther.1 derives
      exact chainFrom_stops stops
    | further =>
      obtain ⟨_, _, _, _, _, _, none, _⟩ := derives_further.1 derives
      cases none
  | succ rounds ih =>
    cases others with
    | noFurther =>
      obtain ⟨rfl, rfl⟩ := derives_noFurther.1 derives
      exact chainFrom_stops stops
    | further _ operator member first others =>
      obtain ⟨position, front, back, right, tail, rfl, rfl, firstDerives, othersDerive⟩ :=
        derives_further.1 derives
      have found : operator? tier.operators
          (⟨.mark (.operator operator), position⟩ :: (front ++ back) ++ rest) =
            some (operator, front ++ (back ++ rest)) :=
        operator?_eq_some.2 ⟨member, position, by simp⟩
      -- The operand is followed by a further operator or by what follows the chain; it stops at both.
      have firstRead : operand (front ++ (back ++ rest)) = .ok (right, back ++ rest) :=
        reads.complete firstDerives (by
          rw [List.map_append, ← othersDerive.yield]
          exact others.stops_further stops)
      have fewer : back.length <= rounds := by
        simp only [List.length_cons, List.length_append] at enough
        omega
      have othersRead : chainFrom tier.operators operand rounds (.binary operator left right)
          (back ++ rest) = .ok (foldChain (.binary operator left right) tail, rest) :=
        ih othersDerive fewer
      rw [chainFrom, found]
      simp only [following_eq_ok.2 firstRead, ok_bind, othersRead]
      rfl

theorem chain_reads (reads : Reads levels tier.operand operand) :
    Reads levels (.chain tier) (Parser.chain tier.operators operand) where
  sound {tokens rest tree} read := by
    obtain ⟨⟨left, behind⟩, firstRead, othersRead⟩ := bind_eq_ok.1 read
    obtain ⟨front, first, rfl, firstDerives⟩ := reads.sound firstRead
    obtain ⟨back, others, pairs, rfl, othersDerive, rfl⟩ := chainFrom_sound reads othersRead
    exact ⟨front ++ back, .chain tier first others, by simp,
      derives_chain.2 ⟨front, back, left, pairs, rfl, rfl, firstDerives, othersDerive⟩⟩
  complete {tokens rest derivation tree} derives stops := by
    cases derivation with
    | chain _ first others =>
      obtain ⟨front, back, left, pairs, rfl, rfl, firstDerives, othersDerive⟩ := derives_chain.1 derives
      have firstRead : operand (front ++ (back ++ rest)) = .ok (left, back ++ rest) :=
        reads.complete firstDerives (by
          rw [List.map_append, ← othersDerive.yield]
          exact others.stops_further stops)
      rw [Parser.chain, List.append_assoc, firstRead, ok_bind]
      exact chainFrom_complete reads othersDerive stops (by simp)

end Chain

section Arguments

variable {levels : Nat} {argument : Reader Expression}

theorem argumentsFrom_sound (reads : Reads levels .sum argument) {rounds : Nat}
    {operands : List Expression} {tokens rest : List Token}
    (read : argumentsFrom argument rounds tokens = .ok (operands, rest)) :
    exists (front : List Token) (others : Derivation .furtherArguments),
      tokens = front ++ rest ∧ Derives levels others front operands := by
  have ends (operands' : List Expression) (tokens' : List Token)
      (read : Except.ok ([], tokens') = (.ok (operands', rest) : Except Parser.Failure _)) :
      exists (front : List Token) (others : Derivation .furtherArguments),
        tokens' = front ++ rest ∧ Derives levels others front operands' := by
    obtain ⟨rfl, rfl⟩ := Prod.mk.inj (Except.ok.inj read)
    exact ⟨[], .noFurtherArguments, rfl, derives_noFurtherArguments.2 ⟨rfl, rfl⟩⟩
  induction rounds generalizing operands tokens with
  | zero => exact ends operands tokens read
  | succ rounds ih =>
    unfold argumentsFrom at read
    split at read
    next position behind =>
      obtain ⟨⟨head, behind'⟩, firstRead, read⟩ := bind_eq_ok.1 read
      obtain ⟨⟨tail, behind''⟩, othersRead, read⟩ := bind_eq_ok.1 read
      obtain ⟨rfl, rfl⟩ := Prod.mk.inj (Except.ok.inj read)
      obtain ⟨front, first, rfl, firstDerives⟩ := reads.sound firstRead
      obtain ⟨back, others, rfl, othersDerive⟩ := ih (following_eq_ok.1 othersRead)
      exact ⟨⟨.mark .comma, position⟩ :: (front ++ back), .furtherArguments first others, by simp,
        derives_furtherArguments.2
          ⟨position, front, back, head, tail, rfl, rfl, firstDerives, othersDerive⟩⟩
    next => exact ends operands tokens read

theorem argumentsFrom_closing {rounds : Nat} {rest : List Token}
    (closing : (rest.map Token.lexeme).head? = some (.mark .closing)) :
    argumentsFrom argument rounds rest = .ok ([], rest) := by
  cases rounds with
  | zero => rfl
  | succ rounds =>
    unfold argumentsFrom
    split
    next => simp at closing
    next => rfl

theorem argumentsFrom_complete (reads : Reads levels .sum argument) {rounds : Nat}
    {front rest : List Token} {others : Derivation .furtherArguments} {operands : List Expression}
    (derives : Derives levels others front operands)
    (closing : (rest.map Token.lexeme).head? = some (.mark .closing)) (enough : front.length <= rounds) :
    argumentsFrom argument rounds (front ++ rest) = .ok (operands, rest) := by
  induction rounds generalizing front others operands with
  | zero =>
    obtain rfl := List.eq_nil_of_length_eq_zero (Nat.le_zero.1 enough)
    cases others with
    | noFurtherArguments =>
      obtain ⟨_, rfl⟩ := derives_noFurtherArguments.1 derives
      rfl
    | furtherArguments =>
      obtain ⟨_, _, _, _, _, _, none, _⟩ := derives_furtherArguments.1 derives
      cases none
  | succ rounds ih =>
    cases others with
    | noFurtherArguments =>
      obtain ⟨rfl, rfl⟩ := derives_noFurtherArguments.1 derives
      exact argumentsFrom_closing closing
    | furtherArguments first others =>
      obtain ⟨position, front, back, head, tail, rfl, rfl, firstDerives, othersDerive⟩ :=
        derives_furtherArguments.1 derives
      have firstRead : argument (front ++ (back ++ rest)) = .ok (head, back ++ rest) :=
        reads.complete firstDerives (by
          rw [List.map_append, ← othersDerive.yield]
          exact others.stops_furtherArguments closing)
      have othersRead := ih othersDerive (by
        simp only [List.length_cons, List.length_append] at enough
        omega)
      simp only [argumentsFrom, List.cons_append, List.append_assoc, firstRead, ok_bind,
        following_eq_ok.2 othersRead]
      rfl

theorem arguments_sound (reads : Reads levels .sum argument) {operands : List Expression}
    {tokens rest : List Token} (read : arguments argument tokens = .ok (operands, rest)) :
    exists (front : List Token) (given : Derivation .arguments),
      tokens = front ++ rest ∧ Derives levels given front operands := by
  unfold arguments at read
  split at read
  next =>
    obtain ⟨rfl, rfl⟩ := Prod.mk.inj (Except.ok.inj read)
    exact ⟨[], .noArguments, rfl, derives_noArguments.2 ⟨rfl, rfl⟩⟩
  next =>
    obtain ⟨⟨head, behind⟩, firstRead, read⟩ := bind_eq_ok.1 read
    obtain ⟨⟨tail, behind'⟩, othersRead, read⟩ := bind_eq_ok.1 read
    obtain ⟨rfl, rfl⟩ := Prod.mk.inj (Except.ok.inj read)
    obtain ⟨front, first, rfl, firstDerives⟩ := reads.sound firstRead
    obtain ⟨back, others, rfl, othersDerive⟩ := argumentsFrom_sound reads (following_eq_ok.1 othersRead)
    exact ⟨front ++ back, .arguments first others, by simp,
      derives_arguments.2 ⟨front, back, head, tail, rfl, rfl, firstDerives, othersDerive⟩⟩

theorem arguments_complete (reads : Reads levels .sum argument) {front rest : List Token}
    {given : Derivation .arguments} {operands : List Expression}
    (derives : Derives levels given front operands)
    (closing : (rest.map Token.lexeme).head? = some (.mark .closing)) :
    arguments argument (front ++ rest) = .ok (operands, rest) := by
  cases given with
  | noArguments =>
    obtain ⟨rfl, rfl⟩ := derives_noArguments.1 derives
    unfold arguments
    split
    next => rfl
    next other =>
      obtain ⟨⟨_, position⟩, behind, rfl, rfl⟩ : exists token behind, rest = token :: behind ∧
          token.lexeme = .mark .closing := by
        cases rest <;> simp_all
      exact absurd rfl (other position behind)
  | arguments first others =>
    obtain ⟨front, back, head, tail, rfl, rfl, firstDerives, othersDerive⟩ :=
      derives_arguments.1 derives
    have firstRead : argument (front ++ (back ++ rest)) = .ok (head, back ++ rest) :=
      reads.complete firstDerives (by
        rw [List.map_append, ← othersDerive.yield]
        exact others.stops_furtherArguments closing)
    have othersRead : argumentsFrom argument (back ++ rest).length (back ++ rest) = .ok (tail, rest) :=
      argumentsFrom_complete reads othersDerive closing (by simp)
    rw [List.append_assoc]
    unfold arguments
    split
    next position behind same =>
      have closes : ((front ++ (back ++ rest)).map Token.lexeme).head? = some (.mark .closing) := by
        simp [same]
      have starts := first.yield_form_ne_closing closes ((back ++ rest).map Token.lexeme)
      exact absurd (by rw [List.map_append, firstDerives.yield]) starts
    next =>
      simp only [firstRead, ok_bind, following_eq_ok.2 othersRead]
      rfl

end Arguments

section Forms

variable {levels : Nat} {deeper : Option Deeper}

theorem ReadsDeeper.enter (reads : ReadsDeeper levels deeper) {readers : Deeper}
    (entered : Parser.enter deeper = .ok readers) :
    exists levels', levels = levels' + 1 ∧
      Reads levels' .sum readers.sum ∧ Reads levels' .signed readers.signed := by
  rw [enter_eq_ok] at entered
  cases levels with
  | zero =>
    obtain rfl : deeper = none := reads
    cases entered
  | succ levels =>
    obtain ⟨readers', same, sum, signed⟩ := reads
    obtain rfl := Option.some.inj (entered.symm.trans same)
    exact ⟨levels, rfl, sum, signed⟩

theorem ReadsDeeper.succ (reads : ReadsDeeper (levels + 1) deeper) :
    exists readers, Parser.enter deeper = .ok readers ∧
      Reads levels .sum readers.sum ∧ Reads levels .signed readers.signed := by
  obtain ⟨readers, rfl, sum, signed⟩ := reads
  exact ⟨readers, rfl, sum, signed⟩

theorem call_sound (reads : ReadsDeeper levels deeper) {name : List Char} {position : Nat}
    {tokens rest : List Token} {tree : Expression}
    (read : Parser.call deeper name position tokens = .ok (tree, rest)) :
    exists (front : List Token) (derivation : Derivation (.form .primary)),
      ⟨.name name, position⟩ :: tokens = front ++ rest ∧ Derives levels derivation front tree := by
  unfold Parser.call at read
  split at read
  next => split at read <;> cases read
  next callable named =>
    obtain ⟨behind, opened, read₁⟩ := bind_eq_ok.1 read
    obtain ⟨opening, rfl⟩ := expect_eq_ok.1 opened
    obtain ⟨readers, entered, read₂⟩ := bind_eq_ok.1 read₁
    obtain ⟨levels, rfl, sum, _⟩ := reads.enter entered
    obtain ⟨⟨operands, behind'⟩, argumentsRead, read₃⟩ := bind_eq_ok.1 read₂
    obtain ⟨front, given, rfl, givenDerive⟩ := arguments_sound sum argumentsRead
    obtain ⟨behind'', closed, read₄⟩ := bind_eq_ok.1 read₃
    obtain ⟨closing, rfl⟩ := expect_eq_ok.1 (foldr_following_eq_ok.1 closed)
    obtain ⟨tree', made, read₅⟩ := bind_eq_ok.1 read₄
    obtain ⟨rfl, rfl⟩ := Prod.mk.inj (Except.ok.inj read₅)
    exact ⟨⟨.name name, position⟩ :: ⟨.mark .opening, opening⟩ ::
        (front ++ [⟨.mark .closing, closing⟩]), .call name given, by simp,
      derives_call.2 ⟨levels, callable, operands, position, opening, closing, front, rfl, named, rfl,
        givenDerive, makeCall_eq_ok.1 made⟩⟩

theorem call_complete (reads : ReadsDeeper levels deeper) {name : List Char} {position : Nat}
    {tokens rest : List Token} {given : Derivation .arguments} {tree : Expression}
    (derives : Derives levels (.call name given) (⟨.name name, position⟩ :: tokens) tree) :
    Parser.call deeper name position (tokens ++ rest) = .ok (tree, rest) := by
  obtain ⟨levels, callable, operands, _, opening, closing, front, rfl, named, same, givenDerive,
    applied⟩ := derives_call.1 derives
  obtain ⟨_, rfl⟩ := List.cons.inj same
  obtain ⟨readers, entered, sum, _⟩ := reads.succ
  have argumentsRead : arguments readers.sum (front ++ ⟨.mark .closing, closing⟩ :: rest) =
      .ok (operands, ⟨.mark .closing, closing⟩ :: rest) :=
    arguments_complete sum givenDerive rfl
  have closed : operands.foldr following (expect .closing (.missingArgumentsClosing name)
      (⟨.mark .closing, closing⟩ :: rest)) = .ok rest :=
    foldr_following_eq_ok.2 (expect_eq_ok.2 ⟨closing, rfl⟩)
  have opened : expect .opening (.missingArgumentsOpening name)
      (⟨.mark .opening, opening⟩ :: (front ++ [⟨.mark .closing, closing⟩]) ++ rest) =
        .ok (front ++ ⟨.mark .closing, closing⟩ :: rest) :=
    expect_eq_ok.2 ⟨opening, by simp⟩
  unfold callable? at named
  simp only [Parser.call, named, opened, ok_bind, entered, argumentsRead, closed,
    makeCall_eq_ok.2 applied]
  rfl

theorem primary_reads (reads : ReadsDeeper levels deeper) :
    Reads levels .primary (Parser.primary deeper) where
  sound {tokens rest tree} read := by
    unfold Parser.primary at read
    split at read
    next => cases read
    next text position behind =>
      obtain ⟨rfl, rfl⟩ := Prod.mk.inj (Except.ok.inj read)
      exact ⟨[⟨.numeral text, position⟩], .numeral text, rfl, derives_numeral.2 ⟨position, rfl, rfl⟩⟩
    next text position behind => exact call_sound reads read
    next opening behind =>
      obtain ⟨readers, entered, read₁⟩ := bind_eq_ok.1 read
      obtain ⟨levels, rfl, sum, _⟩ := reads.enter entered
      obtain ⟨⟨tree', behind'⟩, innerRead, read₂⟩ := bind_eq_ok.1 read₁
      obtain ⟨front, inner, rfl, innerDerives⟩ := sum.sound innerRead
      obtain ⟨behind'', closed, read₃⟩ := bind_eq_ok.1 read₂
      obtain ⟨closing, rfl⟩ := expect_eq_ok.1 (following_eq_ok.1 closed)
      obtain ⟨rfl, rfl⟩ := Prod.mk.inj (Except.ok.inj read₃)
      exact ⟨⟨.mark .opening, opening⟩ :: (front ++ [⟨.mark .closing, closing⟩]), .group inner,
        by simp, derives_group.2 ⟨levels, opening, closing, front, tree', rfl, rfl, rfl, innerDerives⟩⟩
    next => split at read <;> cases read
  complete {front rest derivation tree} derives _ := by
    cases derivation with
    | numeral text =>
      obtain ⟨position, rfl, rfl⟩ := derives_numeral.1 derives
      rfl
    | call name given =>
      obtain ⟨_, _, _, position, _, _, _, _, _, rfl, _⟩ := derives_call.1 derives
      exact call_complete reads derives
    | group inner =>
      obtain ⟨levels, opening, closing, middle, tree', rfl, rfl, rfl, innerDerives⟩ :=
        derives_group.1 derives
      obtain ⟨readers, entered, sum, _⟩ := reads.succ
      have innerRead : readers.sum (middle ++ ⟨.mark .closing, closing⟩ :: rest) =
          .ok (tree', ⟨.mark .closing, closing⟩ :: rest) :=
        sum.complete innerDerives (Form.stops_mark .sum _ (by simp))
      have closed : expect .closing .missingClosing (⟨.mark .closing, closing⟩ :: rest) = .ok rest :=
        expect_eq_ok.2 ⟨closing, rfl⟩
      simp only [Parser.primary, List.cons_append, List.append_assoc, List.nil_append, entered,
        ok_bind, innerRead, following_eq_ok.2 closed]
      rfl

theorem power_reads (reads : ReadsDeeper levels deeper) :
    Reads levels .power (Parser.power deeper) where
  sound {tokens rest tree} read := by
    obtain ⟨⟨first, behind⟩, baseRead, read₁⟩ := bind_eq_ok.1 read
    obtain ⟨front, base, rfl, baseDerives⟩ := (primary_reads reads).sound baseRead
    dsimp only at read₁
    split at read₁
    next =>
      obtain ⟨rfl, rfl⟩ := Prod.mk.inj (Except.ok.inj read₁)
      exact ⟨front, .bare base, rfl, derives_bare.2 baseDerives⟩
    next operator behind' found =>
      obtain ⟨member, position, rfl⟩ := operator?_eq_some.1 found
      obtain rfl := List.mem_singleton.1 member
      obtain ⟨readers, entered, read₂⟩ := bind_eq_ok.1 read₁
      obtain ⟨levels, rfl, _, signed⟩ := reads.enter (following_eq_ok.1 entered)
      obtain ⟨⟨second, behind''⟩, exponentRead, read₃⟩ := bind_eq_ok.1 read₂
      obtain ⟨back, exponent, rfl, exponentDerives⟩ := signed.sound (following_eq_ok.1 exponentRead)
      obtain ⟨rfl, rfl⟩ := Prod.mk.inj (Except.ok.inj read₃)
      exact ⟨front ++ ⟨.mark (.operator .power), position⟩ :: back, .raised base exponent, by simp,
        derives_raised.2 ⟨levels, front, position, back, first, second, rfl, rfl, rfl, baseDerives,
          exponentDerives⟩⟩
  complete {front rest derivation tree} derives stops := by
    cases derivation with
    | bare base =>
      have baseRead : Parser.primary deeper (front ++ rest) = .ok (tree, rest) :=
        (primary_reads reads).complete (derives_bare.1 derives) (Form.stops_primary _)
      -- A bare base ends where no power follows, which is what stopping says.
      have none : operator? [.power] rest = none := operator?_eq_none stops
      simp only [Parser.power, baseRead, ok_bind, none]
      rfl
    | raised base exponent =>
      obtain ⟨levels, front, position, back, first, second, rfl, rfl, rfl, baseDerives,
        exponentDerives⟩ := derives_raised.1 derives
      obtain ⟨readers, entered, _, signed⟩ := reads.succ
      have baseRead : Parser.primary deeper (front ++ (⟨.mark (.operator .power), position⟩ :: back ++ rest)) =
          .ok (first, ⟨.mark (.operator .power), position⟩ :: back ++ rest) :=
        (primary_reads reads).complete baseDerives (Form.stops_primary _)
      have found : operator? [.power] (⟨.mark (.operator .power), position⟩ :: back ++ rest) =
          some (.power, back ++ rest) :=
        operator?_eq_some.2 ⟨by simp, position, rfl⟩
      have exponentRead := signed.complete exponentDerives stops
      simp only [Parser.power, List.append_assoc, baseRead, ok_bind, found,
        following_eq_ok.2 entered, following_eq_ok.2 exponentRead]
      rfl

theorem signed_reads (reads : ReadsDeeper levels deeper) :
    Reads levels .signed (Parser.signed deeper) where
  sound {tokens rest tree} read := by
    unfold Parser.signed at read
    split at read
    next =>
      obtain ⟨front, operand, rfl, operandDerives⟩ := (power_reads reads).sound read
      exact ⟨front, .unsigned operand, rfl, derives_unsigned.2 operandDerives⟩
    next operator behind found =>
      obtain ⟨member, position, rfl⟩ := operator?_eq_some.1 found
      obtain ⟨readers, entered, read₁⟩ := bind_eq_ok.1 read
      obtain ⟨levels, rfl, _, signed⟩ := reads.enter entered
      obtain ⟨⟨tree', behind'⟩, operandRead, read₂⟩ := bind_eq_ok.1 read₁
      obtain ⟨front, operand, rfl, operandDerives⟩ := signed.sound operandRead
      obtain ⟨rfl, rfl⟩ := Prod.mk.inj (Except.ok.inj read₂)
      have sign : operator = signOperator (operator = .subtract) := by
        simp only [List.mem_cons, List.not_mem_nil, or_false] at member
        rcases member with rfl | rfl <;> rfl
      exact ⟨⟨.mark (.operator operator), position⟩ :: front, .signed (operator = .subtract) operand,
        rfl, derives_signed.2 ⟨levels, position, front, tree', rfl, rfl, by rw [← sign],
          operandDerives⟩⟩
  complete {front rest derivation tree} derives stops := by
    cases derivation with
    | unsigned operand =>
      -- No power starts with a sign, so the reader does not take one.
      have none : operator? [.add, .subtract] (front ++ rest) = none := by
        refine operator?_eq_none fun operator _ same => ?_
        rw [List.map_append, ← derives.yield] at same
        obtain ⟨tail, same⟩ := List.head?_eq_some_iff.1 same
        exact operand.yield_power_ne operator _ tail same
      have read := (power_reads reads).complete (derives_unsigned.1 derives) stops
      simp only [Parser.signed, none, read]
    | signed negative operand =>
      obtain ⟨levels, position, behind, tree', rfl, rfl, rfl, operandDerives⟩ :=
        derives_signed.1 derives
      obtain ⟨readers, entered, _, signed⟩ := reads.succ
      have found : operator? [.add, .subtract]
          (⟨.mark (.operator (signOperator negative)), position⟩ :: behind ++ rest) =
            some (signOperator negative, behind ++ rest) :=
        operator?_eq_some.2 ⟨by cases negative <;> simp [signOperator], position, rfl⟩
      have operandRead := signed.complete operandDerives stops
      have sign : decide (signOperator negative = .subtract) = negative := by
        cases negative <;> rfl
      simp only [Parser.signed, found, entered, ok_bind, operandRead, sign]
      rfl

theorem product_reads (reads : ReadsDeeper levels deeper) :
    Reads levels (.chain .product) (Parser.product deeper) :=
  @chain_reads levels .product (Parser.signed deeper) (signed_reads reads)

theorem sum_reads (reads : ReadsDeeper levels deeper) : Reads levels .sum (Parser.sum deeper) :=
  @chain_reads levels .sum (Parser.product deeper) (product_reads reads)

theorem below_reads (levels : Nat) : ReadsDeeper levels (below levels) := by
  -- The readers of a level are built from those below it, so the levels carry the induction.
  induction levels with
  | zero => rfl
  | succ levels ih => exact ⟨readers (below levels), rfl, sum_reads ih, signed_reads ih⟩

end Forms

theorem parse_eq_ok_iff {tokens : List Token} {tree : Expression} :
    Parser.parse tokens = .ok tree ↔
      exists derivation : Derivation (.form .sum), Derives maxDepth derivation tokens tree := by
  have reads := sum_reads (below_reads maxDepth)
  constructor
  next =>
    intro parsed
    obtain ⟨⟨tree', rest⟩, read, ended⟩ := bind_eq_ok.1 parsed
    obtain ⟨front, derivation, rfl, derives⟩ := reads.sound read
    dsimp only at ended
    split at ended
    next =>
      obtain rfl := Except.ok.inj ended
      exact ⟨derivation, by simpa using derives⟩
    next => cases ended
  next =>
    rintro ⟨derivation, derives⟩
    -- Nothing is left behind the whole expression, and the end stops every form.
    have read : Parser.sum (below maxDepth) (tokens ++ []) = .ok (tree, []) :=
      reads.complete derives Form.sum.stops_nil
    rw [List.append_nil] at read
    simp only [Parser.parse, read, ok_bind]
    rfl

end Grammar

end SpokenArithmetic

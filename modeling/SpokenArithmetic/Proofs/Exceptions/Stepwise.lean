import SpokenArithmetic.Proofs.Exceptions.Attempts

set_option autoImplicit false

/-!
Evaluation step by step, as a machine does it: operands are evaluated as soon as they are read, tokens are
looked up by their index, every routine takes a frame of a stack, and each of these steps may fail. It gives
what reading an expression and evaluating it gives, and no step of it fails.
-/

namespace SpokenArithmetic

open Arithmetic

structure Report where
  failure : Failure Refusal
  expression? : Option String

/-- How an evaluation ends without a value. A step of arithmetic that fails, an index without an element and
a stack without a frame are no reports. -/
inductive Abort where
  | report (report : Report)
  | arithmetic (fault : Fault)
  | index
  | recursion

namespace Stepwise

def reported {A : Type} (failure : Failure Refusal) : Except Abort A :=
  .error (.report ⟨failure, none⟩)

def attempted {A : Type} (attempt : Except Fault A) : Except Abort A :=
  attempt.mapError .arithmetic

section Tokens

variable (tokens : List Token)

def token? (index : Nat) : Except Abort (Option Token) :=
  if index < tokens.length then
    match tokens[index]? with
    | some token => .ok (some token)
    | none => .error .index
  else .ok none

def operator? (among : List Operator) (index : Nat) : Except Abort (Option Operator) := do
  match <- token? tokens index with
  | some ⟨.mark (.operator operator), _⟩ => return if operator ∈ among then some operator else none
  | _ => return none

def expect (mark : Mark) (fault : Option Nat -> SyntaxFault) (index : Nat) : Except Abort Nat := do
  match <- token? tokens index with
  | none => reported (.fault (fault none))
  | some token =>
    if token.lexeme = .mark mark then return index + 1
    else reported (.fault (fault (some token.position)))

end Tokens

def enter (depth : Nat) : Except Abort Nat :=
  if Parser.maxDepth < depth + 1 then reported (.fault .tooDeep) else .ok (depth + 1)

abbrev Routine (A : Type) := (index : Nat) -> Except Abort (A × Nat)

section Loops

variable (library : Elementary) (tokens : List Token)

def chainFrom (among : List Operator) (operand : Routine Float) : (rounds : Nat) -> Float -> Routine Float
  | 0, left, index => .ok (left, index)
  | rounds + 1, left, index => do
    match <- operator? tokens among index with
    | none => return (left, index)
    | some operator =>
      let (right, index) <- operand (index + 1)
      let result <- attempted (Attempt.operate library operator left right)
      chainFrom among operand rounds result index

def chain (among : List Operator) (operand : Routine Float) : Routine Float :=
  fun index => do
    let (left, index) <- operand index
    chainFrom library tokens among operand (tokens.length - index) left index

def argumentsFrom (argument : Routine Float) : (rounds : Nat) -> Routine (List Float)
  | 0, index => .ok ([], index)
  | rounds + 1, index => do
    match <- token? tokens index with
    | some ⟨.mark .comma, _⟩ =>
      let (first, index) <- argument (index + 1)
      let (others, index) <- argumentsFrom argument rounds index
      return (first :: others, index)
    | _ => return ([], index)

def arguments (argument : Routine Float) : Routine (List Float) :=
  fun index => do
    match <- token? tokens index with
    | some ⟨.mark .closing, _⟩ => return ([], index)
    | _ =>
      let (first, index) <- argument index
      let (others, index) <- argumentsFrom tokens argument (tokens.length - index) index
      return (first :: others, index)

def applied (callable : Callable) (position : Nat) : List Float -> Except Abort Float
  | [base, exponent] =>
    match callable with
    | .power => attempted (Attempt.power library base exponent)
    | .apply _ => reported (.fault (.arity callable 2 position))
  | [argument] =>
    match callable with
    | .power => reported (.fault (.arity callable 1 position))
    | .apply function =>
      match if function = Function.fact then refuseFactorial? argument else none with
      | some reason => reported (.refused reason)
      | none => attempted (Attempt.apply library function argument)
  | given => reported (.fault (.arity callable given.length position))

end Loops

inductive Form where
  | sum
  | product
  | signed
  | power
  | primary
  | call (name : List Char) (position : Nat)

def run (library : Elementary) (tokens : List Token) : (stack : Nat) -> Form -> (depth : Nat) -> Routine Float
  | 0, _, _, _ => .error .recursion
  | stack + 1, .sum, depth, index =>
    chain library tokens [.add, .subtract] (run library tokens stack .product depth) index
  | stack + 1, .product, depth, index =>
    chain library tokens [.multiply, .divide, .modulo] (run library tokens stack .signed depth) index
  | stack + 1, .signed, depth, index => do
    match <- operator? tokens [.add, .subtract] index with
    | none => run library tokens stack .power depth index
    | some operator =>
      let deeper <- enter depth
      let (operand, index) <- run library tokens stack .signed deeper (index + 1)
      return (if operator = .subtract then -operand else operand, index)
  | stack + 1, .power, depth, index => do
    let (base, index) <- run library tokens stack .primary depth index
    match <- operator? tokens [.power] index with
    | none => return (base, index)
    | some _ =>
      let deeper <- enter depth
      let (exponent, index) <- run library tokens stack .signed deeper (index + 1)
      let result <- attempted (Attempt.power library base exponent)
      return (result, index)
  | stack + 1, .primary, depth, index => do
    match <- token? tokens index with
    | none => reported (.fault .endOfExpression)
    | some ⟨.numeral text, _⟩ =>
      let value <- attempted (Attempt.numeral text)
      return (value, index + 1)
    | some ⟨.name text, position⟩ => run library tokens stack (.call text position) depth (index + 1)
    | some ⟨.mark .opening, _⟩ =>
      let deeper <- enter depth
      let (inner, index) <- run library tokens stack .sum deeper (index + 1)
      let index <- expect tokens .closing .missingClosing index
      return (inner, index)
    | some ⟨.mark mark, position⟩ =>
      if mark.isRelation then reported (.fault (.relation mark position))
      else reported (.fault (.unexpected (.mark mark) position))
  | stack + 1, .call name position, depth, index =>
    match Callable.ofName? (String.ofList name) with
    | none =>
      if (Function.ofName? (String.ofList name)).isSome then reported (.fault (.bareFunction name position))
      else reported (.fault (.unknownName name position))
    | some callable => do
      let index <- expect tokens .opening (.missingArgumentsOpening name) index
      let deeper <- enter depth
      let (given, index) <- arguments tokens (run library tokens stack .sum deeper) index
      let index <- expect tokens .closing (.missingArgumentsClosing name) index
      let result <- applied library callable position given
      return (result, index)

def parse (library : Elementary) (stack : Nat) (tokens : List Token) : Except Abort Float :=
  if tokens.isEmpty then reported (.empty .tokens)
  else do
    let (result, index) <- run library tokens stack .sum 0 0
    match <- token? tokens index with
    | none => return result
    | some token => reported (.fault (Parser.excess token))

open Grammar

section Lookup

variable {tokens rest behind : List Token} {token : Token}

theorem token?_eq (suffix : rest <:+ tokens) : token? tokens (tokens.length - rest.length) = .ok rest.head? := by
  obtain ⟨front, rfl⟩ := suffix
  have index : (front ++ rest).length - rest.length = front.length := by simp
  rw [index, token?]
  cases rest with
  | nil => simp
  | cons token behind => simp

theorem next_index (suffix : token :: behind <:+ tokens) :
    tokens.length - (token :: behind).length + 1 = tokens.length - behind.length := by
  have shorter := suffix.length_le
  rw [List.length_cons] at shorter ⊢
  omega

theorem rounds_eq (suffix : rest <:+ tokens) : tokens.length - (tokens.length - rest.length) = rest.length := by
  have shorter := suffix.length_le
  omega

theorem operator?_eq (among : List Operator) (suffix : rest <:+ tokens) :
    operator? tokens among (tokens.length - rest.length) = .ok ((Parser.operator? among rest).map Prod.fst) := by
  rw [operator?, token?_eq suffix, ok_bind]
  unfold Parser.operator?
  cases rest with
  | nil => rfl
  | cons token behind =>
    obtain ⟨lexeme, position⟩ := token
    dsimp only [List.head?_cons]
    split
    next operator _ same =>
      obtain ⟨rfl, rfl⟩ := Token.mk.inj (Option.some.inj same)
      dsimp only
      split <;> rfl
    next other =>
      split
      next same =>
        obtain ⟨first, _⟩ := List.cons.inj same
        exact absurd (congrArg some first) (other _ _)
      next => rfl

theorem expect_cases (mark : Mark) (fault : Option Nat -> SyntaxFault) (suffix : rest <:+ tokens) :
    (exists behind, behind <:+ tokens ∧ Parser.expect mark fault rest = .ok behind ∧
      expect tokens mark fault (tokens.length - rest.length) = .ok (tokens.length - behind.length)) ∨
    exists found, Parser.expect mark fault rest = Parser.fail found ∧
      expect tokens mark fault (tokens.length - rest.length) = reported (.fault found) := by
  rw [expect, token?_eq suffix, ok_bind]
  cases rest with
  | nil => exact .inr ⟨fault none, rfl, rfl⟩
  | cons token behind =>
    have behindSuffix : behind <:+ tokens := (List.suffix_cons _ behind).trans suffix
    dsimp only [List.head?_cons, Parser.expect]
    rw [next_index suffix]
    split
    next => exact .inl ⟨behind, behindSuffix, rfl, rfl⟩
    next => exact .inr ⟨fault (some token.position), rfl, rfl⟩

end Lookup

section Settling

variable (library : Elementary) (tokens : List Token) {B C B' C' : Type}

/-- What an evaluation step by step makes of what a reader reads. The operands that were complete before a
fault have been evaluated by then. -/
def settle (evaluate : C -> Except Refusal B) (read : Except Parser.Failure (C × List Token)) :
    Except Abort (B × Nat) :=
  match read with
  | .ok (content, rest) =>
    match evaluate content with
    | .ok value => .ok (value, tokens.length - rest.length)
    | .error reason => reported (.refused reason)
  | .error failure =>
    match Token.refusal? (meaning library) failure.complete with
    | some reason => reported (.refused reason)
    | none => reported (.fault failure.fault)

variable {library tokens} {evaluate : C -> Except Refusal B} {evaluate' : C' -> Except Refusal B'}
  {operand : Expression} {value : Float} {reason : Refusal}

theorem settle_bind {read : Except Parser.Failure (C × List Token)} {next : B × Nat -> Except Abort (B' × Nat)}
    {next' : C × List Token -> Except Parser.Failure (C' × List Token)}
    (refused : forall {content rest reason}, read = .ok (content, rest) -> evaluate content = .error reason ->
      settle library tokens evaluate' (next' (content, rest)) = reported (.refused reason))
    (accepted : forall {content rest value}, read = .ok (content, rest) -> evaluate content = .ok value ->
      next (value, tokens.length - rest.length) = settle library tokens evaluate' (next' (content, rest))) :
    settle library tokens evaluate read >>= next = settle library tokens evaluate' (read >>= next') := by
  cases read with
  | error failure =>
    change settle library tokens evaluate (.error failure) >>= next = settle library tokens evaluate' (.error failure)
    unfold settle
    dsimp only
    split <;> rfl
  | ok pair =>
    obtain ⟨content, rest⟩ := pair
    rw [ok_bind]
    unfold settle
    dsimp only
    cases found : evaluate content with
    | error reason => exact (refused rfl found).symm
    | ok value => exact accepted rfl found

theorem settle_return {tree : Expression} {rest : List Token} (accepted : tree.value (meaning library) = .ok value) :
    settle library tokens (Expression.value (meaning library)) (pure (tree, rest)) =
      .ok (value, tokens.length - rest.length) := by
  simp only [pure, Except.pure, settle, accepted]

theorem settle_return_refused {tree : Expression} {rest : List Token}
    (refused : tree.value (meaning library) = .error reason) :
    settle library tokens (Expression.value (meaning library)) (pure (tree, rest)) = reported (.refused reason) := by
  simp only [pure, Except.pure, settle, refused]

theorem settle_following (accepted : operand.value (meaning library) = .ok value)
    (read : Except Parser.Failure (C × List Token)) :
    settle library tokens evaluate (Parser.following operand read) = settle library tokens evaluate read := by
  cases read with
  | ok => rfl
  | error failure => simp [Parser.following, Except.mapError, settle, Token.refusal?, accepted]

theorem settle_refused (refused : operand.value (meaning library) = .error reason)
    (failure : Parser.Failure) :
    settle library tokens evaluate (Parser.following operand (.error failure)) = reported (.refused reason) := by
  simp [Parser.following, Except.mapError, settle, Token.refusal?, refused]

end Settling

def Follows (library : Elementary) (tokens : List Token) {B C : Type} (evaluate : C -> Except Refusal B)
    (reader : Parser.Reader C) (routine : Routine B) : Prop :=
  forall {rest}, rest <:+ tokens ->
    routine (tokens.length - rest.length) = settle library tokens evaluate (reader rest)

section Loops

variable {library : Elementary} {tokens : List Token} {levels : Nat}

theorem value_binary (operator : Operator) (left right : Expression) :
    (Expression.binary operator left right).value (meaning library) = do
      let first <- left.value (meaning library)
      let second <- right.value (meaning library)
      return operate library operator first second := rfl

theorem chainFrom_refused {among : List Operator} {reader : Parser.Reader Expression} {rounds : Nat}
    {left : Expression} {reason : Refusal} (refused : left.value (meaning library) = .error reason)
    (rest : List Token) :
    settle library tokens (Expression.value (meaning library)) (Parser.chainFrom among reader rounds left rest) =
      reported (.refused reason) := by
  have ends (rest : List Token) : settle library tokens (Expression.value (meaning library)) (.ok (left, rest)) =
      reported (.refused reason) := by
    simp only [settle, refused]
  induction rounds generalizing left rest with
  | zero => exact ends rest
  | succ rounds ih =>
    rw [Parser.chainFrom]
    split
    next => exact ends rest
    next operator behind found =>
      cases read : reader behind with
      | error failure => exact settle_refused refused failure
      | ok pair =>
        obtain ⟨right, behind'⟩ := pair
        have both : (Expression.binary operator left right).value (meaning library) = .error reason := by
          rw [value_binary, refused]
          rfl
        exact ih both behind' fun rest => by simp only [settle, both]

variable {tier : Tier} {reader : Parser.Reader Expression} {routine : Routine Float}

theorem suffix_of_reads {form : Grammar.Form} (reads : Reads levels form reader) {rest behind : List Token}
    {tree : Expression} (read : reader rest = .ok (tree, behind)) : behind <:+ rest := by
  obtain ⟨front, _, rfl, _⟩ := reads.sound read
  exact List.suffix_append front behind

theorem chainFrom_follows (reads : Reads levels tier.operand reader)
    (follows : Follows library tokens (Expression.value (meaning library)) reader routine) {rounds : Nat}
    {left : Expression} {value : Float} (first : left.value (meaning library) = .ok value) {rest : List Token}
    (suffix : rest <:+ tokens) :
    chainFrom library tokens tier.operators routine rounds value (tokens.length - rest.length) =
      settle library tokens (Expression.value (meaning library))
        (Parser.chainFrom tier.operators reader rounds left rest) := by
  induction rounds generalizing left value rest with
  | zero => simp only [chainFrom, Parser.chainFrom, settle, first]
  | succ rounds ih =>
    rw [chainFrom, Parser.chainFrom, operator?_eq tier.operators suffix, ok_bind]
    cases found : Parser.operator? tier.operators rest with
    | none => simp only [Option.map_none, settle, first]; rfl
    | some pair =>
      obtain ⟨operator, behind⟩ := pair
      obtain ⟨_, position, rfl⟩ := operator?_eq_some.1 found
      have behindSuffix : behind <:+ tokens := (List.suffix_cons _ behind).trans suffix
      dsimp only [Option.map_some]
      rw [next_index suffix, follows behindSuffix, ← settle_following first]
      apply settle_bind
      next =>
        intro right rest reason read refused
        have both : (Expression.binary operator left right).value (meaning library) = .error reason := by
          rw [value_binary, first, refused]
          rfl
        exact chainFrom_refused both rest
      next =>
        intro right rest result read second
        have both : (Expression.binary operator left right).value (meaning library) =
            .ok (operate library operator value result) := by
          rw [value_binary, first, second]
          rfl
        dsimp only
        rw [operate_eq]
        exact ih both ((suffix_of_reads reads (following_eq_ok.1 read)).trans behindSuffix)

theorem chain_follows (reads : Reads levels tier.operand reader)
    (follows : Follows library tokens (Expression.value (meaning library)) reader routine) :
    Follows library tokens (Expression.value (meaning library)) (Parser.chain tier.operators reader)
      (chain library tokens tier.operators routine) := by
  intro rest suffix
  rw [chain, Parser.chain, follows suffix]
  apply settle_bind
  next =>
    intro left behind reason _ refused
    exact chainFrom_refused refused behind
  next =>
    intro left behind value read first
    have behindSuffix := (suffix_of_reads reads read).trans suffix
    dsimp only
    rw [rounds_eq behindSuffix]
    exact chainFrom_follows reads follows first behindSuffix

def values (library : Elementary) : List Expression -> Except Refusal (List Float)
  | [] => .ok []
  | first :: others => do
    let value <- first.value (meaning library)
    let values <- values library others
    return value :: values

theorem values_cons_eq_ok {first : Expression} {others : List Expression} {found : List Float} :
    values library (first :: others) = .ok found ↔
      exists value rest, first.value (meaning library) = .ok value ∧ values library others = .ok rest ∧
        found = value :: rest := by
  rw [values]
  cases first.value (meaning library) with
  | error reason => simp [Bind.bind, Except.bind]
  | ok value => cases values library others <;> simp [Bind.bind, Except.bind, pure, Except.pure, eq_comm]

theorem values_cons_eq_error {first : Expression} {others : List Expression} {reason : Refusal} :
    values library (first :: others) = .error reason ↔
      first.value (meaning library) = .error reason ∨
        exists value, first.value (meaning library) = .ok value ∧ values library others = .error reason := by
  rw [values]
  cases first.value (meaning library) with
  | error other => simp [Bind.bind, Except.bind]
  | ok value => cases values library others <;> simp [Bind.bind, Except.bind, pure, Except.pure]

theorem length_values {given : List Expression} {found : List Float} (evaluated : values library given = .ok found) :
    found.length = given.length := by
  induction given generalizing found with
  | nil =>
    obtain rfl := Except.ok.inj evaluated
    rfl
  | cons first others ih =>
    obtain ⟨value, rest, _, behind, rfl⟩ := values_cons_eq_ok.1 evaluated
    exact congrArg Nat.succ (ih behind)

theorem values_eq_ok {given : List Expression} {found : List Float} (accepted : values library given = .ok found) :
    Token.refusal? (meaning library) given = none := by
  induction given generalizing found with
  | nil => rfl
  | cons first others ih =>
    obtain ⟨value, rest, first, others, _⟩ := values_cons_eq_ok.1 accepted
    simp only [Token.refusal?, first]
    exact ih others

theorem values_eq_error {given : List Expression} {reason : Refusal} (refused : values library given = .error reason) :
    Token.refusal? (meaning library) given = some reason := by
  induction given with
  | nil => cases refused
  | cons first others ih =>
    rcases values_cons_eq_error.1 refused with first | ⟨value, first, others⟩
    next => simp only [Token.refusal?, first]
    next =>
      simp only [Token.refusal?, first]
      exact ih others

section Others

variable {first : Expression} (read : Except Parser.Failure (List Expression × List Token))

theorem settle_others {value : Float} (accepted : first.value (meaning library) = .ok value) :
    (do
      let (others, index) <- settle library tokens (values library) read
      return (value :: others, index)) =
    settle library tokens (values library) (do
      let (others, rest) <- Parser.following first read
      return (first :: others, rest)) := by
  rw [← settle_following accepted]
  apply settle_bind
  next =>
    intro others rest reason _ refused
    have all : values library (first :: others) = .error reason := by
      rw [values, accepted, ok_bind, refused]
      rfl
    simp only [pure, Except.pure, settle, all]
  next =>
    intro others rest found _ evaluated
    have all : values library (first :: others) = .ok (value :: found) := by
      rw [values, accepted, ok_bind, evaluated]
      rfl
    simp only [pure, Except.pure, settle, all]

theorem settle_others_refused {reason : Refusal} (refused : first.value (meaning library) = .error reason) :
    settle library tokens (values library) (do
      let (others, rest) <- Parser.following first read
      return (first :: others, rest)) = reported (.refused reason) := by
  cases read with
  | error failure => exact settle_refused refused failure
  | ok pair =>
    have all : values library (first :: pair.1) = .error reason := by
      rw [values, refused]
      rfl
    change settle library tokens (values library) (.ok (first :: pair.1, pair.2)) = _
    simp only [settle, all]

end Others

theorem argumentsFrom_follows (reads : Reads levels .sum reader)
    (follows : Follows library tokens (Expression.value (meaning library)) reader routine) {rounds : Nat}
    {rest : List Token} (suffix : rest <:+ tokens) :
    argumentsFrom tokens routine rounds (tokens.length - rest.length) =
      settle library tokens (values library) (Parser.argumentsFrom reader rounds rest) := by
  induction rounds generalizing rest with
  | zero => simp only [argumentsFrom, Parser.argumentsFrom, settle, values]
  | succ rounds ih =>
    rw [argumentsFrom, token?_eq suffix, ok_bind]
    unfold Parser.argumentsFrom
    split
    next position behind same =>
      cases rest with
      | nil => cases same
      | cons token behind =>
        obtain rfl := Option.some.inj same
        have behindSuffix : behind <:+ tokens := (List.suffix_cons _ behind).trans suffix
        dsimp only
        rw [next_index suffix, follows behindSuffix]
        apply settle_bind
        next =>
          intro first rest reason _ refused
          exact settle_others_refused _ refused
        next =>
          intro first rest value read accepted
          dsimp only
          rw [ih ((suffix_of_reads reads read).trans behindSuffix)]
          exact settle_others _ accepted
    next other =>
      split
      next => exact absurd rfl (other _)
      next => rfl

theorem arguments_follows (reads : Reads levels .sum reader)
    (follows : Follows library tokens (Expression.value (meaning library)) reader routine) :
    Follows library tokens (values library) (Parser.arguments reader) (arguments tokens routine) := by
  intro rest suffix
  rw [arguments, token?_eq suffix, ok_bind]
  unfold Parser.arguments
  split
  next position same =>
    cases rest with
    | nil => cases same
    | cons token behind =>
      obtain rfl := Option.some.inj same
      rfl
  next other =>
    split
    next => exact absurd rfl (other _)
    next =>
      rw [follows suffix]
      apply settle_bind
      next =>
        intro first behind reason _ refused
        exact settle_others_refused _ refused
      next =>
        intro first behind value read accepted
        have behindSuffix := (suffix_of_reads reads read).trans suffix
        dsimp only
        rw [rounds_eq behindSuffix, argumentsFrom_follows reads follows behindSuffix]
        exact settle_others _ accepted

end Loops

section Calls

variable {library : Elementary} {tokens : List Token} {given : List Expression} {reason : Refusal}

def accepted {A : Type} (evaluated : Except Refusal A) : Except Abort A :=
  evaluated.mapError fun reason => .report ⟨.refused reason, none⟩

theorem foldr_following_fail {A : Type} (given : List Expression) (fault : SyntaxFault) :
    given.foldr Parser.following (Parser.fail fault : Except Parser.Failure A) = .error ⟨fault, given⟩ := by
  induction given with
  | nil => rfl
  | cons operand rest ih =>
    rw [List.foldr_cons, ih]
    rfl

theorem call_eq (roots : FiniteRoots library) (function : Function) (argument : Float) :
    (match if function = Function.fact then refuseFactorial? argument else none with
      | some reason => reported (.refused reason)
      | none => attempted (Attempt.apply library function argument)) =
      accepted ((meaning library).call function argument) := by
  have refuses : (meaning library).refuse? argument = refuseFactorial? argument := rfl
  rw [Meaning.call, refuses]
  cases allowed : if function = Function.fact then refuseFactorial? argument else none with
  | some reason => rfl
  | none =>
    have applies := @apply_eq library roots function argument fun factorial => by rwa [if_pos factorial] at allowed
    dsimp only
    rw [applies]
    rfl

theorem makeCall_arity {callable : Callable} (position : Nat) (other : given.length ≠ callable.arity) :
    Parser.makeCall callable position given = .error ⟨.arity callable given.length position, given⟩ := by
  unfold Parser.makeCall
  split
  next => cases callable <;> simp [Callable.arity] at other ⊢
  next => cases callable <;> simp [Callable.arity] at other ⊢
  next => rfl

theorem applied_arity {callable : Callable} {found : List Float} (position : Nat)
    (other : found.length ≠ callable.arity) :
    applied library callable position found = reported (.fault (.arity callable found.length position)) := by
  unfold applied
  split
  next => cases callable <;> simp [Callable.arity] at other ⊢
  next => cases callable <;> simp [Callable.arity] at other ⊢
  next => rfl

theorem applied_eq (roots : FiniteRoots library) {callable : Callable} (position : Nat)
    (arity : given.length = callable.arity) :
    exists tree, Parser.makeCall callable position given = .ok tree ∧
      (forall {reason}, values library given = .error reason -> tree.value (meaning library) = .error reason) ∧
      forall {found}, values library given = .ok found ->
        applied library callable position found = accepted (tree.value (meaning library)) := by
  cases callable with
  | power =>
    obtain ⟨base, exponent, rfl⟩ : exists base exponent, given = [base, exponent] :=
      match given, arity with
      | [base, exponent], _ => ⟨base, exponent, rfl⟩
    refine ⟨_, rfl, fun refused => ?_, fun evaluated => ?_⟩
    next =>
      rw [Expression.value]
      rcases values_cons_eq_error.1 refused with first | ⟨value, first, rest⟩
      next => rw [first]; rfl
      next =>
        rcases values_cons_eq_error.1 rest with second | ⟨_, _, none⟩
        next => rw [first, ok_bind, second]; rfl
        next => cases none
    next =>
      obtain ⟨first, _, firstValue, rest, rfl⟩ := values_cons_eq_ok.1 evaluated
      obtain ⟨second, _, secondValue, none, rfl⟩ := values_cons_eq_ok.1 rest
      obtain rfl := Except.ok.inj none
      rw [Expression.value, firstValue, ok_bind, secondValue, ok_bind]
      dsimp only [applied]
      rw [power_eq]
      rfl
  | apply function =>
    obtain ⟨argument, rfl⟩ := List.length_eq_one_iff.1 arity
    refine ⟨_, rfl, fun refused => ?_, fun evaluated => ?_⟩
    next =>
      rw [Expression.value]
      rcases values_cons_eq_error.1 refused with first | ⟨_, _, none⟩
      next => rw [first]; rfl
      next => cases none
    next =>
      obtain ⟨first, _, firstValue, none, rfl⟩ := values_cons_eq_ok.1 evaluated
      obtain rfl := Except.ok.inj none
      rw [Expression.value, firstValue, ok_bind, ← call_eq roots]
      rfl

def readClosed (callable : Callable) (name : List Char) (position : Nat) (given : List Expression) :
    Parser.Reader Expression :=
  fun rest => do
    let rest <- given.foldr Parser.following (Parser.expect .closing (.missingArgumentsClosing name) rest)
    let tree <- Parser.makeCall callable position given
    return (tree, rest)

def closed (library : Elementary) (tokens : List Token) (callable : Callable) (name : List Char) (position : Nat)
    (given : List Float) : Routine Float :=
  fun index => do
    let index <- expect tokens .closing (.missingArgumentsClosing name) index
    let result <- applied library callable position given
    return (result, index)

variable {rest : List Token} (callable : Callable) (name : List Char) (position : Nat)

theorem readClosed_refused (roots : FiniteRoots library) (refused : values library given = .error reason)
    (suffix : rest <:+ tokens) :
    settle library tokens (Expression.value (meaning library)) (readClosed callable name position given rest) =
      reported (.refused reason) := by
  have first := values_eq_error refused
  rcases expect_cases .closing (.missingArgumentsClosing name) suffix with ⟨behind, _, read, _⟩ | ⟨fault, read, _⟩
  next =>
    rw [readClosed, read, foldr_following_eq_ok.2 rfl, ok_bind]
    by_cases arity : given.length = callable.arity
    next =>
      obtain ⟨tree, made, value, _⟩ := applied_eq roots position arity
      rw [made]
      change settle library tokens (Expression.value (meaning library)) (.ok (tree, behind)) = _
      simp only [settle, value refused]
    next =>
      rw [makeCall_arity position arity]
      change settle library tokens (Expression.value (meaning library)) (.error ⟨_, given⟩) = _
      simp only [settle, first]
  next =>
    rw [readClosed, read, foldr_following_fail]
    change settle library tokens (Expression.value (meaning library)) (.error ⟨_, given⟩) = _
    simp only [settle, first]

theorem closed_eq (roots : FiniteRoots library) {found : List Float} (evaluated : values library given = .ok found)
    (suffix : rest <:+ tokens) :
    closed library tokens callable name position found (tokens.length - rest.length) =
      settle library tokens (Expression.value (meaning library)) (readClosed callable name position given rest) := by
  have none := values_eq_ok evaluated
  rcases expect_cases .closing (.missingArgumentsClosing name) suffix with
    ⟨behind, _, read, expected⟩ | ⟨fault, read, expected⟩
  next =>
    rw [closed, readClosed, read, expected, foldr_following_eq_ok.2 rfl, ok_bind, ok_bind]
    by_cases arity : given.length = callable.arity
    next =>
      obtain ⟨tree, made, _, value⟩ := applied_eq roots position arity
      rw [made, value evaluated]
      change _ = settle library tokens (Expression.value (meaning library)) (.ok (tree, behind))
      unfold settle
      dsimp only
      cases tree.value (meaning library) <;> rfl
    next =>
      rw [makeCall_arity position arity, applied_arity position (by rwa [length_values evaluated]),
        length_values evaluated]
      change _ = settle library tokens (Expression.value (meaning library)) (.error ⟨_, given⟩)
      simp only [settle, none]
      rfl
  next =>
    rw [closed, readClosed, read, expected, foldr_following_fail]
    change _ = settle library tokens (Expression.value (meaning library)) (.error ⟨_, given⟩)
    simp only [settle, none]
    rfl

end Calls

section Forms

variable {library : Elementary} {tokens : List Token} {levels depth : Nat}

theorem enter_eq (total : depth + levels = Parser.maxDepth) :
    enter depth = match levels with
      | 0 => reported (.fault .tooDeep)
      | _ + 1 => .ok (depth + 1) := by
  unfold enter
  cases levels with
  | zero => rw [if_pos (by omega)]
  | succ levels => rw [if_neg (by omega)]

variable (library tokens)

def FollowsDeeper (levels depth : Nat) : Prop :=
  forall {levels' stack}, levels = levels' + 1 -> 6 * levels <= stack ->
    Follows library tokens (Expression.value (meaning library)) (Parser.sum (Parser.below levels'))
      (run library tokens stack .sum (depth + 1)) ∧
    Follows library tokens (Expression.value (meaning library)) (Parser.signed (Parser.below levels'))
      (run library tokens stack .signed (depth + 1))

variable {library tokens} {stack : Nat}

theorem call_follows (roots : FiniteRoots library) (total : depth + levels = Parser.maxDepth)
    (deeper : FollowsDeeper library tokens levels depth) (enough : 6 * levels <= stack) (name : List Char)
    (position : Nat) :
    Follows library tokens (Expression.value (meaning library)) (Parser.call (Parser.below levels) name position)
      (run library tokens (stack + 1) (.call name position) depth) := by
  intro rest suffix
  rw [run, Parser.call]
  cases Callable.ofName? (String.ofList name) with
  | none =>
    dsimp only
    split <;> rfl
  | some callable =>
    dsimp only
    rcases expect_cases .opening (.missingArgumentsOpening name) suffix with
      ⟨behind, behindSuffix, opened, expected⟩ | ⟨fault, missing, expected⟩
    next =>
      rw [opened, expected, ok_bind, ok_bind, enter_eq total]
      cases levels with
      | zero => rfl
      | succ levels =>
        have reads := sum_reads (below_reads levels)
        have follows := arguments_follows reads (deeper rfl enough).1 behindSuffix
        change (arguments tokens (run library tokens stack .sum (depth + 1)) _ >>= _) =
          settle library tokens _ (Parser.arguments (Parser.sum (Parser.below levels)) behind >>= _)
        rw [follows]
        have suffixes {given : List Expression} {rest : List Token}
            (read : Parser.arguments (Parser.sum (Parser.below levels)) behind = .ok (given, rest)) :
            rest <:+ tokens := by
          obtain ⟨front, _, rfl, _⟩ := arguments_sound reads read
          exact (List.suffix_append front rest).trans behindSuffix
        apply settle_bind
        next => exact fun read refused => readClosed_refused callable name position roots refused (suffixes read)
        next => exact fun read evaluated => closed_eq callable name position roots evaluated (suffixes read)
    next =>
      rw [missing, expected]
      rfl

def Decimals (tokens : List Token) : Prop :=
  forall text position, ⟨.numeral text, position⟩ ∈ tokens -> exists value, Number.unsignedDecimal? text = some value

theorem primary_follows (roots : FiniteRoots library) (decimals : Decimals tokens)
    (total : depth + levels = Parser.maxDepth) (deeper : FollowsDeeper library tokens levels depth)
    (enough : 6 * levels + 2 <= stack) :
    Follows library tokens (Expression.value (meaning library)) (Parser.primary (Parser.below levels))
      (run library tokens stack .primary depth) := by
  obtain ⟨stack, rfl⟩ : exists stack', stack = stack' + 1 + 1 := ⟨stack - 2, by omega⟩
  intro rest suffix
  rw [run, token?_eq suffix, ok_bind]
  cases rest with
  | nil => rfl
  | cons token behind =>
    obtain ⟨lexeme, position⟩ := token
    have behindSuffix : behind <:+ tokens := (List.suffix_cons _ behind).trans suffix
    cases lexeme with
    | numeral text =>
      obtain ⟨value, decimal⟩ := decimals text position (suffix.mem (List.mem_cons_self ..))
      dsimp only [List.head?_cons]
      rw [next_index suffix, @numeral_eq library text value decimal]
      rfl
    | name text =>
      dsimp only [List.head?_cons, Parser.primary]
      rw [next_index suffix]
      exact call_follows roots total deeper (by omega) text position behindSuffix
    | mark mark =>
      cases mark with
      | opening =>
        dsimp only [List.head?_cons, Parser.primary]
        rw [enter_eq total, next_index suffix]
        cases levels with
        | zero => rfl
        | succ levels =>
          have reads := sum_reads (below_reads levels)
          have follows := (@deeper levels (stack + 1) rfl (by omega)).1 behindSuffix
          change (run library tokens (stack + 1) .sum (depth + 1) _ >>= _) =
            settle library tokens _ (Parser.sum (Parser.below levels) behind >>= _)
          rw [follows]
          apply settle_bind
          next =>
            intro inner rest reason _ refused
            dsimp only
            cases Parser.expect .closing .missingClosing rest with
            | error failure => exact settle_refused refused failure
            | ok behind => exact settle_return_refused refused
          next =>
            intro inner rest value read evaluated
            have restSuffix := (suffix_of_reads reads read).trans behindSuffix
            dsimp only
            rcases expect_cases .closing .missingClosing restSuffix with
              ⟨behind, _, closed, expected⟩ | ⟨fault, missing, expected⟩
            next =>
              rw [closed, expected]
              exact (settle_return evaluated).symm
            next =>
              rw [missing, expected]
              exact (settle_following evaluated (Parser.fail fault)).symm
      | _ => rfl

theorem power_follows (roots : FiniteRoots library) (decimals : Decimals tokens)
    (total : depth + levels = Parser.maxDepth) (deeper : FollowsDeeper library tokens levels depth)
    (enough : 6 * levels + 3 <= stack) :
    Follows library tokens (Expression.value (meaning library)) (Parser.power (Parser.below levels))
      (run library tokens stack .power depth) := by
  obtain ⟨stack, rfl⟩ := Nat.exists_eq_add_one_of_ne_zero (show stack ≠ 0 by omega)
  have primary := @primary_follows library tokens levels depth stack roots decimals total deeper (by omega)
  intro rest suffix
  rw [run, Parser.power, primary suffix]
  apply settle_bind
  next =>
    intro base behind reason read refused
    dsimp only
    split
    next => exact settle_return_refused refused
    next operator rest found =>
      cases levels with
      | zero => exact settle_refused refused _
      | succ levels =>
        change settle library tokens _
          (Parser.following base (Parser.signed (Parser.below levels) rest) >>= _) = _
        cases Parser.signed (Parser.below levels) rest with
        | error failure => exact settle_refused refused failure
        | ok pair => exact settle_return_refused (by rw [Expression.value, refused]; rfl)
  next =>
    intro base behind value read first
    have behindSuffix := (suffix_of_reads (primary_reads (below_reads levels)) read).trans suffix
    dsimp only
    rw [operator?_eq _ behindSuffix, ok_bind]
    cases found : Parser.operator? [.power] behind with
    | none => exact (settle_return first).symm
    | some pair =>
      obtain ⟨operator, rest⟩ := pair
      obtain ⟨_, position, rfl⟩ := operator?_eq_some.1 found
      have restSuffix : rest <:+ tokens := (List.suffix_cons _ rest).trans behindSuffix
      dsimp only [Option.map_some]
      rw [enter_eq total, next_index behindSuffix]
      cases levels with
      | zero =>
        change reported (.fault .tooDeep) = settle library tokens _ (Parser.following base (Parser.fail .tooDeep))
        rw [settle_following first]
        rfl
      | succ levels =>
        have follows := (@deeper levels stack rfl (by omega)).2 restSuffix
        change (run library tokens stack .signed (depth + 1) _ >>= _) =
          settle library tokens _ (Parser.following base (Parser.signed (Parser.below levels) rest) >>= _)
        rw [follows, ← settle_following first]
        apply settle_bind
        next =>
          intro exponent rest reason _ refused
          exact settle_return_refused (by rw [Expression.value, first, ok_bind, refused]; rfl)
        next =>
          intro exponent rest value' _ second
          dsimp only
          rw [power_eq]
          exact (settle_return (by rw [Expression.value, first, ok_bind, second]; rfl)).symm

theorem signed_follows (roots : FiniteRoots library) (decimals : Decimals tokens)
    (total : depth + levels = Parser.maxDepth) (deeper : FollowsDeeper library tokens levels depth)
    (enough : 6 * levels + 4 <= stack) :
    Follows library tokens (Expression.value (meaning library)) (Parser.signed (Parser.below levels))
      (run library tokens stack .signed depth) := by
  obtain ⟨stack, rfl⟩ := Nat.exists_eq_add_one_of_ne_zero (show stack ≠ 0 by omega)
  have power := @power_follows library tokens levels depth stack roots decimals total deeper (by omega)
  intro rest suffix
  rw [run, Parser.signed, operator?_eq _ suffix, ok_bind]
  cases found : Parser.operator? [.add, .subtract] rest with
  | none => exact power suffix
  | some pair =>
    obtain ⟨operator, behind⟩ := pair
    obtain ⟨_, position, rfl⟩ := operator?_eq_some.1 found
    have behindSuffix : behind <:+ tokens := (List.suffix_cons _ behind).trans suffix
    dsimp only [Option.map_some]
    rw [enter_eq total, next_index suffix]
    cases levels with
    | zero => rfl
    | succ levels =>
      have follows := (@deeper levels stack rfl (by omega)).2 behindSuffix
      change (run library tokens stack .signed (depth + 1) _ >>= _) =
        settle library tokens _ (Parser.signed (Parser.below levels) behind >>= _)
      rw [follows]
      apply settle_bind
      next =>
        intro operand rest reason _ refused
        exact settle_return_refused (by rw [Expression.value, refused]; rfl)
      next =>
        intro operand rest value _ evaluated
        refine (settle_return ?_).symm
        rw [Expression.value, evaluated, ok_bind]
        by_cases negative : operator = .subtract <;> simp [negative] <;> rfl

theorem sum_follows (roots : FiniteRoots library) (decimals : Decimals tokens)
    (total : depth + levels = Parser.maxDepth) (deeper : FollowsDeeper library tokens levels depth)
    (enough : 6 * levels + 6 <= stack) :
    Follows library tokens (Expression.value (meaning library)) (Parser.sum (Parser.below levels))
      (run library tokens stack .sum depth) := by
  obtain ⟨stack, rfl⟩ : exists stack', stack = stack' + 1 + 1 := ⟨stack - 2, by omega⟩
  have signed := @signed_follows library tokens levels depth stack roots decimals total deeper (by omega)
  have product : Follows library tokens (Expression.value (meaning library)) (Parser.product (Parser.below levels))
      (run library tokens (stack + 1) .product depth) := by
    intro rest suffix
    rw [run]
    exact @chain_follows library tokens levels .product _ _ (signed_reads (below_reads levels)) signed rest suffix
  intro rest suffix
  rw [run]
  exact @chain_follows library tokens levels .sum _ _ (product_reads (below_reads levels)) product rest suffix

theorem followsDeeper (roots : FiniteRoots library) (decimals : Decimals tokens)
    (total : depth + levels = Parser.maxDepth) : FollowsDeeper library tokens levels depth := by
  induction levels generalizing depth with
  | zero =>
    intro _ _ same
    cases same
  | succ levels ih =>
    intro levels' stack same enough
    obtain rfl := Nat.succ.inj same
    have deeper := @ih (depth + 1) (by omega)
    exact ⟨sum_follows roots decimals (by omega) deeper (by omega),
      signed_follows roots decimals (by omega) deeper (by omega)⟩

end Forms

theorem parse_eq {library : Elementary} {tokens : List Token} {stack : Nat} (roots : FiniteRoots library)
    (decimals : Decimals tokens) (enough : 6 * Parser.maxDepth + 6 <= stack) :
    parse library stack tokens =
      (Token.value (meaning library) tokens).mapError fun failure => .report ⟨failure, none⟩ := by
  unfold parse Token.value
  by_cases empty : tokens.isEmpty = true
  next =>
    rw [if_pos empty, if_pos empty]
    rfl
  next =>
    have total : 0 + Parser.maxDepth = Parser.maxDepth := Nat.zero_add _
    have follows := sum_follows roots decimals total (followsDeeper roots decimals total) enough
      (List.suffix_refl tokens)
    rw [Nat.sub_self] at follows
    rw [if_neg empty, if_neg empty, follows, Parser.parse]
    cases read : Parser.sum (Parser.below Parser.maxDepth) tokens with
    | error failure =>
      rw [error_bind]
      unfold settle
      dsimp only
      cases Token.refusal? (meaning library) failure.complete <;> rfl
    | ok pair =>
      obtain ⟨tree, rest⟩ := pair
      have suffix := suffix_of_reads (sum_reads (below_reads Parser.maxDepth)) read
      rw [ok_bind]
      unfold settle
      dsimp only
      cases evaluated : tree.value (meaning library) with
      | error reason => cases rest <;> simp [pure, Except.pure, Except.mapError, Token.refusal?, evaluated, reported]
      | ok value =>
        rw [ok_bind]
        dsimp only
        rw [token?_eq suffix, ok_bind]
        cases rest <;> simp [pure, Except.pure, Except.mapError, Token.refusal?, evaluated, reported]

example : parse elementary 4 [⟨.numeral ['1'], 0⟩] = .error .recursion := rfl

end Stepwise

end SpokenArithmetic

import SpokenArithmetic.Calculation.Evaluate
import SpokenArithmetic.Proofs.Grammar.Reading

set_option autoImplicit false

namespace SpokenArithmetic.Grammar

variable {A R : Type} (meaning : Meaning A R)

theorem call_eq_error {function : Function} {argument : A} {reason : R}
    (refused : meaning.call function argument = .error reason) :
    function = .fact ∧ meaning.refuse? argument = some reason := by
  unfold Meaning.call at refused
  by_cases factorial : function = .fact
  next =>
    simp only [factorial, if_true] at refused
    split at refused
    next found =>
      obtain rfl := Except.error.inj refused
      exact ⟨factorial, found⟩
    next => cases refused
  next => simp [factorial] at refused

def RefusesIn (calls : List (Call A)) (reason : R) : Prop :=
  exists argument, ⟨.apply .fact, [argument]⟩ ∈ calls ∧ meaning.refuse? argument = some reason

variable {meaning}

theorem RefusesIn.mono {calls calls' : List (Call A)} {reason : R}
    (refuses : RefusesIn meaning calls reason) (subset : calls ⊆ calls') :
    RefusesIn meaning calls' reason := by
  obtain ⟨argument, member, refused⟩ := refuses
  exact ⟨argument, subset member, refused⟩

variable (meaning)

theorem bind_eq_error {E B C : Type} {first : Except E B} {next : B -> Except E C} {fault : E} :
    first >>= next = .error fault ↔
      first = .error fault ∨ exists value, first = .ok value ∧ next value = .error fault := by
  cases first <;> simp [Bind.bind, Except.bind]

theorem value_eq_error {tree : Expression} {reason : R} (refused : tree.value meaning = .error reason) :
    RefusesIn meaning (tree.calls meaning) reason := by
  induction tree with
  | numeral text => cases refused
  | signed negative operand ih =>
    rcases bind_eq_error.1 refused with operandRefused | ⟨_, _, none⟩
    next => exact (ih operandRefused).mono (by simp [Expression.calls])
    next => cases none
  | group inner ih => exact (ih refused).mono (by simp [Expression.calls])
  | binary operator left right leftRefuses rightRefuses =>
    rcases bind_eq_error.1 refused with leftRefused | ⟨first, leftValue, rest⟩
    next => exact (leftRefuses leftRefused).mono (by simp [Expression.calls])
    next =>
      rcases bind_eq_error.1 rest with rightRefused | ⟨_, _, none⟩
      next =>
        exact (rightRefuses rightRefused).mono
          (by simp [Expression.calls, Expression.calls.afterwards, leftValue])
      next => cases none
  | raise base exponent baseRefuses exponentRefuses =>
    rcases bind_eq_error.1 refused with baseRefused | ⟨first, baseValue, rest⟩
    next => exact (baseRefuses baseRefused).mono (by simp [Expression.calls])
    next =>
      rcases bind_eq_error.1 rest with exponentRefused | ⟨_, _, none⟩
      next =>
        exact (exponentRefuses exponentRefused).mono
          (by simp [Expression.calls, Expression.calls.afterwards, baseValue])
      next => cases none
  | apply function argument ih =>
    rcases bind_eq_error.1 refused with argumentRefused | ⟨result, argumentValue, called⟩
    next => exact (ih argumentRefused).mono (by simp [Expression.calls])
    next =>
      obtain ⟨rfl, refuses⟩ := call_eq_error meaning called
      exact ⟨result, by simp [Expression.calls, argumentValue], refuses⟩

theorem refusal?_eq_some {operands : List Expression} {reason : R}
    (refused : Token.refusal? meaning operands = some reason) :
    RefusesIn meaning (Token.callsAmong meaning operands) reason := by
  induction operands with
  | nil => cases refused
  | cons operand rest ih =>
    unfold Token.refusal? at refused
    unfold Token.callsAmong
    cases value : operand.value meaning with
    | error reason' =>
      simp only [value, Option.some.injEq] at refused
      subst refused
      exact (value_eq_error meaning value).mono (by simp)
    | ok result =>
      simp only [value] at refused
      exact (ih refused).mono (by simp)

theorem parse_nil (tree : Expression) : Parser.parse [] ≠ .ok tree := by
  intro parsed
  obtain ⟨derivation, derives⟩ := parse_eq_ok_iff.1 parsed
  obtain ⟨lexeme, tail, same, _⟩ := derivation.yield_form .sum rfl
  simpa [same] using derives.yield

theorem value_of_parse {tokens : List Token} {tree : Expression} (parsed : Parser.parse tokens = .ok tree) :
    Token.value meaning tokens = (tree.value meaning).mapError .refused := by
  cases tokens with
  | nil => exact absurd parsed (parse_nil tree)
  | cons token rest => simp only [Token.value, List.isEmpty_cons, Bool.false_eq_true, if_false, parsed]

theorem value_eq_ok_iff {tokens : List Token} {result : A} :
    Token.value meaning tokens = .ok result ↔
      exists tree, Parser.parse tokens = .ok tree ∧ tree.value meaning = .ok result := by
  unfold Token.value
  cases tokens with
  | nil => simp [parse_nil]
  | cons token rest =>
    simp only [List.isEmpty_cons, Bool.false_eq_true, if_false]
    cases Parser.parse (token :: rest) with
    | ok tree => cases value : tree.value meaning <;> simp [Except.mapError, value]
    | error failure => cases refused : Token.refusal? meaning failure.complete <;> simp [refused]

theorem value_eq_empty_iff {tokens : List Token} {what : Emptiness} :
    Token.value meaning tokens = .error (.empty what) ↔ tokens = [] ∧ what = .tokens := by
  unfold Token.value
  cases tokens with
  | nil => simp [eq_comm]
  | cons token rest =>
    simp only [List.isEmpty_cons, Bool.false_eq_true, if_false]
    cases Parser.parse (token :: rest) with
    | ok tree => cases value : tree.value meaning <;> simp [Except.mapError, value]
    | error failure => cases refused : Token.refusal? meaning failure.complete <;> simp [refused]

theorem value_failure {tokens : List Token} {failure : Failure R}
    (failed : Token.value meaning tokens = .error failure) :
    failure = .empty .tokens ∨ (exists fault, failure = .fault fault) ∨
      exists reason, failure = .refused reason ∧
        RefusesIn meaning (Token.calls meaning tokens) reason := by
  unfold Token.value at failed
  split at failed
  next => exact .inl (Except.error.inj failed).symm
  next =>
    unfold Token.calls
    cases parsed : Parser.parse tokens with
    | ok tree =>
      cases value : tree.value meaning with
      | ok result => simp [parsed, value, Except.mapError] at failed
      | error reason =>
        simp only [parsed, value, Except.mapError, Except.error.injEq] at failed
        exact .inr (.inr ⟨reason, failed.symm, value_eq_error meaning value⟩)
    | error fault =>
      cases refused : Token.refusal? meaning fault.complete with
      | none =>
        simp only [parsed, refused, Except.error.injEq] at failed
        exact .inr (.inl ⟨fault.fault, failed.symm⟩)
      | some reason =>
        simp only [parsed, refused, Except.error.injEq] at failed
        exact .inr (.inr ⟨reason, failed.symm, refusal?_eq_some meaning refused⟩)

/-- Tokens have a value exactly when they have a derivation of a sum within the levels of nesting in
which each name is called with as many arguments as it takes and no factorial refuses, and then they
have its value. There is at most one derivation of any kind. All other tokens fail: they are none at
all, they have a fault, or a factorial was called that refuses its argument. -/
theorem tokens_value_exact (tokens : List Token) :
    (forall result, Token.value meaning tokens = .ok result ↔
      exists (derivation : Derivation (.form .sum)) (tree : Expression),
        Derives Parser.maxDepth derivation tokens tree ∧ tree.value meaning = .ok result) ∧
    (forall first second : Derivation (.form .sum),
      first.yield = tokens.map Token.lexeme -> second.yield = tokens.map Token.lexeme ->
        first = second) ∧
    (Token.value meaning tokens = .error (.empty .tokens) ↔ tokens = []) ∧
    forall failure, Token.value meaning tokens = .error failure ->
      failure = .empty .tokens ∨ (exists fault, failure = .fault fault) ∨
        exists reason, failure = .refused reason ∧
          RefusesIn meaning (Token.calls meaning tokens) reason := by
  refine ⟨fun result => ?_, fun first second one other => ?_, ?_, fun failure => ?_⟩
  next =>
    rw [value_eq_ok_iff]
    constructor
    next =>
      rintro ⟨tree, parsed, value⟩
      obtain ⟨derivation, derives⟩ := parse_eq_ok_iff.1 parsed
      exact ⟨derivation, tree, derives, value⟩
    next =>
      rintro ⟨derivation, tree, derives, value⟩
      exact ⟨tree, parse_eq_ok_iff.2 ⟨derivation, derives⟩, value⟩
  next => exact Derivation.yield_injective (one.trans other.symm)
  next => simp [value_eq_empty_iff]
  next => exact value_failure meaning

end SpokenArithmetic.Grammar

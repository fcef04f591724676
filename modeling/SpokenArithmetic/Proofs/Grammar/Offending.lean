import SpokenArithmetic.Proofs.Grammar.LocatedForms

set_option autoImplicit false

namespace SpokenArithmetic.Grammar

open SpokenArithmetic.Parser

def Miscalled (token : Token) (fault : SyntaxFault) : Prop :=
  exists name callable count, token.lexeme = .name name ∧ callable? name = some callable ∧
    count ≠ callable.arity ∧ fault = .arity callable count token.position

def TooDeep (lexemes : List Lexeme) : Prop :=
  forall derivation : Derivation (.form .sum), derivation.Named -> lexemes <+: derivation.yield ->
    maxDepth < derivation.depth

/-- The fault is that of the first token that does not go on with a start of a sentence. -/
def Offends (tokens : List Token) (fault : SyntaxFault) : Prop :=
  match fault.position? with
  | some position => exists front token back, tokens = front ++ token :: back ∧ token.position = position ∧
      Viable (front.map Token.lexeme) ∧
        (Miscalled token fault ∧ Viable ((front ++ [token]).map Token.lexeme) ∨
          ¬ Viable ((front ++ [token]).map Token.lexeme))
  | none => Viable (tokens.map Token.lexeme) ∧ ¬ Sentence (tokens.map Token.lexeme) ∨
      fault = .tooDeep ∧ exists front back, tokens = front ++ back ∧
        Viable (front.map Token.lexeme) ∧ TooDeep (front.map Token.lexeme)

theorem Begins.viable {lexemes : List Lexeme} (begins : Begins (.form .sum) lexemes) : Viable lexemes := by
  obtain ⟨derivation, named, rest, same⟩ := begins
  exact ⟨rest, derivation, named, same.symm⟩

theorem Viable.of_append {front back : List Lexeme} (viable : Viable (front ++ back)) : Viable front := by
  obtain ⟨rest, sentence⟩ := viable
  exact ⟨back ++ rest, by rwa [← List.append_assoc]⟩

theorem passes_of_yield {derivation : Derivation (.form .sum)} {front tail : List Lexeme}
    (named : derivation.Named) (yield : derivation.yield = front ++ tail) : derivation.Passes front tail :=
  ⟨named, [], Form.sum.stops_nil, by simpa using yield⟩

theorem offends_of_stuck {front back : List Token} {fault : SyntaxFault}
    (place : fault.position? = position? back) (viable : Viable (front.map Token.lexeme))
    (dead : forall tail, tail.head? = (back.map Token.lexeme).head? -> ¬ Sentence (front.map Token.lexeme ++ tail)) :
    Offends (front ++ back) fault := by
  unfold Offends
  rw [place]
  cases back with
  | nil =>
    refine .inl ⟨by simpa using viable, fun sentence => dead [] rfl ?_⟩
    simpa using sentence
  | cons token back =>
    refine ⟨front, token, back, rfl, rfl, viable, .inr fun ⟨rest, sentence⟩ => ?_⟩
    refine dead (token.lexeme :: rest) rfl ?_
    simpa using sentence

theorem Fails.offends {tokens : List Token} {fault : SyntaxFault}
    (fails : Fails maxDepth (.form .sum) tokens fault) : Offends tokens fault := by
  cases fails with
  | stuck position begins dead =>
    refine offends_of_stuck position begins.viable fun tail head ⟨derivation, named, yield⟩ => ?_
    exact dead derivation tail (passes_of_yield named yield) head
  | @arity front back name callable count position named other begins =>
    refine ⟨front, _, back, rfl, rfl, ?_, .inl ⟨⟨name, callable, count, rfl, named, other, rfl⟩, begins.viable⟩⟩
    refine Viable.of_append (?_ : Viable (front.map Token.lexeme ++ [.name name]))
    simpa using begins.viable
  | @deep front back _ begins deep =>
    refine .inr ⟨rfl, front, back, rfl, begins.viable, fun derivation named starts => ?_⟩
    obtain ⟨tail, same⟩ := starts
    exact deep derivation tail (passes_of_yield named same.symm)

theorem position?_excess (token : Token) : (excess token).position? = some token.position := by
  unfold excess
  split
  next => rfl
  next => split <;> rfl
  next => rfl

theorem parse_offends {tokens : List Token} {failure : Parser.Failure}
    (failed : Parser.parse tokens = .error failure) : Offends tokens failure.fault := by
  have locates := sum_locates (below_locates maxDepth)
  rcases bind_eq_error.1 failed with sumFailed | ⟨⟨tree, rest⟩, sumRead, ended⟩
  next => exact (locates.fails sumFailed).offends
  have stops := locates.stops sumRead
  obtain ⟨front, derivation, rfl, derives⟩ := locates.sound sumRead
  dsimp only at ended
  split at ended
  next => cases ended
  next token behind =>
    obtain rfl := Except.error.inj ended
    refine offends_of_stuck (position?_excess token) ⟨[], derivation, derives.named, ?_⟩
      fun tail head ⟨other, named, yield⟩ => ?_
    next => simpa using derives.yield
    next =>
      -- What was read is all of any sentence that starts so.
      have same : derivation.yield ++ tail = other.yield ++ [] := by
        rw [derives.yield, List.append_nil, yield]
      have none := (derivation.determined other _ _ (stops.of_head head) Form.sum.stops_nil same).2
      rw [none] at head
      cases head

section

variable {A R : Type} (meaning : Meaning A R)

theorem value_eq_fault {tokens : List Token} {fault : SyntaxFault}
    (failed : Token.value meaning tokens = .error (.fault fault)) :
    exists failure, Parser.parse tokens = .error failure ∧ failure.fault = fault := by
  unfold Token.value at failed
  split at failed
  next => cases failed
  next =>
    cases parsed : Parser.parse tokens with
    | ok tree =>
      cases value : tree.value meaning <;> simp [parsed, value, Except.mapError] at failed
    | error failure =>
      cases refused : Token.refusal? meaning failure.complete with
      | none =>
        simp only [parsed, refused, Except.error.injEq, Failure.fault.injEq] at failed
        exact ⟨failure, rfl, failed⟩
      | some reason => simp [parsed, refused] at failed

/-- A fault with a position is that of a token up to which the tokens are the start of a sentence, and with
which they are none unless it is the name of something called with the wrong number of arguments. A fault
without a position is one of tokens that are the start of a sentence and not a sentence, or the tokens start
in a way that needs too many levels. -/
theorem value_fault_offends {tokens : List Token} {fault : SyntaxFault}
    (failed : Token.value meaning tokens = .error (.fault fault)) :
    (forall position, fault.position? = some position ->
      exists front token back, tokens = front ++ token :: back ∧ token.position = position ∧
        Viable (front.map Token.lexeme) ∧
          (Miscalled token fault ∧ Viable ((front ++ [token]).map Token.lexeme) ∨
            ¬ Viable ((front ++ [token]).map Token.lexeme))) ∧
    (fault.position? = none ->
      Viable (tokens.map Token.lexeme) ∧ ¬ Sentence (tokens.map Token.lexeme) ∨
        fault = .tooDeep ∧ exists front back, tokens = front ++ back ∧
          Viable (front.map Token.lexeme) ∧ TooDeep (front.map Token.lexeme)) := by
  obtain ⟨failure, parsed, rfl⟩ := value_eq_fault meaning failed
  have offends := parse_offends parsed
  unfold Offends at offends
  constructor
  next =>
    intro position place
    simpa only [place] using offends
  next =>
    intro nowhere
    simpa only [nowhere] using offends

theorem value_fault_offends_closing :
    let front : List Token := [⟨.numeral ['2'], 0⟩, ⟨.mark (.operator .multiply), 1⟩, ⟨.mark .opening, 2⟩,
      ⟨.numeral ['3'], 3⟩, ⟨.mark (.operator .add), 4⟩]
    let fault : SyntaxFault := .unexpected (.mark .closing) 5
    Token.value Evaluation.doubles (front ++ [⟨.mark .closing, 5⟩]) = .error (.fault fault) ∧
      exists front' token back, front ++ [⟨.mark .closing, 5⟩] = front' ++ token :: back ∧ token.position = 5 ∧
        Viable (front'.map Token.lexeme) ∧
          (Miscalled token fault ∧ Viable ((front' ++ [token]).map Token.lexeme) ∨
            ¬ Viable ((front' ++ [token]).map Token.lexeme)) :=
  ⟨rfl, (value_fault_offends Evaluation.doubles rfl).1 5 rfl⟩

end

end SpokenArithmetic.Grammar

import SpokenArithmetic.Proofs.Arithmetic.Finite
import SpokenArithmetic.Proofs.Grammar.Value
import SpokenArithmetic.Proofs.Printing.Surface
import SpokenArithmetic.Proofs.Rewriting.Transparent

set_option autoImplicit false

namespace SpokenArithmetic.Grammar

open Arithmetic CallForm Evaluation Number Text

namespace Derivation

def print {nonterminal : Nonterminal} (derivation : Derivation nonterminal) : List Char :=
  printed derivation.yield

def Plain {nonterminal : Nonterminal} (derivation : Derivation nonterminal) : Prop :=
  forall text, .numeral text ∈ derivation.yield -> PlainNumeral text

section

variable {derivation : Derivation (.form .sum)} {tree : Expression}

theorem writable_yield (plain : derivation.Plain) (content : derivation.content? surface? = some tree) :
    forall lexeme, lexeme ∈ derivation.yield -> Writable lexeme := by
  intro lexeme member
  cases lexeme with
  | numeral text => exact plain text member
  | name text => exact derivation.named_yield content member
  | mark mark => trivial

theorem lexes_print (plain : derivation.Plain) (content : derivation.content? surface? = some tree) :
    Token.lexes derivation.print = some derivation.yield := by
  have separated := derivation.separated_yield .nil .nil
  rw [List.append_nil] at separated
  exact lexes_printed separated (writable_yield plain content)

theorem print_allowed (plain : derivation.Plain) (content : derivation.content? surface? = some tree) :
    forall c, c ∈ derivation.print -> isAllowed c = true :=
  fun c member => (printed_allowed (writable_yield plain content) c member).1

theorem powersApart_print (plain : derivation.Plain) (content : derivation.content? surface? = some tree) :
    PowersApart derivation.print :=
  powersApart_of_plain (print_allowed plain content)
    (fun c member => (printed_allowed (writable_yield plain content) c member).2)
    (lexes_print plain content) fun text member => (plain text member).isMantissa

theorem plainUnrounded_print (plain : derivation.Plain)
    (content : derivation.content? surface? = some tree) (shallow : derivation.depth <= Parser.maxDepth) :
    plainUnrounded derivation.print = (tree.value doubles).mapError .refused := by
  have scanned := Token.lexemes?_scan (print_allowed plain content)
  rw [lexes_print plain content] at scanned
  unfold plainUnrounded
  cases found : Token.scan derivation.print with
  | error stray =>
    rw [found] at scanned
    cases scanned
  | ok tokens =>
    rw [found] at scanned
    have same : tokens.map Token.lexeme = derivation.yield := Option.some.inj scanned
    have resolves : derivation.called.yield = (Token.resolved tokens).map Token.lexeme := by
      have resolved := derivation.resolve_yield []
      rw [List.append_nil] at resolved
      rw [Token.map_resolved, same, resolved]
      exact (List.append_nil _).symm
    have parsed : Parser.parse (Token.resolved tokens) = .ok tree :=
      parse_eq_ok_iff.2 ⟨derivation.called, resolves, by rwa [depth_called], derivation.content?_called content⟩
    exact value_of_parse doubles parsed

theorem outcome_print (plain : derivation.Plain) (content : derivation.content? surface? = some tree)
    (shallow : derivation.depth <= Parser.maxDepth) :
    outcome (Evaluation.value derivation.print) =
      outcome (rounded ((tree.value doubles).mapError .refused)) := by
  have allowed := print_allowed plain content
  have apart := powersApart_print plain content
  have present : (strip derivation.print).isEmpty = false := by
    cases empty : (strip derivation.print).isEmpty with
    | false => rfl
    | true =>
      obtain ⟨lexeme, tail, starts, _⟩ := derivation.yield_form .sum rfl
      have none := (Token.strip_isEmpty allowed).1 empty
      rw [lexes_print plain content, starts] at none
      cases none
  rw [value_eq_rounded, strip_callForm allowed apart, present, ← plainUnrounded_print plain content shallow]
  exact outcome_rounded (unrounded_outcome allowed apart)

end

theorem outcome_eq_ok {R : Type} {evaluated : Except (Failure R) Float} {answer : Float}
    (same : outcome evaluated = .ok answer) : evaluated = .ok answer := by
  cases evaluated with
  | error failure => cases same
  | ok value => exact congrArg _ (Except.ok.inj same)

theorem outcome_eq_error {R : Type} {evaluated : Except (Failure R) Float} {category : Category}
    (same : outcome evaluated = .error category) :
    exists failure, evaluated = .error failure ∧ failure.category = category := by
  cases evaluated with
  | error failure => exact ⟨failure, rfl, Except.error.inj same⟩
  | ok value => cases same

/-- Printing and evaluating gives the rounded value of the expression if that is finite and no
factorial refuses its argument, and an invalid result otherwise. -/
theorem value_print (derivation : Derivation (.form .sum)) (tree : Expression) (plain : derivation.Plain)
    (content : derivation.content? surface? = some tree) (shallow : derivation.depth <= Parser.maxDepth) :
    (forall result, tree.value doubles = .ok result -> isFinite result = true ->
      exists answer, roundAnswer? result = some answer ∧
        Evaluation.value derivation.print = .ok answer) ∧
    ((forall result, tree.value doubles = .ok result -> isFinite result = false) ->
      exists failure, Evaluation.value derivation.print = .error failure ∧
        failure.category = .invalid) := by
  have evaluated := outcome_print plain content shallow
  constructor
  next =>
    intro result valued finite
    obtain ⟨answer, rounds⟩ := roundAnswer?_of_isFinite finite
    refine ⟨answer, rounds, outcome_eq_ok ?_⟩
    rw [evaluated, valued]
    simp [Except.mapError, rounded, finite, rounds, outcome]
  next =>
    intro infinite
    refine outcome_eq_error ?_
    rw [evaluated]
    cases valued : tree.value doubles with
    | error reason => rfl
    | ok result => simp [Except.mapError, rounded, infinite result valued, outcome, Failure.category]

def cube : Derivation (.form .sum) :=
  chain .sum
    (chain .product (unsigned (raised (numeral ['2']) (unsigned (bare (numeral ['3'])))))
      (noFurther .product))
    (noFurther .sum)

theorem value_print_cube :
    cube.print = "2^3".toList ∧ cube.Plain ∧ cube.depth <= Parser.maxDepth ∧
      cube.content? surface? = some (.binary .power (.numeral ['2']) (.numeral ['3'])) ∧
      (forall result,
        Expression.value doubles (.binary .power (.numeral ['2']) (.numeral ['3'])) = .ok result ->
          isFinite result = true -> exists answer, roundAnswer? result = some answer ∧
            Evaluation.value "2^3".toList = .ok answer) := by
  have plain : cube.Plain := by
    intro text member
    have digit : text = ['2'] ∨ text = ['3'] := by
      simpa [cube, yield] using member
    rcases digit with rfl | rfl <;> exact .whole (by decide) (by decide)
  have shallow : cube.depth <= Parser.maxDepth := by decide
  exact ⟨by decide, plain, shallow, rfl, (value_print cube _ plain rfl shallow).1⟩

end Derivation

end SpokenArithmetic.Grammar

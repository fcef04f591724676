import SpokenArithmetic.Proofs.Rewriting.Simulation

set_option autoImplicit false

namespace SpokenArithmetic

open Text CallForm

namespace Token

def resolved : List Token -> List Token
  | [] => []
  | token :: rest =>
    { token with
      lexeme := if rest.head?.map lexeme = some (.mark .opening) then token.lexeme.called else token.lexeme }
      :: resolved rest

theorem map_resolved (tokens : List Token) :
    (resolved tokens).map lexeme = resolve (tokens.map lexeme) := by
  induction tokens with
  | nil => rfl
  | cons token rest ih => simp [resolved, resolve, ih]

end Token

namespace Evaluation

open Arithmetic Number

def plainUnrounded (text : List Char) : Except (Failure Refusal) Float :=
  match Token.scan text with
  | .error stray => .error (.stray stray)
  | .ok tokens => Token.value doubles (Token.resolved tokens)

def rounded (unrounded : Except (Failure Refusal) Float) : Except (Failure Refusal) Float :=
  match unrounded with
  | .error failure => .error failure
  | .ok result =>
    match if isFinite result then roundAnswer? result else none with
    | some answer => .ok answer
    | none => .error (.notFinite result)

def plainValue (text : List Char) : Except (Failure Refusal) Float :=
  if (Text.strip text).isEmpty then .error (.empty .expression)
  else if (Text.strip (sanitize text)).isEmpty then .error (.empty .afterSanitizing)
  else rounded (plainUnrounded (sanitize text))

theorem value_eq_rounded (text : List Char) :
    value text =
      if (Text.strip text).isEmpty then .error (.empty .expression)
      else if (Text.strip (callForm text)).isEmpty then .error (.empty .afterSanitizing)
      else rounded (unrounded (callForm text)) := by
  unfold value rounded
  rfl

theorem outcome_rounded {left right : Except (Failure Refusal) Float}
    (same : outcome left = outcome right) : outcome (rounded left) = outcome (rounded right) := by
  cases left with
  | error failure =>
    cases right with
    | error failure' => simpa [outcome, rounded, Except.mapError] using same
    | ok => cases same
  | ok value =>
    cases right with
    | error failure' => cases same
    | ok value' =>
      obtain rfl : value = value' := Except.ok.inj same
      rfl

end Evaluation

namespace CallForm

open Arithmetic

theorem allowed_writePowers {text : List Char} (allowed : forall c, c ∈ text -> isAllowed c = true) :
    forall c, c ∈ writePowers text -> isAllowed c = true := by
  refine Pattern.replaceFrom_all (fun {_ text power behind} matched allowed => ?_) allowed
  obtain ⟨base, exponent⟩ := power
  obtain ⟨_, rfl, _⟩ := literalPower_eq_some.1 matched
  have call : forall c, c ∈ Callable.power.name.toList ++ ['(', ',', ')'] -> isAllowed c = true := by
    decide
  intro c member
  simp only [writePower, List.mem_append, List.mem_cons, List.not_mem_nil, or_false] at member call
  rcases member with ((name | opening | inBase) | comma | inExponent) | closing
  next => exact call c (.inl name)
  next => exact call c (.inr (.inl opening))
  next => exact allowed c (List.mem_append_left _ inBase)
  next => exact call c (.inr (.inr (.inl comma)))
  next => exact allowed c (by simp [inExponent])
  next => exact call c (.inr (.inr (.inr closing)))

theorem allowed_writeFunctions {text : List Char} (allowed : forall c, c ∈ text -> isAllowed c = true) :
    forall c, c ∈ writeFunctions text -> isAllowed c = true := by
  refine Pattern.replaceFrom_all (fun {_ _ function _} _ _ => ?_) allowed
  cases function <;> decide

theorem sanitize_allowed (text : List Char) : forall c, c ∈ sanitize text -> isAllowed c = true := by
  intro c member
  exact (List.mem_filter.1 member).2

theorem callForm_eq {text : List Char} (allowed : forall c, c ∈ text -> isAllowed c = true) :
    callForm text = writeFunctions (writePowers text) :=
  List.filter_eq_self.2 (allowed_writeFunctions (allowed_writePowers allowed))

theorem rewritten_callForm {text : List Char} (allowed : forall c, c ∈ text -> isAllowed c = true)
    (apart : PowersApart text) :
    Option.Rel (fun left right => Rewritten false (resolve left) right) (Token.lexes text)
      (Token.lexes (callForm text)) := by
  have powers : Option.Rel Powers (Token.lexes text) (Token.lexes (writePowers text)) :=
    powers_replaceFrom apart allowed .start
  have functions : Option.Rel (fun left right => Resolved false (resolve left) right)
      (Token.lexes (writePowers text)) (Token.lexes (writeFunctions (writePowers text))) :=
    functions_replaceFrom (allowed_writePowers allowed) (by simp)
  -- The two rewritings compose: powers on the lexemes of the text, functions on what they leave.
  rw [callForm_eq allowed]
  generalize Token.lexes text = left at powers ⊢
  generalize Token.lexes (writePowers text) = middle at powers functions
  generalize Token.lexes (writeFunctions (writePowers text)) = right at functions ⊢
  cases powers with
  | none =>
    cases functions
    exact .none
  | some powers =>
    cases functions with
    | some resolved => exact .some (rewritten_of_resolved powers resolved)

theorem allowed_callForm (text : List Char) : forall c, c ∈ callForm text -> isAllowed c = true :=
  sanitize_allowed _

theorem unrounded_outcome {text : List Char} (allowed : forall c, c ∈ text -> isAllowed c = true)
    (apart : PowersApart text) :
    outcome (Evaluation.unrounded (callForm text)) = outcome (Evaluation.plainUnrounded text) := by
  have rewritten := rewritten_callForm allowed apart
  rw [← Token.lexemes?_scan allowed, ← Token.lexemes?_scan (allowed_callForm text)] at rewritten
  unfold Evaluation.unrounded Evaluation.unroundedWith Evaluation.plainUnrounded
  generalize Token.scan text = left at rewritten ⊢
  generalize Token.scan (callForm text) = right at rewritten ⊢
  cases left with
  | error stray =>
    cases right with
    | error stray' => rfl
    | ok => cases rewritten
  | ok tokens =>
    cases right with
    | error => cases rewritten
    | ok tokens' =>
      cases rewritten with
      | some related =>
        have fresh : Fresh (Token.resolved tokens) tokens' := by
          unfold Fresh
          rw [Token.map_resolved]
          exact related
        exact (value_outcome fresh).symm

theorem strip_callForm {text : List Char} (allowed : forall c, c ∈ text -> isAllowed c = true)
    (apart : PowersApart text) :
    (strip (callForm text)).isEmpty = (strip text).isEmpty := by
  have rewritten := rewritten_callForm allowed apart
  rw [Bool.eq_iff_iff, Token.strip_isEmpty allowed, Token.strip_isEmpty (allowed_callForm text)]
  generalize Token.lexes text = left at rewritten ⊢
  generalize Token.lexes (callForm text) = right at rewritten ⊢
  cases rewritten with
  | none => simp
  | some related => simp only [Option.some.injEq, ← related.eq_nil, resolve_eq_nil]

/-- Rewriting is transparent: a text has the same value on both ways, or failures of one category. -/
theorem value_transparent (text : List Char) (kept : callForm text = callForm (sanitize text))
    (apart : PowersApart (sanitize text)) :
    outcome (Evaluation.value text) = outcome (Evaluation.plainValue text) := by
  have allowed := sanitize_allowed text
  rw [Evaluation.value_eq_rounded, Evaluation.plainValue, kept, strip_callForm allowed apart]
  split
  next => rfl
  next =>
    split
    next => rfl
    next => exact Evaluation.outcome_rounded (unrounded_outcome allowed apart)

theorem value_transparent_priced_sum :
    callForm "$2^3+sqrt(9)".toList = callForm (sanitize "$2^3+sqrt(9)".toList) ∧
      PowersApart (sanitize "$2^3+sqrt(9)".toList) ∧
        outcome (Evaluation.value "$2^3+sqrt(9)".toList) =
          outcome (Evaluation.plainValue "$2^3+sqrt(9)".toList) := by
  have digit {c : Char} (digit : isDigit c = true) : exists pointed, Token.IsMantissa pointed [c] :=
    ⟨false, .whole ⟨by simp, by simpa using digit⟩⟩
  have apart : PowersApart (sanitize "$2^3+sqrt(9)".toList) := by
    refine @powersApart_of_plain _
      [.numeral ['2'], .mark (.operator .power), .numeral ['3'], .mark (.operator .add),
        .name "sqrt".toList, .mark .opening, .numeral ['9'], .mark .closing]
      (by decide) (by decide) (by decide) fun literal member => ?_
    simp only [List.mem_cons, Lexeme.numeral.injEq, reduceCtorEq, List.not_mem_nil, or_false,
      false_or] at member
    rcases member with rfl | rfl | rfl <;> exact digit (by decide)
  have kept : callForm "$2^3+sqrt(9)".toList = callForm (sanitize "$2^3+sqrt(9)".toList) := by decide
  exact ⟨kept, apart, value_transparent _ kept apart⟩

/-- A character that sanitizing takes away keeps a function from its call name; a power that starts
inside a numeral tears it apart; a chain that goes on behind white space is grouped to the left. -/
theorem value_not_transparent :
    (outcome (Evaluation.value "sqrt$(16)".toList) = .error .malformed ∧
      outcome (Evaluation.plainValue "sqrt$(16)".toList) = .ok 4.0) ∧
    (outcome (Evaluation.value "1e-5^2".toList) = .error .malformed ∧
      outcome (Evaluation.plainValue "1e-5^2".toList) ≠ .error .malformed) ∧
    (Evaluation.unrounded (callForm "2^3 ^2".toList) =
        .ok (power elementary (power elementary 2.0 3.0) 2.0) ∧
      Evaluation.plainUnrounded "2^3 ^2".toList =
        .ok (power elementary 2.0 (power elementary 3.0 2.0))) := by
  refine ⟨⟨by decide +kernel, by decide +kernel⟩, ⟨by decide +kernel, ?_⟩, rfl, rfl⟩
  have strips : (strip "1e-5^2".toList).isEmpty = false ∧
      (strip (sanitize "1e-5^2".toList)).isEmpty = false := by
    decide +kernel
  -- The value is a power of doubles, which is left unevaluated: it is no malformed expression.
  obtain ⟨value, unrounded⟩ : exists value,
      Evaluation.plainUnrounded (sanitize "1e-5^2".toList) = .ok value := ⟨_, rfl⟩
  rw [Evaluation.plainValue, strips.1, strips.2, unrounded]
  simp only [Bool.false_eq_true, if_false, Evaluation.rounded]
  split <;> simp [outcome, Except.mapError, Failure.category]

end CallForm

end SpokenArithmetic

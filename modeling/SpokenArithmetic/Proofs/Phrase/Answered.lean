import SpokenArithmetic.Answer.Calculate
import SpokenArithmetic.Proofs.Phrase.Heard

set_option autoImplicit false

namespace SpokenArithmetic.Phrase

open Number Text

/-- The phrase is normalized to the expression, and its record is the one of the expression. -/
def CalculatesAs (phrase expression : String) : Prop :=
  forall wholeWords trace, normalize phrase wholeWords = .ok expression ∧
    exists told, Calculation.calculate phrase wholeWords trace = .ok told ∧
      told.result = Record.ofOutcome phrase expression Message.calculationFailed
        (Evaluation.value expression.toList)

variable {phrase : String}

theorem result_evaluate (text : String) (trace : Bool) :
    (Evaluation.evaluate text trace).result = Evaluation.value text.toList := by
  unfold Evaluation.evaluate
  cases Evaluation.value text.toList <;> rfl

theorem result_attempt (text subject : String) (trace : Bool) :
    (Calculation.attempt text subject trace).result = Evaluation.value text.toList := by
  rw [← result_evaluate text trace]
  unfold Calculation.attempt
  rw [Told.result_bind]
  cases (Evaluation.evaluate text trace).result <;> rfl

theorem calculatesAs_of_normalize {expression : String}
    (normalized : forall wholeWords, normalize phrase wholeWords = .ok expression) :
    CalculatesAs phrase expression := by
  intro wholeWords trace
  refine ⟨normalized wholeWords, ?_⟩
  unfold Calculation.calculate
  rw [normalized wholeWords]
  refine ⟨_, rfl, ?_⟩
  rw [Told.result_bind, Calculation.calculateExpression, Told.result_bind, result_attempt]
  rfl

theorem calculatesAs_of_passes {items results : List (List Char)} {numbers structured out : List Char}
    (heard : List.Forall₂ Heard items results) (spoken : lower phrase.toList = spaced items)
    (quiet : Quiet (spaced results)) (compounded : joinPoints (compound (spaced results)) = numbers)
    (made : explicit numbers = structured) (settled : Quiet structured)
    (cleaned : clean (compound structured) = out) : CalculatesAs phrase (String.ofList out) := by
  apply calculatesAs_of_normalize
  intro wholeWords
  have words := heard_items heard spoken wholeWords
  have replaced : replaceNumbers (symbols wholeWords phrase.toList) = numbers := by
    rw [replaceNumbers, words, compounded]
  have unstopped : overlong? wholeWords phrase.toList = none := by
    unfold overlong?
    dsimp only
    rw [words, replaced, made, quiet.overlong, settled.overlong]
    rfl
  have written : expression wholeWords phrase.toList = out := by
    rw [expression, replaced, structureSpecialCases, made, cleaned]
  unfold normalize
  rw [unstopped]
  exact congrArg (fun text => Except.ok (String.ofList text)) written

end SpokenArithmetic.Phrase

import SpokenArithmetic.Proofs.Rewriting.Functions

set_option autoImplicit false

namespace SpokenArithmetic

open Text Token

def enclosed (text : List Char) : List Char :=
  '(' :: (text ++ [')'])

theorem enclosed_append (text tail : List Char) :
    enclosed text ++ tail = '(' :: (text ++ ')' :: tail) := by
  simp [enclosed]

namespace Text

theorem after?_local {start tail : List Char} (absent : ')' ∉ start) (text : List Char) :
    after? start (text ++ ')' :: tail) = (after? start text).map (· ++ ')' :: tail) := by
  induction start generalizing text with
  | nil => rfl
  | cons c start ih =>
    obtain ⟨other, absent⟩ := not_or.1 (mt List.mem_cons.2 absent)
    cases text with
    | nil => simp [after?, Ne.symm other]
    | cons d text =>
      simp only [List.cons_append, after?]
      split
      next => exact ih absent text
      next => rfl

theorem numeral?_local (text tail : List Char) :
    numeral? (text ++ ')' :: tail) = (numeral? text).map fun found => (found.1, found.2 ++ ')' :: tail) := by
  have ends : (')' :: tail).head?.any isDigit = false := (by decide : isDigit ')' = false)
  obtain ⟨taken, left⟩ := span_append text ends
  have starts : (text ++ ')' :: tail).head?.any isDigit = text.head?.any isDigit := by
    cases text with
    | nil => exact ends
    | cons => rfl
  unfold numeral? digits?
  rw [starts, taken, left]
  split
  next =>
    simp only [Option.bind_eq_bind, Option.bind_some]
    -- A point that comes next is part of the text itself.
    cases text.dropWhile isDigit with
    | nil => rfl
    | cons c fraction =>
      obtain ⟨taken, left⟩ := span_append fraction ends
      by_cases point : c = '.'
      next =>
        subst point
        simp [taken, left]
      next => simp [point]
  next => rfl

end Text

namespace CallForm

structure Confined {A : Type} (pattern : Pattern A) : Prop where
  opened : forall text, pattern (some '(') text = pattern none text
  closed : forall tail, pattern.Local (')' :: tail)
  unmatched : forall before (mark : Mark) text, pattern before (mark.char :: text) = none

namespace Confined

variable {A : Type} {pattern : Pattern A} {render : A -> List Char} {before : Option Char}

theorem replaceFrom_mark (confined : Confined pattern) (mark : Mark) (text : List Char) :
    pattern.replaceFrom render before 0 (mark.char :: text) =
      mark.char :: pattern.replaceFrom render (some mark.char) 0 text := by
  rw [Pattern.replaceFrom, confined.unmatched]

theorem replaceFrom_inside (confined : Confined pattern) (text tail : List Char) :
    pattern.replaceFrom render (some '(') 0 (text ++ ')' :: tail) =
      pattern.replace render text ++ ')' :: pattern.replaceFrom render (some ')') 0 tail := by
  have opened : pattern.replaceFrom render (some '(') 0 text = pattern.replace render text := by
    cases text with
    | nil => rfl
    | cons c text => rw [Pattern.replace, Pattern.replaceFrom, Pattern.replaceFrom, confined.opened]
  have closing := @replaceFrom_mark _ _ render (lastBehind (some '(') text) confined .closing tail
  simp only [Mark.char] at closing
  rw [Pattern.replaceFrom_local (confined.closed tail) (Nat.zero_le _), opened, closing]

theorem replaceFrom_enclosed (confined : Confined pattern) (text tail : List Char) :
    pattern.replaceFrom render before 0 (enclosed text ++ tail) =
      enclosed (pattern.replace render text) ++ pattern.replaceFrom render (some ')') 0 tail := by
  have opening := @replaceFrom_mark _ _ render before confined .opening (text ++ ')' :: tail)
  simp only [Mark.char] at opening
  rw [enclosed_append, enclosed_append, opening, replaceFrom_inside confined]

theorem replace_enclosed (confined : Confined pattern) (text : List Char) :
    pattern.replace render (enclosed text) = enclosed (pattern.replace render text) := by
  have whole := @replaceFrom_enclosed _ _ render none confined text []
  simp only [List.append_nil, Pattern.replaceFrom] at whole
  exact whole

theorem replace_operation (confined : Confined pattern) (operator : Operator) (first second : List Char) :
    pattern.replace render (enclosed first ++ operator.symbol :: enclosed second) =
      enclosed (pattern.replace render first) ++ operator.symbol :: enclosed (pattern.replace render second) := by
  have between := @replaceFrom_mark _ _ render (some ')') confined (.operator operator) (enclosed second)
  have behind := @replaceFrom_enclosed _ _ render (some operator.symbol) confined second []
  simp only [Mark.char] at between
  simp only [List.append_nil, Pattern.replaceFrom] at behind
  rw [Pattern.replace, replaceFrom_enclosed confined, between, behind]

end Confined

theorem literalPower_local (tail : List Char) : literalPower.Local (')' :: tail) := by
  refine Pattern.unlessBehind_local fun _ c rest => ?_
  dsimp only
  rw [numeral?_local]
  cases numeral? (c :: rest) with
  | none => rfl
  | some base =>
    have marked := @after?_local ['^'] tail (by decide) base.2
    simp only [Option.map_some, Option.bind_eq_bind, Option.bind_some, marked]
    cases after? ['^'] base.2 with
    | none => rfl
    | some behind =>
      simp only [Option.map_some, Option.bind_some, numeral?_local]
      cases numeral? behind with
      | none => rfl
      | some exponent =>
        have touched : (exponent.2 ++ ')' :: tail).head?.any touchesPower = exponent.2.head?.any touchesPower := by
          cases exponent.2 with
          | nil => exact (by decide : touchesPower ')' = false)
          | cons => rfl
        simp only [Option.map_some, Option.bind_some, touched]
        split <;> rfl

theorem functionCall_local (tail : List Char) : functionCall.Local (')' :: tail) := by
  refine Pattern.unlessBehind_local fun _ c rest => ?_
  rw [List.map_findSome?]
  congr 1
  funext function
  have named := @after?_local function.name.toList tail (by cases function <;> decide) (c :: rest)
  simp only [Function.comp_apply, named]
  cases after? function.name.toList (c :: rest) with
  | none => rfl
  | some behind =>
    have skipped := (@span_append isSpace (')' :: tail) behind (by decide : isSpace ')' = false)).2
    have opened := @after?_local ['('] tail (by decide) (skipSpace behind)
    simp only [Option.map_some, Option.bind_eq_bind, Option.bind_some, skipSpace, skipped] at opened ⊢
    rw [opened]
    cases after? ['('] (behind.dropWhile isSpace) <;> rfl

theorem confined_literalPower : Confined literalPower where
  opened text := by
    have free : touchesPower '(' = false := by decide
    simp [literalPower, Pattern.unlessBehind, free]
  closed := literalPower_local
  unmatched _ mark _ := literalPower_other (mark_char_cases mark).1

theorem confined_functionCall : Confined functionCall where
  opened text := by
    have free : isWord '(' = false := by decide
    simp [functionCall, Pattern.unlessBehind, free]
  closed := functionCall_local
  unmatched _ mark _ := functionCall_other fun initial =>
    absurd (mark_char_cases mark).2.2.2 (ne_false_of_eq_true (initials_name initial).1)

theorem functionCall_enclosed (function : Function) (text : List Char) :
    functionCall none (function.name.toList ++ enclosed text) = some (function, text ++ [')']) := by
  cases function <;> rfl

theorem name_chars (function : Function) :
    (forall c, c ∈ function.name.toList -> isDigit c = false) ∧
      forall c, c ∈ function.callName.toList -> isAllowed c = true := by
  cases function <;> decide

theorem writePowers_named (function : Function) (text : List Char) :
    writePowers (function.name.toList ++ enclosed text) =
      function.name.toList ++ enclosed (writePowers text) := by
  have passes : literalPower.Passes none function.name.toList (enclosed text) :=
    Pattern.passes_of_unmatched fun _ c _ member => literalPower_other ((name_chars function).1 c member)
  have behind := @Confined.replaceFrom_enclosed _ _ writePower (lastBehind none function.name.toList)
    confined_literalPower text []
  simp only [List.append_nil, Pattern.replaceFrom] at behind
  rw [writePowers, Pattern.replace, Pattern.replaceFrom_passed passes, behind]
  rfl

theorem writeFunctions_named (function : Function) (text : List Char) :
    writeFunctions (function.name.toList ++ enclosed text) =
      function.callName.toList ++ enclosed (writeFunctions text) := by
  have parts : function.name.toList ++ enclosed text = (function.name.toList ++ ['(']) ++ (text ++ [')']) := by
    simp [enclosed]
  have matched := functionCall_enclosed function text
  rw [parts] at matched ⊢
  have written := @Pattern.replaceFrom_matched _ _ writeCall _ _ _ _ (by simp) matched
  have inside := @Confined.replaceFrom_inside _ _ writeCall confined_functionCall text []
  rw [lastBehind_append, lastBehind, lastBehind, inside] at written
  exact written.trans (List.append_assoc _ _ _)

theorem sanitize_enclosed (text : List Char) : sanitize (enclosed text) = enclosed (sanitize text) := by
  have allowed : isAllowed '(' = true ∧ isAllowed ')' = true := by decide
  simp [sanitize, enclosed, allowed]

theorem callForm_enclosed (text : List Char) : callForm (enclosed text) = enclosed (callForm text) := by
  unfold callForm writeFunctions writePowers
  rw [confined_literalPower.replace_enclosed, confined_functionCall.replace_enclosed, sanitize_enclosed]

theorem callForm_operation (operator : Operator) (first second : List Char) :
    callForm (enclosed first ++ operator.symbol :: enclosed second) =
      enclosed (callForm first) ++ operator.symbol :: enclosed (callForm second) := by
  have allowed : isAllowed operator.symbol = true := by cases operator <;> decide
  unfold callForm writeFunctions writePowers
  rw [confined_literalPower.replace_operation, confined_functionCall.replace_operation]
  simp only [sanitize, List.filter_append, List.filter_cons_of_pos allowed]
  rw [← sanitize, ← sanitize, sanitize_enclosed, sanitize_enclosed]
  rfl

theorem callForm_named (function : Function) (text : List Char) :
    callForm (function.name.toList ++ enclosed text) = function.callName.toList ++ enclosed (callForm text) := by
  rw [callForm, writePowers_named, writeFunctions_named, sanitize, List.filter_append,
    List.filter_eq_self.2 (name_chars function).2, ← sanitize, sanitize_enclosed]
  rfl

end CallForm

namespace Token

theorem lexes_enclosed (text tail : List Char) :
    lexes (enclosed text ++ tail) =
      (lexes text).bind fun inner => (lexes tail).map fun rest =>
        .mark .opening :: (inner ++ .mark .closing :: rest) := by
  have opening := @lexes_lexeme (.mark .opening) (text ++ ')' :: tail) .mark
  have closing := @lexes_lexeme (.mark .closing) tail .mark
  have bars : Bars (')' :: tail) :=
    ⟨(by decide : isNamePart ')' = false), (by decide : isDigit ')' = false), by simp⟩
  simp only [Lexeme.text, Mark.char, List.cons_append, List.nil_append] at opening closing
  rw [enclosed_append, opening, lexes_append bars, closing]
  cases lexes text <;> cases lexes tail <;> rfl

end Token

end SpokenArithmetic

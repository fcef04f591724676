import SpokenArithmetic.Proofs.Phrase.Answered
import SpokenArithmetic.Proofs.Printing.Evaluated

set_option autoImplicit false

namespace SpokenArithmetic.Phrase

open CallForm Grammar Number Text

section Phrases

def signedOperators : List Lexicon.Entry :=
  ("to the power of", "^") :: signPhrases

def negativePhrase (left operator right : String) : String :=
  left ++ " " ++ operator ++ " negative " ++ right

def merged (sign : String) : String :=
  if sign = "-" then "-" else sign ++ "-"

theorem toList_merged {entry : Lexicon.Entry} (one : entry.2.toList = [signOf entry]) (left right : String) :
    (left ++ merged entry.2 ++ right).toList =
      left.toList ++ ((if signOf entry = '-' then ['-'] else [signOf entry, '-']) ++ right.toList) := by
  have sign : entry.2 = "-" ↔ signOf entry = '-' := by
    rw [← String.toList_inj, one]
    simp
  rw [merged, String.toList_append, String.toList_append]
  by_cases minus : signOf entry = '-'
  next =>
    rw [if_pos minus, if_pos (sign.2 minus)]
    simp
  next =>
    rw [if_neg minus, if_neg fun same => minus (sign.1 same), String.toList_append, one]
    simp

theorem signedOperators_cases {entry : Lexicon.Entry} (member : entry ∈ signedOperators) :
    entry.2.toList = [signOf entry] ∧ isArithmetic (signOf entry) = true ∧
      Heard entry.1.toList [' ', signOf entry, ' '] := by
  rcases List.mem_cons.1 member with rfl | spoken
  next => decide +kernel
  next =>
    obtain ⟨one, signs⟩ := signs_of_phrase spoken
    have heard := heard_sign spoken
    rw [one] at heard
    exact ⟨one, signs.operator, heard⟩

end Phrases

section Passes

def signedDivider (symbol : Char) : List Char :=
  [' ', ' ', symbol, ' ', ' ', '-', ' ']

variable {left right : List Char} {symbol : Char}

theorem wall_signed (operator : isArithmetic symbol = true) : Wall (signedDivider symbol) := by
  obtain ⟨noSpace, noDigit, _⟩ := arithmetic_cases operator
  have others : isDigit ' ' = false ∧ isDigit '-' = false := by decide
  constructor
  case noDigit => simp [signedDivider, others, noDigit]
  case solid => exact ⟨symbol, by simp [signedDivider], noSpace⟩
  case starts => exact (by decide : isDigitOrPoint ' ' = false)
  case ends => exact (by decide : isDigitOrPoint ' ' = false)

theorem pointsTight_signed (first : Numeric left) (second : Numeric right) (operator : isArithmetic symbol = true) :
    PointsTight (left ++ (signedDivider symbol ++ right)) := by
  have middle : Links TightPoint isSpace isSpace (signedDivider symbol) := by
    refine ⟨tight_of_absent ?_, space_isSpace, space_isSpace⟩
    simp [signedDivider, point_ne operator]
  have behind := middle.append second.tightPoints tight_leave
  exact (first.tightPoints.append behind tight_enter).chain

theorem absent_signed (first : Numeric left) (second : Numeric right) (operator : isArithmetic symbol = true) {c : Char}
    (other : isFlat c = false) (noOperator : isArithmetic c = false) :
    c ∉ left ++ (signedDivider symbol ++ right) := by
  have apart {d : Char} (flat : isFlat d = true) : c ≠ d := by
    rintro rfl
    cases other.symm.trans flat
  have noSymbol : c ≠ symbol := by
    rintro rfl
    cases noOperator.symm.trans operator
  have noSpace := apart (by decide : isFlat ' ' = true)
  have noMinus := apart (by decide : isFlat '-' = true)
  intro member
  rcases List.mem_append.1 member with inLeft | behind
  next => exact apart (first.flat c inLeft) rfl
  next =>
    rcases List.mem_append.1 behind with between | inRight
    next => simp [signedDivider, noSpace, noMinus, noSymbol] at between
    next => exact apart (second.flat c inRight) rfl

theorem compact_signed (first : Numeric left) (second : Numeric right) (operator : isArithmetic symbol = true) :
    compact (left ++ (signedDivider symbol ++ right)) = left ++ ([symbol, '-'] ++ right) := by
  have noSpace := (arithmetic_cases operator).1
  have minus : isSpace '-' = false := by decide
  have between : compact (signedDivider symbol) = [symbol, '-'] := by
    simp [compact, signedDivider, space_isSpace, noSpace, minus]
  rw [compact_append, compact_append, compact_solid first.solid, compact_solid second.solid, between]

theorem Numeric.uncareted {text : List Char} (numeric : Numeric text) :
    Links (fun c d => c = '^' -> isDigit d = false) (fun _ => true) (fun _ => true) text := by
  refine ⟨chain_of_forall ?_, any_imp (fun _ _ => rfl) numeric.starts, any_imp (fun _ _ => rfl) numeric.ends⟩
  rintro _ _ member _ rfl
  cases numeric.chars '^' member

theorem caret_signed (first : Numeric left) (second : Numeric right) (operator : isArithmetic symbol = true) :
    (left ++ ([symbol, '-'] ++ right)).IsChain fun c d => c = '^' -> isDigit d = false := by
  have noDigit := (arithmetic_cases operator).2.1
  have notDigit : isDigit '-' = false := by decide
  have behind : (symbol :: '-' :: right).IsChain fun c d => c = '^' -> isDigit d = false := by
    refine List.isChain_cons_cons.2 ⟨fun _ => notDigit, ?_⟩
    cases right with
    | nil => exact List.isChain_singleton _
    | cons c right =>
      exact List.isChain_cons_cons.2 ⟨fun minus => absurd minus (by decide), second.uncareted.chain⟩
  refine List.isChain_append.2 ⟨first.uncareted.chain, behind, ?_⟩
  rintro c last d head -
  obtain rfl : symbol = d := by simpa using head
  exact noDigit

theorem unstructured_signed (first : Numeric left) (second : Numeric right) (operator : isArithmetic symbol = true) :
    Unstructured (left ++ (signedDivider symbol ++ right)) := by
  have parentheses : forall c, c ∈ ['(', ')'] -> isFlat c = false ∧ isArithmetic c = false := by decide
  have letters : forall c, c ∈ initials -> isFlat c = false ∧ isArithmetic c = false := by decide
  constructor
  case noPower =>
    intro d digit meets
    have chain := caret_signed first second operator
    rw [← compact_signed first second operator] at chain
    have related := meets.related chain rfl
    rw [digit] at related
    cases related
  case noParenthesis =>
    exact fun c member parenthesis => absent_signed first second operator (parentheses c parenthesis).1
      (parentheses c parenthesis).2 member
  case unnamed =>
    exact fun c member letter => absent_signed first second operator (letters c letter).1 (letters c letter).2 member

theorem compound_signed (first : Numeric left) (second : Numeric right) (operator : isArithmetic symbol = true) :
    compound (left ++ (signedDivider symbol ++ right)) = left ++ (signedDivider symbol ++ right) := by
  rw [compound_wall (wall_signed operator), compound_solid first.solid, compound_solid second.solid]

theorem trim_signed (first : Numeric left) (second : Numeric right) (operator : isArithmetic symbol = true) :
    trim none (left ++ (signedDivider symbol ++ right)) = left ++ symbol :: '-' :: right := by
  obtain ⟨noSpace, _, tight⟩ := arithmetic_cases operator
  have minus : isSpace '-' = false ∧ isTight '-' = true := by decide
  have wide : IsGap [' ', ' '] := ⟨by simp, by simp [space_isSpace]⟩
  have narrow : IsGap [' '] := ⟨by simp, by simp [space_isSpace]⟩
  have start : right.head?.any isSpace = false := head_not second.starts fun _ => not_space_of_isDigit
  have parts : signedDivider symbol ++ right =
      [' ', ' '] ++ (symbol :: ([' ', ' '] ++ ('-' :: ([' '] ++ right)))) := rfl
  have front (before : Option Char) (rest : List Char) :
      trim before ([' ', ' '] ++ (symbol :: rest)) = symbol :: trim (some symbol) rest := by
    rw [@trim_dropped before [' ', ' '] (symbol :: rest) wide noSpace (.inr tight), trim_other noSpace]
  have middle (rest : List Char) :
      trim (some symbol) ([' ', ' '] ++ ('-' :: rest)) = '-' :: trim (some '-') rest := by
    rw [@trim_dropped (some symbol) [' ', ' '] ('-' :: rest) wide minus.1 (.inl tight), trim_other minus.1]
  have last : trim (some '-') ([' '] ++ right) = right := by
    have whole := @trim_word (some '-') [] right second.solid
    rw [List.append_nil, trim, List.append_nil] at whole
    rw [@trim_dropped (some '-') [' '] right narrow start (.inl minus.2), whole]
  rw [trim_word first.solid, parts, front, middle, last]

theorem clean_signed (first : Numeric left) (second : Numeric right) (operator : isArithmetic symbol = true) :
    clean (left ++ (signedDivider symbol ++ right)) =
      left ++ ((if symbol = '-' then ['-'] else [symbol, '-']) ++ right) := by
  have inner {text : List Char} (numeric : Numeric text) : forall c, c ∈ text -> isArithmetic c = false :=
    fun c member => (digitOrPoint_cases (numeric.chars c member)).2
  have new : isArithmetic symbol = false ∨ lastBehind none left ≠ some symbol := by
    refine .inr fun same => ?_
    rw [lastBehind_none] at same
    have ends := first.ends
    rw [same] at ends
    exact absurd rfl (digit_ne ends (arithmetic_cases operator).2.1)
  have rest (before : Option Char) : collapse before right = right := by
    have whole := @collapse_word before [] right (inner second)
    rwa [List.append_nil, collapse, List.append_nil] at whole
  have collapsed : collapse none (left ++ symbol :: '-' :: right) =
      left ++ ((if symbol = '-' then ['-'] else [symbol, '-']) ++ right) := by
    rw [collapse_word (inner first), collapse_new new]
    split
    next minus =>
      subst minus
      rw [collapse_again operator, rest]
      rfl
    next other =>
      have next : some symbol ≠ some '-' := fun same => other (Option.some.inj same)
      rw [collapse_new (.inr next), rest]
      rfl
  have bounds (middle : List Char) : (left ++ (middle ++ right)).head?.any isInner = true ∧
      (left ++ (middle ++ right)).getLast?.any isInner = true := by
    constructor
    next =>
      have starts := first.starts
      cases left with
      | nil => cases starts
      | cons c left => exact digit_inner starts
    next =>
      have ends := any_imp (fun _ => digit_inner) second.ends
      cases last : right.getLast? with
      | none => simp [last] at ends
      | some c => simpa [List.getLast?_append, last] using ends
  have trimmed := trim_signed first second operator
  have shown := bounds [symbol, '-']
  have out := bounds (if symbol = '-' then ['-'] else [symbol, '-'])
  exact @clean_of_parts _ [] (left ++ symbol :: '-' :: right) [] _ (by simpa using trimmed) (by simp) (by simp)
    shown.1 shown.2 (by simpa using collapsed) out.1 out.2

end Passes

section Derivations

open Grammar.Derivation

variable {left right : List Char}

def negated (right : List Char) : Derivation (.form .signed) :=
  signed true (unsigned (bare (numeral right)))

def negatedGroup (right : List Char) : Derivation (.form .signed) :=
  unsigned (bare (group (chain .sum (chain .product (negated right) (noFurther .product)) (noFurther .sum))))

def single (operand : Derivation (.form .signed)) : Derivation (.form (.chain .product)) :=
  chain .product operand (noFurther .product)

def signedOperation (left : List Char) (operand : Derivation (.form .signed)) : Operator -> Derivation (.form .sum)
  | .add => chain .sum (single (unsigned (bare (numeral left))))
      (further .sum .add (by decide) (single operand) (noFurther .sum))
  | .subtract => chain .sum (single (unsigned (bare (numeral left))))
      (further .sum .subtract (by decide) (single operand) (noFurther .sum))
  | .multiply => chain .sum (chain .product (unsigned (bare (numeral left)))
      (further .product .multiply (by decide) operand (noFurther .product))) (noFurther .sum)
  | .divide => chain .sum (chain .product (unsigned (bare (numeral left)))
      (further .product .divide (by decide) operand (noFurther .product))) (noFurther .sum)
  | .modulo => chain .sum (chain .product (unsigned (bare (numeral left)))
      (further .product .modulo (by decide) operand (noFurther .product))) (noFurther .sum)
  | .power => chain .sum (single (unsigned (raised (numeral left) operand))) (noFurther .sum)

theorem signedOperation_yield (operand : Derivation (.form .signed)) (operator : Operator) :
    (signedOperation left operand operator).yield = .numeral left :: .mark (.operator operator) :: operand.yield := by
  have same : @yield (.form Tier.product.operand) operand = operand.yield := rfl
  cases operator <;> simp [signedOperation, single, same]

theorem signedOperation_content {operand : Derivation (.form .signed)} {named? : List Char -> Option Callable}
    {tree : Expression} (content : operand.content? named? = some tree) (operator : Operator) :
    (signedOperation left operand operator).content? named? = some (.binary operator (.numeral left) tree) := by
  have same : @content? named? (.form Tier.product.operand) operand = some tree := content
  cases operator <;> simp [signedOperation, single, content?, content, same, foldChain]

theorem signedOperation_depth {operand : Derivation (.form .signed)} (operator : Operator) :
    (signedOperation left operand operator).depth <= operand.depth + 1 := by
  have same : @depth (.form Tier.product.operand) operand = operand.depth := rfl
  cases operator <;> simp [signedOperation, single, same]

theorem outcome_negated (first : PlainNumeral left) (second : PlainNumeral right) (operator : Operator) :
    outcome (Evaluation.value (left ++ operator.symbol :: '-' :: right)) =
      outcome (Evaluation.value (left ++ operator.symbol :: '(' :: '-' :: (right ++ [')']))) := by
  have plain {operand : Derivation (.form .signed)}
      (inner : forall text, .numeral text ∈ operand.yield -> text = right) :
      (signedOperation left operand operator).Plain := by
    intro text member
    rw [signedOperation_yield] at member
    rcases List.mem_cons.1 member with same | behind
    next =>
      obtain rfl := Lexeme.numeral.inj same
      exact first
    next =>
      rcases List.mem_cons.1 behind with mark | later
      next => cases mark
      next => exact inner text later ▸ second
  have bareContent := @signedOperation_content left (negated right) surface? _ rfl operator
  have groupContent := @signedOperation_content left (negatedGroup right) surface? _ rfl operator
  have shallow {operand : Derivation (.form .signed)} (levels : operand.depth <= 2) :
      (signedOperation left operand operator).depth <= Parser.maxDepth :=
    Nat.le_trans (signedOperation_depth operator) (Nat.le_trans (Nat.succ_le_succ levels) (by decide))
  have alone := outcome_print (plain (by simp [negated])) bareContent (shallow (by simp [negated]))
  have grouped := outcome_print (plain (by simp [negatedGroup, negated])) groupContent
    (shallow (by simp [negatedGroup, negated]))
  have aloneText : (signedOperation left (negated right) operator).print =
      left ++ operator.symbol :: '-' :: right := by
    rw [print, signedOperation_yield]
    simp [printed, negated, signOperator, Lexeme.text, Mark.char, Operator.symbol]
  have groupText : (signedOperation left (negatedGroup right) operator).print =
      left ++ operator.symbol :: '(' :: '-' :: (right ++ [')']) := by
    rw [print, signedOperation_yield]
    simp [printed, negatedGroup, negated, signOperator, Lexeme.text, Mark.char, Operator.symbol]
  rw [aloneText] at alone
  rw [groupText] at grouped
  rw [alone, grouped]
  rfl

end Derivations

section Meaning

variable {left right phrase : String}

theorem operator_of_symbol {symbol : Char} (operator : isArithmetic symbol = true) :
    exists named : Operator, named.symbol = symbol := by
  have all : forall symbol, symbol ∈ ['+', '-', '*', '/', '^', '%'] -> symbol ∈ Operator.all.map Operator.symbol := by
    decide
  have member := all symbol (by simpa [isArithmetic] using operator)
  obtain ⟨named, _, symbol⟩ := List.mem_map.1 member
  exact ⟨named, symbol⟩

theorem TypedNumeral.plain {text : List Char} (typed : TypedNumeral text) : PlainNumeral text := by
  cases typed with
  | whole present all => exact .whole present all
  | pointed wholePresent _ all => exact .pointed (by simp [wholePresent]) all

/-- The sign of an operand that is spoken behind an operator goes to the operand, but for a minus
sign: behind another one it is lost. -/
theorem calculatesAs_negative (first : TypedNumeral left.toList) (second : TypedNumeral right.toList)
    {entry : Lexicon.Entry} (member : entry ∈ signedOperators)
    (same : lower phrase.toList = (negativePhrase left entry.1 right).toList) :
    CalculatesAs phrase (left ++ merged entry.2 ++ right) ∧
      (entry.2 ≠ "-" ->
        outcome (Evaluation.value (left ++ merged entry.2 ++ right).toList) =
          outcome (Evaluation.value (left ++ entry.2 ++ "(-" ++ right ++ ")").toList)) := by
  obtain ⟨one, operator, spoken⟩ := signedOperators_cases member
  have negative : Heard "negative".toList ['-'] := by decide +kernel
  have written := toList_merged one left right
  constructor
  next =>
    have text : left ++ merged entry.2 ++ right = String.ofList
        (left.toList ++ ((if signOf entry = '-' then ['-'] else [signOf entry, '-']) ++ right.toList)) := by
      rw [← written, String.ofList_toList]
    have items : (negativePhrase left entry.1 right).toList =
        spaced [left.toList, entry.1.toList, "negative".toList, right.toList] := by
      simp [negativePhrase, spaced, following]
    have results : spaced [left.toList, [' ', signOf entry, ' '], ['-'], right.toList] =
        left.toList ++ (signedDivider (signOf entry) ++ right.toList) := by
      simp [signedDivider, spaced, following]
    have solid := compound_signed first.numeric second.numeric operator
    have quiet : Quiet (left.toList ++ (signedDivider (signOf entry) ++ right.toList)) :=
      (quiet_solid first.numeric.solid).wall (quiet_solid second.numeric.solid) (wall_signed operator)
    rw [text]
    apply calculatesAs_of_passes (.cons first.heard (.cons spoken (.cons negative (.cons second.heard .nil))))
      (same.trans items)
    next =>
      rw [results]
      exact quiet
    next => rw [results, solid, joinPoints_tight (pointsTight_signed first.numeric second.numeric operator)]
    next => exact explicit_unstructured (unstructured_signed first.numeric second.numeric operator)
    next => exact quiet
    next => rw [solid, clean_signed first.numeric second.numeric operator]
  next =>
    intro other
    have different : signOf entry ≠ '-' := by
      intro minus
      apply other
      rw [← String.toList_inj, one, minus]
      rfl
    obtain ⟨named, symbol⟩ := operator_of_symbol operator
    have grouped : (left ++ entry.2 ++ "(-" ++ right ++ ")").toList =
        left.toList ++ signOf entry :: '(' :: '-' :: (right.toList ++ [')']) := by
      simp [one]
    rw [written, if_neg different, grouped, ← symbol]
    exact outcome_negated first.plain second.plain named

theorem calculatesAs_negative_lost :
    lower "5 Minus Negative 3".toList = (negativePhrase "5" "minus" "3").toList ∧
      CalculatesAs "5 Minus Negative 3" "5-3" ∧
      lower "2.5 to the power of negative 2".toList = (negativePhrase "2.5" "to the power of" "2").toList ∧
      CalculatesAs "2.5 to the power of negative 2" "2.5^-2" ∧
      outcome (Evaluation.value "2.5^-2".toList) = outcome (Evaluation.value "2.5^(-2)".toList) := by
  have five : TypedNumeral "5".toList := .whole (by decide) (by decide)
  have three : TypedNumeral "3".toList := .whole (by decide) (by decide)
  have two : TypedNumeral "2".toList := .whole (by decide) (by decide)
  have pointed : TypedNumeral "2.5".toList := @TypedNumeral.pointed ['2'] ['5'] (by decide) (by decide) (by decide)
  have minus : lower "5 Minus Negative 3".toList = (negativePhrase "5" "minus" "3").toList := by decide +kernel
  have power : lower "2.5 to the power of negative 2".toList = (negativePhrase "2.5" "to the power of" "2").toList := by
    decide +kernel
  have lost := @calculatesAs_negative _ _ _ five three ("minus", "-") (by decide +kernel) minus
  have kept := @calculatesAs_negative _ _ _ pointed two ("to the power of", "^") (by decide +kernel) power
  exact ⟨minus, lost.1, power, kept.1, kept.2 (by decide)⟩

end Meaning

end SpokenArithmetic.Phrase

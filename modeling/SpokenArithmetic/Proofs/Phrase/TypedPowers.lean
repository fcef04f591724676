import SpokenArithmetic.Proofs.Phrase.PowerTowers
import SpokenArithmetic.Proofs.Phrase.SpokenSigns
import SpokenArithmetic.Proofs.Printing.Excess
import SpokenArithmetic.Proofs.Printing.Unrewritten
import SpokenArithmetic.Proofs.Text.Lowered

set_option autoImplicit false

namespace SpokenArithmetic.Phrase

open CallForm Grammar Number Text

section Patterns

variable {A : Type} {pattern : Pattern A} {isBarred : Char -> Bool} {before : Option Char}

structure Raising (pattern : Pattern A) (isBarred : Char -> Bool) : Prop where
  barred : forall before text, before.any isBarred = true -> pattern before text = none
  other : forall before c tail, isDigit c = false -> pattern before (c :: tail) = none
  needs : forall before text found behind, pattern before text = some (found, behind) -> '^' ∈ text

theorem raising_raisedTo (exponent : Char) : Raising (raisedTo exponent) isDigitOrPoint where
  barred before text barred := by simp [raisedTo, Pattern.unlessBehind, barred]
  other before c tail other := by simp [raisedTo, Pattern.unlessBehind, numeral?, digits?, other]
  needs _ _ _ _ matched := (raisedTo_needs matched).subset (by simp)

theorem raising_barePower : Raising barePower isPointOrOpen where
  barred before text barred := by simp [barePower, Pattern.unlessBehind, barred]
  other _ _ _ other := barePower_other other
  needs _ _ _ _ matched := by
    obtain ⟨_, _, meets⟩ := barePower_needs matched
    exact (mem_of_meets meets).1

theorem Raising.replaceFrom_behind (raising : Raising pattern isBarred) {render : A -> List Char}
    {text : List Char} (absent : '^' ∉ text) : pattern.replaceFrom render before 0 text = text := by
  have passes : pattern.Passes before text [] := by
    apply Pattern.passes_of_places
    intro front tail same _
    cases matched : pattern (lastBehind before front) (tail ++ []) with
    | none => rfl
    | some pair =>
      have caret := raising.needs _ _ _ _ matched
      rw [List.append_nil] at caret
      exact absurd (same ▸ List.mem_append_right front caret) absent
  have copied := @Pattern.replaceFrom_passed _ _ render _ _ _ passes
  simpa [Pattern.replaceFrom] using copied

theorem Raising.replaceFrom_caret (raising : Raising pattern isBarred) {render : A -> List Char}
    {text : List Char} (absent : '^' ∉ text) :
    pattern.replaceFrom render before 0 ('^' :: text) = '^' :: text := by
  rw [Pattern.replaceFrom, raising.other _ _ _ (by decide)]
  exact congrArg _ (raising.replaceFrom_behind absent)

theorem Raising.passes (raising : Raising pattern isBarred) {numeral rest : List Char}
    (barred : forall c, c ∈ numeral -> isBarred c = true) (none : pattern before (numeral ++ rest) = none) :
    pattern.Passes before numeral rest := by
  apply Pattern.passes_of_places
  intro front tail same _
  cases front with
  | nil =>
    obtain rfl : numeral = tail := same
    exact none
  | cons c front =>
    apply raising.barred
    have member : (c :: front).getLast (by simp) ∈ numeral := by
      rw [same]
      exact List.mem_append_left _ (List.getLast_mem _)
    rw [lastBehind_eq_getLast? (by simp), List.getLast?_eq_some_getLast (by simp)]
    exact barred _ member

theorem barred_numeric {text : List Char} (numeric : Numeric text) :
    forall c, c ∈ text -> isPointOrOpen c = true := by
  intro c member
  simp [isPointOrOpen, numeric.chars c member]

end Patterns

section Numerals

variable {text rest : List Char}

theorem TypedNumeral.numeral? (typed : TypedNumeral text) (stops : rest.head?.any isDigitOrPoint = false) :
    numeral? (text ++ rest) = some (text, rest) := by
  obtain ⟨pointed, isMantissa⟩ := typed.plain.isMantissa
  refine Token.numeral?_complete typed.numeric.starts isMantissa ?_
  rintro (digit | ⟨_, point⟩)
  next =>
    rw [digit_of_point stops] at digit
    cases digit
  next =>
    rw [point] at stops
    cases stops

theorem Numeric.noCaret (numeric : Numeric text) : '^' ∉ text := by
  intro member
  cases numeric.chars '^' member

theorem skipSpace_gap {gap : List Char} (spaces : forall c, c ∈ gap -> isSpace c = true)
    (stops : rest.head?.any isSpace = false) : skipSpace (gap ++ rest) = rest :=
  (span_iff.2 ⟨rfl, spaces, stops⟩).2

end Numerals

section Structuring

variable {base exponent gap : List Char}

def caret (gap : List Char) : List Char :=
  gap ++ '^' :: gap

theorem caret_stops (spaces : forall c, c ∈ gap -> isSpace c = true) (rest : List Char) :
    (caret gap ++ rest).head?.any isDigitOrPoint = false := by
  cases gap with
  | nil => exact (by decide : isDigitOrPoint '^' = false)
  | cons c gap =>
    have space := space_cases (spaces c List.mem_cons_self)
    have point : c ≠ '.' := by
      rintro rfl
      exact absurd (by simp) space.2.2
    simp [caret, isDigitOrPoint, space.1, point]

theorem skipSpace_caret (spaces : forall c, c ∈ gap -> isSpace c = true) (rest : List Char) :
    skipSpace (caret gap ++ rest) = '^' :: (gap ++ rest) := by
  rw [caret, List.append_assoc]
  exact skipSpace_gap spaces (by decide : isSpace '^' = false)

-- Only a digit directly behind the caret that no digit follows is taken for a square or a cube.
theorem raisedTo_caret {digit : Char} {before : Option Char} (free : before.any isDigitOrPoint = false)
    (typed : TypedNumeral base) (spaces : forall c, c ∈ gap -> isSpace c = true) (rest : List Char) :
    raisedTo digit before (base ++ (caret gap ++ rest)) =
      (after? [digit] (gap ++ rest)).bind fun behind =>
        if behind.head?.any isDigit then none else some (base, behind) := by
  have read := typed.numeral? (caret_stops spaces rest)
  have power : after? ['^', digit] ('^' :: (gap ++ rest)) = after? [digit] (gap ++ rest) := rfl
  simp [raisedTo, Pattern.unlessBehind, free, read, skipSpace_caret spaces, power]

theorem barePower_caret (first : TypedNumeral base) (second : TypedNumeral exponent)
    (spaces : forall c, c ∈ gap -> isSpace c = true) :
    barePower none (base ++ (caret gap ++ exponent)) = some ((base, exponent), []) := by
  have read := first.numeral? (caret_stops spaces exponent)
  have raised := @TypedNumeral.numeral? _ [] second rfl
  have behind := @skipSpace_gap exponent gap spaces
    (head_not second.numeric.starts fun _ => not_space_of_isDigit)
  rw [List.append_nil] at raised
  have power : after? ['^'] ('^' :: (gap ++ exponent)) = some (gap ++ exponent) := after?_eq_some.2 rfl
  simp [barePower, Pattern.unlessBehind, read, skipSpace_caret spaces, power, behind, raised]

section Unmatched

variable {A : Type} {pattern : Pattern A} {isBarred : Char -> Bool} {before : Option Char} {rest : List Char}

theorem Raising.replaceFrom_power (raising : Raising pattern isBarred) {render : A -> List Char}
    (barred : forall c, c ∈ base -> isBarred c = true) (spaces : forall c, c ∈ gap -> isSpace c = true)
    (absent : '^' ∉ gap ++ rest) (none : pattern before (base ++ (caret gap ++ rest)) = none) :
    pattern.replaceFrom render before 0 (base ++ (caret gap ++ rest)) = base ++ (caret gap ++ rest) := by
  have blank (before : Option Char) : pattern.Passes before gap ('^' :: (gap ++ rest)) :=
    Pattern.passes_of_unmatched fun _ c _ member => raising.other _ _ _ (space_cases (spaces c member)).1
  have parts : caret gap ++ rest = gap ++ '^' :: (gap ++ rest) := by simp [caret]
  rw [Pattern.replaceFrom_passed (raising.passes barred none), parts, Pattern.replaceFrom_passed (blank _),
    raising.replaceFrom_caret absent]

theorem Raising.replace_opened (raising : Raising pattern isBarred) {render : A -> List Char}
    (barred : forall c, c ∈ base -> isBarred c = true) (absent : '^' ∉ rest)
    (none : pattern (some '(') (base ++ (caret [] ++ rest)) = none) :
    pattern.replace render ('(' :: (base ++ (caret [] ++ rest))) = '(' :: (base ++ (caret [] ++ rest)) := by
  rw [Pattern.replace, Pattern.replaceFrom, raising.other _ _ _ (by decide)]
  exact congrArg _ (raising.replaceFrom_power barred (by simp) absent none)

end Unmatched

theorem barred_digits {text : List Char} (numeric : Numeric text) :
    forall c, c ∈ text -> isDigitOrPoint c = true :=
  numeric.chars

theorem parenthesizePowers_raised {digit : Char} {rest : List Char} (typed : TypedNumeral base)
    (raises : digit ∈ ['2', '3']) (stops : rest.head?.any isDigit = false) (absent : '^' ∉ rest) :
    parenthesizePowers (base ++ (caret [] ++ digit :: rest)) = parenthesizePower base [digit] ++ rest := by
  have noCaret : '^' ∉ digit :: ')' :: rest := by
    have other : forall digit, digit ∈ ['2', '3'] -> '^' ≠ digit := by decide
    simp [absent, other digit raises]
  have matched : raisedTo digit none ((base ++ (caret [] ++ [digit])) ++ rest) = some (base, rest) := by
    have found := @raisedTo_caret base [] digit none rfl typed (by simp) (digit :: rest)
    simpa [after?, stops] using found
  have written : (raisedTo digit).replace (parenthesizePower · [digit]) (base ++ (caret [] ++ digit :: rest)) =
      parenthesizePower base [digit] ++ rest := by
    have present : base ++ (caret [] ++ [digit]) ≠ [] := by simp [caret]
    have text : base ++ (caret [] ++ digit :: rest) = (base ++ (caret [] ++ [digit])) ++ rest := by simp
    rw [text, Pattern.replace, Pattern.replaceFrom_matched present matched,
      (raising_raisedTo digit).replaceFrom_behind absent]
  have opened : parenthesizePower base [digit] ++ rest = '(' :: (base ++ (caret [] ++ digit :: ')' :: rest)) := by
    simp [parenthesizePower, caret]
  have bare : barePower.replace (fun power => parenthesizePower power.1 power.2)
      (parenthesizePower base [digit] ++ rest) = parenthesizePower base [digit] ++ rest := by
    rw [opened]
    exact raising_barePower.replace_opened (barred_numeric typed.numeric) noCaret (raising_barePower.barred _ _ rfl)
  -- The pass for the other digit finds nothing, before or after the one for this digit.
  have other {second : Char} (different : digit ≠ second) {before : Option Char}
      (free : before.any isDigitOrPoint = false) (behind : List Char) :
      raisedTo second before (base ++ (caret [] ++ digit :: behind)) = none := by
    have found := @raisedTo_caret base [] second before free typed (by simp) (digit :: behind)
    simpa [after?, Ne.symm different] using found
  unfold parenthesizePowers
  simp only [List.mem_cons, List.not_mem_nil, or_false] at raises
  rcases raises with rfl | rfl
  next =>
    have cubes := @Raising.replace_opened base _ _ _ _ (raising_raisedTo '3') (parenthesizePower · ['3'])
      (barred_digits typed.numeric) noCaret (other (by decide) (by decide) (')' :: rest))
    rw [← opened] at cubes
    rw [written]
    dsimp only
    rw [cubes, bare]
  next =>
    have squares : (raisedTo '2').replace (parenthesizePower · ['2']) (base ++ (caret [] ++ '3' :: rest)) =
        base ++ (caret [] ++ '3' :: rest) :=
      (raising_raisedTo '2').replaceFrom_power (barred_digits typed.numeric) (by simp) (by simpa using absent)
        (other (by decide) rfl rest)
    rw [squares]
    dsimp only
    rw [written, bare]

theorem noCaret_gap (second : TypedNumeral exponent) (spaces : forall c, c ∈ gap -> isSpace c = true) :
    '^' ∉ gap ++ exponent := by
  intro member
  rcases List.mem_append.1 member with inGap | inExponent
  next => exact absurd (spaces '^' inGap) (by decide)
  next => exact second.numeric.noCaret inExponent

theorem parenthesizePowers_whole (first : TypedNumeral base) (second : TypedNumeral exponent)
    (spaces : forall c, c ∈ gap -> isSpace c = true)
    (whole : forall digit rest, digit ∈ ['2', '3'] -> gap ++ exponent = digit :: rest ->
      rest.head?.any isDigit = true) :
    parenthesizePowers (base ++ (caret gap ++ exponent)) = parenthesizePower base exponent := by
  have noCaret := noCaret_gap second spaces
  have raised {digit : Char} (raises : digit ∈ ['2', '3']) :
      (raisedTo digit).replace (parenthesizePower · [digit]) (base ++ (caret gap ++ exponent)) =
        base ++ (caret gap ++ exponent) := by
    refine (raising_raisedTo digit).replaceFrom_power (barred_digits first.numeric) spaces noCaret ?_
    rw [raisedTo_caret rfl first spaces]
    cases found : after? [digit] (gap ++ exponent) with
    | none => rfl
    | some rest =>
      have digits := whole digit rest raises (after?_eq_some.1 found)
      simp [digits]
  have present : base ++ (caret gap ++ exponent) ≠ [] := by simp [caret]
  have matched := barePower_caret first second spaces
  rw [← List.append_nil (base ++ (caret gap ++ exponent))] at matched
  unfold parenthesizePowers
  rw [raised (by simp)]
  dsimp only
  rw [raised (by simp), ← List.append_nil (base ++ (caret gap ++ exponent)), Pattern.replace,
    Pattern.replaceFrom_matched present matched]
  simp [Pattern.replaceFrom]

end Structuring

section Written

inductive Remainder : List Char -> Prop where
  | none : Remainder []
  | fraction {digits : List Char} (present : digits ≠ []) (all : forall c, c ∈ digits -> c.isDigit = true) :
    Remainder ('.' :: digits)

variable {base exponent rest : List Char} {related : Char -> Char -> Prop}

theorem Remainder.chars (remainder : Remainder rest) : forall c, c ∈ rest -> isDigitOrPoint c = true := by
  intro c member
  cases remainder with
  | none => cases member
  | fraction _ all =>
    rcases List.mem_cons.1 member with rfl | inDigits
    next => decide
    next => simp [isDigitOrPoint, isDigit_of_asciiDigit (all c inDigits)]

theorem Remainder.stops (remainder : Remainder rest) : rest.head?.any isDigit = false := by
  cases remainder with
  | none => rfl
  | fraction => exact (by decide : isDigit '.' = false)

theorem Remainder.noCaret (remainder : Remainder rest) : '^' ∉ rest := by
  intro member
  cases remainder.chars '^' member

structure LinksPower (related : Char -> Char -> Prop) : Prop where
  inside : forall c d, isDigitOrPoint c = true -> isDigitOrPoint d = true -> related c d
  opening : forall d, isDigit d = true -> related '(' d
  raised : forall c, isDigit c = true -> related c '^'
  exponent : forall d, isDigit d = true -> related '^' d
  closing : forall c, isDigit c = true -> related c ')'
  fraction : related ')' '.'

theorem links_single (c : Char) : Links related (· == c) (· == c) [c] :=
  ⟨List.isChain_singleton c, by simp, by simp⟩

theorem LinksPower.links (links : LinksPower related) (first : Numeric base) (second : Numeric exponent) :
    Links related (· == '(') (· == ')') (parenthesizePower base exponent) := by
  have numeral {text : List Char} (numeric : Numeric text) : Links related isDigit isDigit text :=
    ⟨chain_of_forall fun c d inFirst inSecond =>
        links.inside c d (numeric.chars c inFirst) (numeric.chars d inSecond),
      numeric.starts, numeric.ends⟩
  have closed := (numeral second).append (links_single ')') fun c d digit same => by
    obtain rfl : d = ')' := by simpa using same
    exact links.closing c digit
  have behind := (links_single '^').append closed fun c d same digit => by
    obtain rfl : c = '^' := by simpa using same
    exact links.exponent d digit
  have middle := (numeral first).append behind fun c d digit same => by
    obtain rfl : d = '^' := by simpa using same
    exact links.raised c digit
  have whole := (links_single '(').append middle fun c d same digit => by
    obtain rfl : c = '(' := by simpa using same
    exact links.opening d digit
  have parts : parenthesizePower base exponent = ['('] ++ (base ++ (['^'] ++ (exponent ++ [')']))) := by
    simp [parenthesizePower]
  rw [parts]
  exact whole

theorem LinksPower.remainder (links : LinksPower related) (first : Numeric base) (second : Numeric exponent)
    (remainder : Remainder rest) :
    Links related (· == '(') (fun c => c == ')' || isDigit c) (parenthesizePower base exponent ++ rest) := by
  have power := links.links first second
  have inside := remainder.chars
  cases remainder with
  | none =>
    rw [List.append_nil]
    exact ⟨power.chain, power.starts, any_imp (fun c same => by simp [beq_iff_eq.1 same]) power.ends⟩
  | @fraction digits present all =>
    have ends : ('.' :: digits).getLast?.any isDigit = true :=
      @getLast?_append_digits ['.'] digits (isDigits_ascii present all)
    have behind : Links related (· == '.') (fun c => c == ')' || isDigit c) ('.' :: digits) :=
      ⟨chain_of_forall fun c d inFirst inSecond => links.inside c d (inside c inFirst) (inside d inSecond), by simp,
        any_imp (fun c digit => by simp [digit]) ends⟩
    refine power.append behind fun c d closing point => ?_
    obtain rfl : c = ')' := by simpa using closing
    obtain rfl : d = '.' := by simpa using point
    exact links.fraction

theorem written_chars (first : Numeric base) (second : Numeric exponent) (remainder : Remainder rest) :
    forall c, c ∈ parenthesizePower base exponent ++ rest -> isDigitOrPoint c = true ∨ c ∈ ['(', '^', ')'] := by
  intro c member
  simp only [parenthesizePower, List.cons_append, List.mem_cons, List.mem_append, List.not_mem_nil, or_false]
    at member
  rcases member with opening | ((inBase | caret | inExponent) | closing) | inRest
  next => exact .inr (by simp [opening])
  next => exact .inl (first.chars c inBase)
  next => exact .inr (by simp [caret])
  next => exact .inl (second.chars c inExponent)
  next => exact .inr (by simp [closing])
  next => exact .inl (remainder.chars c inRest)

theorem digit_of_point_ne {c d : Char} (kind : isDigitOrPoint c = true) (other : isDigitOrPoint d = false) :
    c ≠ d := by
  rintro rfl
  rw [kind] at other
  cases other

theorem linksPower_unmultiplied : LinksPower Unmultiplied := by
  have parentheses : isDigitOrPoint '(' = false ∧ isDigitOrPoint ')' = false := by decide
  have kind {c : Char} (digit : isDigit c = true) : isDigitOrPoint c = true := by simp [isDigitOrPoint, digit]
  constructor
  case inside =>
    exact fun c d first second => ⟨fun same => absurd same (digit_of_point_ne second parentheses.1),
      fun same => absurd same (digit_of_point_ne first parentheses.2)⟩
  case opening =>
    exact fun d digit => ⟨fun same => absurd same (digit_of_point_ne (kind digit) parentheses.1),
      fun same => absurd same (by decide)⟩
  case raised =>
    exact fun c digit => ⟨fun same => absurd same (by decide), fun _ => by decide⟩
  case exponent =>
    exact fun d digit => ⟨fun same => absurd same (digit_of_point_ne (kind digit) parentheses.1),
      fun same => absurd same (by decide)⟩
  case closing =>
    exact fun c digit => ⟨fun same => absurd same (by decide), fun _ => by decide⟩
  case fraction => exact ⟨fun same => absurd same (by decide), fun _ => by decide⟩

theorem linksPower_unrepeated : LinksPower Unrepeated := by
  have inner {d : Char} (kind : isDigitOrPoint d = true) : isArithmetic d = false := (digitOrPoint_cases kind).2
  have kind {c : Char} (digit : isDigit c = true) : isDigitOrPoint c = true := by simp [isDigitOrPoint, digit]
  constructor
  case inside =>
    intro c d _ second operator
    rw [inner second] at operator
    cases operator
  case opening => exact fun d digit => unrepeated_before (digit_inner digit)
  case raised => exact fun c digit => unrepeated_behind (digit_inner digit)
  case exponent => exact fun d digit => unrepeated_before (digit_inner digit)
  case closing => exact fun c digit => unrepeated_behind (digit_inner digit)
  case fraction => exact unrepeated_before (by decide)

theorem closed_written (first : Numeric base) (second : Numeric exponent) (remainder : Remainder rest) :
    Closed (parenthesizePower base exponent ++ rest) where
  solid := by
    have marks : forall c, c ∈ ['(', '^', ')'] -> isSpace c = false := by decide
    intro c member
    rcases written_chars first second remainder c member with kind | mark
    next => exact (digitOrPoint_cases kind).1
    next => exact marks c mark
  links := by
    have links := linksPower_unrepeated.remainder first second remainder
    refine ⟨links.chain, any_imp (fun c same => ?_) links.starts, any_imp (fun c same => ?_) links.ends⟩
    next =>
      obtain rfl : c = '(' := by simpa using same
      decide
    next =>
      rcases Bool.or_eq_true_iff.1 same with closing | digit
      next =>
        obtain rfl : c = ')' := by simpa using closing
        decide
      next => exact digit_inner digit

theorem explicit_written {text : List Char} (first : Numeric base) (second : Numeric exponent)
    (remainder : Remainder rest) (powers : parenthesizePowers text = parenthesizePower base exponent ++ rest) :
    explicit text = parenthesizePower base exponent ++ rest := by
  have chars := written_chars first second remainder
  have unnamed : forall c, c ∈ parenthesizePower base exponent ++ rest -> c ∉ initials := by
    have marks : forall c, c ∈ ['(', '^', ')'] -> c ∉ initials := by decide
    have letters : forall c, c ∈ initials -> isDigitOrPoint c = false := by decide
    intro c member letter
    rcases chars c member with kind | mark
    next => exact digit_of_point_ne kind (letters c letter) rfl
    next => exact marks c mark letter
  have chain := (linksPower_unmultiplied.remainder first second remainder).chain
  rw [← compact_solid (closed_written first second remainder).solid] at chain
  have openings (c : Char) (kind : isDigitOrClose c = true) :
      ¬Meets (parenthesizePower base exponent ++ rest) c '(' := by
    intro meets
    rw [(meets.related chain).1 rfl] at kind
    cases kind
  have closings (d : Char) (digit : isDigit d = true) :
      ¬Meets (parenthesizePower base exponent ++ rest) ')' d := by
    intro meets
    rw [(meets.related chain).2 rfl] at digit
    cases digit
  rw [explicit, powers, writeCalls_unchanged unnamed, writeProducts_unchanged unnamed openings closings]

end Written

section Heard

variable {left right text : List Char}

def isTyped (c : Char) : Bool :=
  c.isDigit || c == '.' || c == '^' || c == ' '

theorem typed_cases {c : Char} (typed : isTyped c = true) :
    Case.Settled c ∧ c.isAlpha = false ∧ isAllowed c = true := by
  have allowed : isAllowed c = true := by
    simp only [isTyped, Bool.or_eq_true, beq_iff_eq] at typed
    rcases typed with ((digit | rfl) | rfl) | rfl
    next => exact isAllowed_of_asciiDigit digit
    all_goals decide
  have all : forall c, c ∈ alphabet -> isTyped c = true -> Case.Settled c ∧ c.isAlpha = false := by decide +kernel
  exact ⟨(all c (mem_alphabet allowed) typed).1, (all c (mem_alphabet allowed) typed).2, allowed⟩

theorem lower_typed (typed : forall c, c ∈ text -> isTyped c = true) : lower text = text :=
  lowerFrom_settled (fun c member => (typed_cases (typed c member)).1) []

theorem heard_typed (unpadded : Unpadded text) (typed : forall c, c ∈ text -> isTyped c = true) : Heard text text :=
  heard_unlettered unpadded fun c member => (typed_cases (typed c member)).2.1

theorem TypedNumeral.typed (numeral : TypedNumeral text) : forall c, c ∈ text -> isTyped c = true := by
  intro c member
  rcases numeral.chars c member with digit | rfl
  next => simp [isTyped, digit]
  next => decide

theorem typed_caret {gap : List Char} (first : TypedNumeral left) (second : TypedNumeral right)
    (spaces : forall c, c ∈ gap -> c = ' ') : forall c, c ∈ left ++ (caret gap ++ right) -> isTyped c = true := by
  intro c member
  simp only [caret, List.mem_append, List.mem_cons] at member
  rcases member with inLeft | (front | rfl | behind) | inRight
  next => exact first.typed c inLeft
  next =>
    obtain rfl := spaces c front
    decide
  next => decide
  next =>
    obtain rfl := spaces c behind
    decide
  next => exact second.typed c inRight

theorem unpadded_caret (first : TypedNumeral left) (second : TypedNumeral right) (gap : List Char) :
    Unpadded (left ++ (caret gap ++ right)) := by
  obtain ⟨starts, _⟩ := first.numeric.unpadded
  obtain ⟨_, ends⟩ := second.numeric.unpadded
  constructor
  next =>
    cases left with
    | nil => cases starts
    | cons c left => exact starts
  next =>
    cases last : right.getLast? with
    | none => simp [last] at ends
    | some c => simpa [← List.append_assoc, List.getLast?_append, last] using ends

theorem links_caret {gap : List Char} (first : TypedNumeral left) (second : TypedNumeral right)
    {related : Char -> Char -> Prop}
    (inside : forall c d, isDigitOrPoint c = true -> isDigitOrPoint d = true -> related c d)
    {isFirst isLast : Char -> Bool} (sign : Links related isFirst isLast (caret gap))
    (enter : forall c d, isDigit c = true -> isFirst d = true -> related c d)
    (leave : forall c d, isLast c = true -> isDigit d = true -> related c d) :
    (left ++ (caret gap ++ right)).IsChain related := by
  have numeral {text : List Char} (numeric : Numeric text) : Links related isDigit isDigit text :=
    ⟨chain_of_forall fun c d inFirst inSecond => inside c d (numeric.chars c inFirst) (numeric.chars d inSecond),
      numeric.starts, numeric.ends⟩
  exact ((numeral first.numeric).append (sign.append (numeral second.numeric) leave) enter).chain

end Heard

section Calculated

variable {left right exponent rest gap : List Char} {phrase : String}

theorem pointsTight_caret (first : TypedNumeral left) (second : TypedNumeral right)
    (spaces : forall c, c ∈ gap -> c = ' ') : PointsTight (left ++ (caret gap ++ right)) := by
  have signs : forall c, c ∈ caret gap -> c = ' ' ∨ c = '^' := by
    intro c member
    simp only [caret, List.mem_append, List.mem_cons] at member
    rcases member with front | rfl | behind
    next => exact .inl (spaces c front)
    next => exact .inr rfl
    next => exact .inl (spaces c behind)
  have present : caret gap ≠ [] := by simp [caret]
  obtain ⟨head, tail, shape⟩ := List.exists_cons_of_ne_nil present
  have noPoint : '.' ∉ caret gap := fun member => absurd (signs '.' member) (by decide)
  have sign : Links TightPoint (· != '.') (· != '.') (caret gap) := by
    refine ⟨tight_of_absent noPoint, ?_, ?_⟩
    next =>
      have starts : head ≠ '.' := fun same => noPoint (by simp [shape, same])
      simpa [shape] using starts
    next =>
      have ends : (caret gap).getLast present ≠ '.' := fun same => noPoint (same ▸ List.getLast_mem present)
      simpa [List.getLast?_eq_some_getLast present] using ends
  have solid {c : Char} (digit : isDigit c = true) : c ≠ '.' := digit_ne digit (by decide)
  refine links_caret first second (fun c d inFirst inSecond => ?_) sign (fun c d digit other => ?_)
    (fun c d other digit => ?_)
  next => exact ⟨fun _ => (digitOrPoint_cases inSecond).1, fun _ => (digitOrPoint_cases inFirst).1⟩
  next => exact ⟨fun same => absurd same (solid digit), fun same => absurd same (by simpa using other)⟩
  next => exact ⟨fun same => absurd same (by simpa using other), fun same => absurd same (solid digit)⟩

theorem calculatesAs_parenthesized {items results : List (List Char)} (heard : List.Forall₂ Heard items results)
    (spoken : lower phrase.toList = spaced items) (quiet : Quiet (spaced results))
    (kept : joinPoints (compound (spaced results)) = spaced results) (first : Numeric left)
    (second : Numeric exponent)
    (remainder : Remainder rest)
    (powers : parenthesizePowers (spaced results) = parenthesizePower left exponent ++ rest) :
    CalculatesAs phrase (String.ofList (parenthesizePower left exponent ++ rest)) := by
  have closed := closed_written first second remainder
  have formula : Formula (parenthesizePower left exponent ++ rest) [] := ⟨closed, by simp, by simp⟩
  have cleaned := formula.clean_eq ⟨.inl rfl, .inl rfl⟩
  simp only [operation, List.flatMap_nil, List.append_nil, List.nil_append] at cleaned
  apply calculatesAs_of_passes heard spoken quiet kept (explicit_written first second remainder powers)
  next => exact quiet_solid closed.solid
  next => rw [compound_solid closed.solid, cleaned]

theorem calculatesAs_tight (first : TypedNumeral left) (second : TypedNumeral right) (numeric : Numeric exponent)
    (remainder : Remainder rest)
    (powers : parenthesizePowers (left ++ (caret [] ++ right)) = parenthesizePower left exponent ++ rest)
    (same : phrase.toList = left ++ (caret [] ++ right)) :
    CalculatesAs phrase (String.ofList (parenthesizePower left exponent ++ rest)) := by
  have typed := @typed_caret _ _ [] first second (by simp)
  have one : spaced [left ++ (caret [] ++ right)] = left ++ (caret [] ++ right) := by simp [spaced, following]
  have solid : forall c, c ∈ left ++ (caret [] ++ right) -> isSpace c = false := by
    intro c member
    simp only [caret, List.nil_append, List.mem_append, List.mem_cons, List.not_mem_nil, or_false] at member
    rcases member with inLeft | rfl | inRight
    next => exact first.numeric.solid c inLeft
    next => decide
    next => exact second.numeric.solid c inRight
  apply calculatesAs_parenthesized (.cons (heard_typed (unpadded_caret first second []) typed) .nil)
  case spoken => rw [same, one, lower_typed typed]
  case quiet => rw [one]; exact quiet_solid solid
  case kept => rw [one, compound_solid solid, joinPoints_tight (pointsTight_caret first second (by simp))]
  case first => exact first.numeric
  case second => exact numeric
  case remainder => exact remainder
  case powers => rw [one, powers]

theorem calculatesAs_apart (first : TypedNumeral left) (second : TypedNumeral right)
    (same : phrase.toList = left ++ (caret [' '] ++ right)) :
    CalculatesAs phrase (String.ofList (parenthesizePower left right ++ [])) := by
  have typed := @typed_caret _ _ [' '] first second (by simp)
  have items : spaced [left, ['^'], right] = left ++ (caret [' '] ++ right) := by simp [spaced, following, caret]
  have wall : Wall (caret [' ']) := by
    constructor
    case noDigit => decide
    case solid => exact ⟨'^', by decide, by decide⟩
    case starts => decide
    case ends => decide
  have spaces : forall c, c ∈ [' '] -> isSpace c = true := by decide
  have heard : List.Forall₂ Heard [left, ['^'], right] [left, ['^'], right] :=
    .cons first.heard (.cons (heard_unlettered (by decide) (by decide)) (.cons second.heard .nil))
  apply calculatesAs_parenthesized heard
  case spoken => rw [same, items, lower_typed typed]
  case quiet =>
    rw [items]
    exact (quiet_solid first.numeric.solid).wall (quiet_solid second.numeric.solid) wall
  case kept =>
    rw [items, compound_wall wall, compound_solid first.numeric.solid, compound_solid second.numeric.solid,
      joinPoints_tight (pointsTight_caret first second (by simp))]
  case first => exact first.numeric
  case second => exact second.numeric
  case remainder => exact .none
  case powers =>
    have whole : forall digit rest, digit ∈ ['2', '3'] -> [' '] ++ right = digit :: rest ->
        rest.head?.any isDigit = true := by
      intro digit rest raises parts
      obtain ⟨rfl, _⟩ := List.cons.inj parts
      exact absurd raises (by decide)
    rw [items, parenthesizePowers_whole first second spaces whole, List.append_nil]

end Calculated

section Outcomes

open Evaluation

variable {left right digits : List Char} {digit : Char}

theorem towerText_power (base exponent : List Char) :
    towerText [.power base exponent] = parenthesizePower base exponent := by
  simp [towerText, Factor.text]

theorem towerText_numerals (base exponent : List Char) :
    towerText [.numeral base, .numeral exponent] = base ++ (caret [] ++ exponent) := by
  simp [towerText, Factor.text, caret]

def bareTower (base exponent : List Char) : Derivation (.form .sum) :=
  tower (.numeral base) [.numeral exponent]

def openTower (base exponent : List Char) : Derivation (.form .sum) :=
  tower (.power base exponent) []

theorem yield_bareTower (base exponent : List Char) :
    (bareTower base exponent).yield = [.numeral base, .mark (.operator .power), .numeral exponent] := by
  simp [bareTower, yield_tower, towerOperand, Factor.derivation]

theorem yield_openTower (base exponent : List Char) : (openTower base exponent).yield =
    [.mark .opening, .numeral base, .mark (.operator .power), .numeral exponent, .mark .closing] := by
  simp [openTower, yield_tower, towerOperand, Factor.derivation]

theorem plain_levels {factors : List Factor} (first : PlainNumeral left) (second : PlainNumeral right)
    (same : factors.flatMap Factor.numerals = [left, right]) :
    forall factor, factor ∈ factors -> forall text, text ∈ factor.numerals -> PlainNumeral text := by
  intro factor member text inFactor
  have among : text ∈ factors.flatMap Factor.numerals := List.mem_flatMap.2 ⟨factor, member, inFactor⟩
  rw [same] at among
  simp only [List.mem_cons, List.not_mem_nil, or_false] at among
  rcases among with rfl | rfl
  next => exact first
  next => exact second

theorem outcome_bare (first : PlainNumeral left) (second : PlainNumeral right) :
    outcome (value (left ++ (caret [] ++ right))) =
      outcome (rounded (((towerTree (.numeral left) [.numeral right]).value doubles).mapError .refused)) := by
  have bare := @outcome_tower (.numeral left) [.numeral right] (plain_levels first second rfl)
    (Nat.le_of_ble_eq_true rfl)
  rwa [towerText_numerals] at bare

theorem outcome_parenthesized (first : PlainNumeral left) (second : PlainNumeral right) :
    outcome (value (parenthesizePower left right)) = outcome (value (left ++ (caret [] ++ right))) := by
  have grouped := @outcome_tower (.power left right) [] (plain_levels first second rfl) (Nat.le_of_ble_eq_true rfl)
  rw [towerText_power] at grouped
  rw [grouped, outcome_bare first second]
  rfl

theorem outcome_bare_ne_malformed (first : PlainNumeral left) (second : PlainNumeral right) :
    outcome (value (left ++ (caret [] ++ right))) ≠ .error .malformed := by
  obtain ⟨result, valued⟩ : exists result, (towerTree (.numeral left) [.numeral right]).value doubles = .ok result :=
    ⟨_, rfl⟩
  rw [outcome_bare first second, valued]
  simp only [Except.mapError, rounded]
  split <;> simp [outcome, Except.mapError, Failure.category]

theorem outcome_apart (first : TypedNumeral left) (second : TypedNumeral right) :
    outcome (value (left ++ (caret [' '] ++ right))) = outcome (value (left ++ (caret [] ++ right))) := by
  have typed := @typed_caret _ _ [' '] first second (by simp)
  have sign : Links (fun c d => c = '^' -> isDigit d = false) isSpace isSpace (caret [' ']) :=
    ⟨by simp [caret, space_noDigit], space_isSpace, space_isSpace⟩
  have chain := links_caret first second
    (fun c d kind _ same => absurd same (digit_of_point_ne kind (by decide))) sign
    (fun c d digit _ same => absurd same (digit_ne digit (by decide)))
    (fun c d space _ same => by
      rw [same] at space
      cases space)
  have unrewritten : Unrewritten (left ++ (caret [' '] ++ right)) := by
    constructor
    case allowed => exact fun c member => (typed_cases (typed c member)).2.2
    case noPower =>
      intro d digit stands
      have related : '^' = '^' -> isDigit d = false := by simpa using chain.infix stands
      rw [related rfl] at digit
      cases digit
    case unnamed =>
      have letters : forall c, c ∈ CallForm.initials -> isTyped c = false := by decide
      intro c member letter
      have other := letters c letter
      rw [typed c member] at other
      cases other
  have lexed : Token.lexes (left ++ (caret [' '] ++ right)) = some (bareTower left right).yield := by
    have fits {text rest : List Char} (numeral : TypedNumeral text)
        (spaces : rest = [] ∨ exists tail, rest = ' ' :: tail) :
        Token.Fits (.numeral text) rest := by
      obtain ⟨pointed, isMantissa⟩ := numeral.plain.isMantissa
      rcases spaces with rfl | ⟨tail, rfl⟩
      next => exact .plain isMantissa (by simp [Token.Lengthens]) rfl
      next => exact .plain isMantissa (by simp [Token.Lengthens, space_noDigit]) rfl
    have base := Token.lexes_lexeme (fits first (.inr ⟨'^' :: ' ' :: right, rfl⟩))
    have sign := @Token.lexes_lexeme (.mark (.operator .power)) (' ' :: right) .mark
    have exponent := Token.lexes_lexeme (fits second (.inl rfl))
    simp only [Lexeme.text, Mark.char, Operator.symbol, List.singleton_append, List.append_nil,
      Token.lexes_space space_isSpace] at base sign exponent
    have parts : left ++ (caret [' '] ++ right) = left ++ ' ' :: '^' :: ' ' :: right := by simp [caret]
    rw [parts, base, sign, exponent, yield_bareTower]
    rfl
  have valued := unrewritten.value_eq lexed (Nat.le_of_ble_eq_true rfl) (content_tower _)
  rw [valued, outcome_bare first.plain second.plain]

theorem outcome_torn (first : TypedNumeral left) (digitOf : digit.isDigit = true) (present : digits ≠ [])
    (all : forall c, c ∈ digits -> c.isDigit = true) :
    outcome (value (parenthesizePower left [digit] ++ '.' :: digits)) = .error .malformed := by
  have exponent : PlainNumeral [digit] := .whole (by simp) (by simpa using digitOf)
  have fraction : PlainNumeral ('.' :: digits) := @PlainNumeral.pointed [] digits (by simpa using present) all
  have text : parenthesizePower left [digit] ++ '.' :: digits =
      printed ((openTower left [digit]).yield ++ [.numeral ('.' :: digits)]) := by
    simp [yield_openTower, parenthesizePower, printed, Lexeme.text, Mark.char, Operator.symbol]
  have writable : forall lexeme, lexeme ∈ (openTower left [digit]).yield ++ [.numeral ('.' :: digits)] ->
      Writable lexeme := by
    intro lexeme member
    simp only [yield_openTower, List.cons_append, List.nil_append, List.mem_cons, List.not_mem_nil, or_false]
      at member
    rcases member with rfl | rfl | rfl | rfl | rfl | rfl
    next => trivial
    next => exact first.plain
    next => trivial
    next => exact exponent
    next => trivial
    next => exact fraction
  have separated : Separated ((openTower left [digit]).yield ++ [.numeral ('.' :: digits)]) := by
    rw [yield_openTower]
    exact .mark _ (.word _ (.mark _ _) (.mark _ (.word _ (.mark _ _) (.mark _ (.word _ .nil .nil)))))
  have chars := printed_allowed writable
  have lexed := lexes_printed separated writable
  rw [text]
  apply Derivation.outcome_excess (fun c member => (chars c member).1) _ lexed (content_tower _)
    (Nat.le_of_ble_eq_true rfl) rfl
  exact powersApart_of_plain (fun c member => (chars c member).1) (fun c member => (chars c member).2) lexed
    fun literal member => PlainNumeral.isMantissa (writable _ member)

end Outcomes

section Meaning

open Evaluation

def Torn (exponent : List Char) : Prop :=
  exists digit digits, digit ∈ ['2', '3'] ∧ exponent = digit :: '.' :: digits

theorem TypedNumeral.fraction {digit : Char} {digits : List Char} (typed : TypedNumeral (digit :: '.' :: digits)) :
    digits ≠ [] ∧ forall c, c ∈ digits -> c.isDigit = true := by
  generalize same : digit :: '.' :: digits = text at typed
  cases typed with
  | whole _ all =>
    have point : '.' ∈ text := by simp [← same]
    exact absurd (all '.' point) (by decide)
  | @pointed whole fraction wholePresent fractionPresent all =>
    obtain ⟨first, others, rfl⟩ := List.exists_cons_of_ne_nil wholePresent
    obtain ⟨_, parts⟩ := List.cons.inj same
    cases others with
    | nil =>
      obtain rfl : digits = fraction := (List.cons.inj parts).2
      exact ⟨fractionPresent, fun c member => all c (by simp [member])⟩
    | cons second others =>
      obtain ⟨rfl, _⟩ := List.cons.inj parts
      exact absurd (all '.' (by simp)) (by decide)

theorem parenthesizePowers_tight {base exponent : List Char} (first : TypedNumeral base)
    (second : TypedNumeral exponent)
    (whole : ¬Torn exponent) :
    parenthesizePowers (base ++ (caret [] ++ exponent)) = parenthesizePower base exponent := by
  by_cases raised : exists digit, digit ∈ ['2', '3'] ∧ exponent = [digit]
  next =>
    obtain ⟨digit, raises, rfl⟩ := raised
    have powers := @parenthesizePowers_raised _ _ [] first raises rfl (by simp)
    rwa [List.append_nil] at powers
  next =>
    refine parenthesizePowers_whole first second (by simp) fun digit rest raises parts => ?_
    obtain rfl : exponent = digit :: rest := parts
    cases rest with
    | nil => exact absurd ⟨digit, raises, rfl⟩ raised
    | cons next rest =>
      rcases second.chars next (by simp) with isDigit | rfl
      next => exact isDigit_of_asciiDigit isDigit
      next => exact absurd ⟨digit, rest, raises, rfl⟩ whole

variable {left right : String}

/-- A power of two typed numerals comes back in parentheses and has its value there, with spaces around the
caret or without them; but for an exponent of one digit 2 or 3 and a fraction, typed without spaces, of
which the fraction is cut off and the expression is malformed. -/
theorem calculatesAs_typedPower (first : TypedNumeral left.toList) (second : TypedNumeral right.toList) :
    (CalculatesAs (left ++ " ^ " ++ right) ("(" ++ left ++ "^" ++ right ++ ")") ∧
      (¬Torn right.toList -> CalculatesAs (left ++ "^" ++ right) ("(" ++ left ++ "^" ++ right ++ ")")) ∧
      outcome (value ("(" ++ left ++ "^" ++ right ++ ")").toList) = outcome (value (left ++ "^" ++ right).toList) ∧
      outcome (value (left ++ " ^ " ++ right).toList) = outcome (value (left ++ "^" ++ right).toList)) ∧
    forall digit digits : String, digit ∈ ["2", "3"] -> right = digit ++ "." ++ digits ->
      CalculatesAs (left ++ "^" ++ right) ("(" ++ left ++ "^" ++ digit ++ ")." ++ digits) ∧
        outcome (value ("(" ++ left ++ "^" ++ digit ++ ")." ++ digits).toList) = .error .malformed ∧
        outcome (value (left ++ "^" ++ right).toList) ≠ .error .malformed := by
  have tight : (left ++ "^" ++ right).toList = left.toList ++ (caret [] ++ right.toList) := by simp [caret]
  have apart : (left ++ " ^ " ++ right).toList = left.toList ++ (caret [' '] ++ right.toList) := by simp [caret]
  have written : ("(" ++ left ++ "^" ++ right ++ ")").toList = parenthesizePower left.toList right.toList := by
    simp [parenthesizePower]
  have out : "(" ++ left ++ "^" ++ right ++ ")" =
      String.ofList (parenthesizePower left.toList right.toList ++ []) := by
    rw [List.append_nil, ← written, String.ofList_toList]
  refine ⟨⟨?_, fun whole => ?_, ?_, ?_⟩, fun digit digits raises same => ?_⟩
  next =>
    rw [out]
    exact calculatesAs_apart first second apart
  next =>
    rw [out]
    refine calculatesAs_tight first second second.numeric .none ?_ tight
    rw [List.append_nil, parenthesizePowers_tight first second whole]
  next =>
    rw [written, tight]
    exact outcome_parenthesized first.plain second.plain
  next =>
    rw [apart, tight]
    exact outcome_apart first second
  next =>
    obtain ⟨c, raised, one⟩ : exists c, c ∈ ['2', '3'] ∧ digit.toList = [c] := by
      simp only [List.mem_cons, List.not_mem_nil, or_false] at raises
      rcases raises with rfl | rfl
      next => exact ⟨'2', by simp, rfl⟩
      next => exact ⟨'3', by simp, rfl⟩
    have exponent : right.toList = c :: '.' :: digits.toList := by simp [same, one]
    obtain ⟨present, all⟩ := (exponent ▸ second).fraction
    have isDigit : forall c, c ∈ ['2', '3'] -> c.isDigit = true := by decide
    have remainder : Remainder ('.' :: digits.toList) := .fraction present all
    have cut : ("(" ++ left ++ "^" ++ digit ++ ")." ++ digits).toList =
        parenthesizePower left.toList [c] ++ '.' :: digits.toList := by
      simp [parenthesizePower, one]
    refine ⟨?_, ?_, ?_⟩
    next =>
      rw [← @String.ofList_toList ("(" ++ left ++ "^" ++ digit ++ ")." ++ digits), cut]
      have numeric : Numeric [c] := numeric_digits (isDigits_ascii (by simp) (by simpa using isDigit c raised))
      refine calculatesAs_tight first second numeric remainder ?_ tight
      rw [exponent, parenthesizePowers_raised first raised remainder.stops remainder.noCaret]
    next =>
      rw [cut]
      exact outcome_torn first (isDigit c raised) present all
    next =>
      rw [tight]
      exact outcome_bare_ne_malformed first.plain second.plain

theorem calculatesAs_typedPower_torn :
    TypedNumeral "2".toList ∧ TypedNumeral "2.5".toList ∧
      CalculatesAs "2 ^ 2.5" "(2^2.5)" ∧ CalculatesAs "2^2.5" "(2^2).5" ∧
      outcome (value "(2^2).5".toList) = .error .malformed ∧ outcome (value "2^2.5".toList) ≠ .error .malformed := by
  have two : TypedNumeral "2".toList := .whole (by decide) (by decide)
  have pointed : TypedNumeral "2.5".toList := @TypedNumeral.pointed ['2'] ['5'] (by decide) (by decide) (by decide)
  have powers := @calculatesAs_typedPower "2" "2.5" two pointed
  exact ⟨two, pointed, powers.1.1, powers.2 "2" "5" (by decide) (by decide)⟩

end Meaning

end SpokenArithmetic.Phrase

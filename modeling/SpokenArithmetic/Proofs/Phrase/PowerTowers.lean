import SpokenArithmetic.Proofs.Phrase.Answered
import SpokenArithmetic.Proofs.Printing.Evaluated

set_option autoImplicit false

namespace SpokenArithmetic.Phrase

open CallForm Grammar Number Text

section Factors

inductive Factor where
  | numeral (text : List Char)
  | power (base exponent : List Char)

namespace Factor

def text : Factor -> List Char
  | numeral text => text
  | power base exponent => parenthesizePower base exponent

def tree : Factor -> Expression
  | numeral text => .numeral text
  | power base exponent => .group (.binary .power (.numeral base) (.numeral exponent))

def numerals : Factor -> List (List Char)
  | numeral text => [text]
  | power base exponent => [base, exponent]

end Factor

/-- The numerals by pairs; of an odd number of them the last one stays alone. -/
def paired : List (List Char) -> List Factor
  | first :: second :: rest => .power first second :: paired rest
  | [alone] => [.numeral alone]
  | [] => []

def towerText (factors : List Factor) : List Char :=
  ['^'].intercalate (factors.map Factor.text)

def towerTree (first : Factor) : List Factor -> Expression
  | [] => first.tree
  | second :: rest => .binary .power first.tree (towerTree second rest)

end Factors

section Pairs

variable {numerals : List (List Char)}

theorem paired_ne_nil (present : numerals ≠ []) : paired numerals ≠ [] := by
  cases numerals with
  | nil => exact absurd rfl present
  | cons first rest => cases rest <;> simp [paired]

def spread (texts : List (List Char)) : List Char :=
  (divider '^').intercalate texts

theorem intercalate_cons (between : Char -> List Char) (symbol : Char) (first : List Char) (rest : List (List Char)) :
    (between symbol).intercalate (first :: rest) = operation between first (rest.map fun text => (symbol, text)) := by
  induction rest generalizing first with
  | nil => simp [operation]
  | cons second rest ih =>
    rw [List.map_cons, operation_cons, ← ih second, List.intercalate_cons_cons, List.append_assoc]

theorem numerals_paired (numerals : List (List Char)) : (paired numerals).flatMap Factor.numerals = numerals := by
  induction numerals using paired.induct with
  | case1 first second rest ih => simp [paired, Factor.numerals, ih]
  | case2 alone => simp [paired, Factor.numerals]
  | case3 => rfl

theorem barePower_other {before : Option Char} {c : Char} {tail : List Char} (other : isDigit c = false) :
    barePower before (c :: tail) = none := by
  simp [barePower, Pattern.unlessBehind, numeral?, digits?, other]

theorem numeral_whole {digits rest : List Char} (isDigits : IsDigits digits)
    (stops : rest.head?.any isDigitOrPoint = false) : numeral? (digits ++ rest) = some (digits, rest) := by
  have starts : digits.head?.any isDigit = true := (numeric_digits isDigits).starts
  apply Token.numeral?_complete starts (.whole isDigits)
  intro lengthens
  rcases lengthens with digit | ⟨_, point⟩
  next =>
    rw [digit_of_point stops] at digit
    cases digit
  next =>
    rw [point] at stops
    cases stops

theorem barePower_pair {before : Option Char} {first second rest : List Char}
    (free : before.any isPointOrOpen = false) (isFirst : IsDigits first) (isSecond : IsDigits second)
    (stops : rest.head?.any isDigitOrPoint = false) :
    barePower before (first ++ (divider '^' ++ (second ++ rest))) = some ((first, second), rest) := by
  have base := @numeral_whole first (divider '^' ++ (second ++ rest)) isFirst
    (by decide : isDigitOrPoint ' ' = false)
  have caret : skipSpace (divider '^' ++ (second ++ rest)) = '^' :: (' ' :: ' ' :: (second ++ rest)) := by
    have inner := @skipSpace_of_head ('^' :: (' ' :: ' ' :: (second ++ rest)))
      (by decide : isSpace '^' = false)
    simpa [skipSpace, divider, space_isSpace] using inner
  have starts : (second ++ rest).head?.any isSpace = false := IsDigits.noSpace isSecond rest
  have gap : skipSpace (' ' :: ' ' :: (second ++ rest)) = second ++ rest := by
    have inner := skipSpace_of_head starts
    simpa [skipSpace, space_isSpace] using inner
  have exponent := numeral_whole isSecond stops
  have after : after? ['^'] ('^' :: (' ' :: ' ' :: (second ++ rest))) = some (' ' :: ' ' :: (second ++ rest)) :=
    after?_eq_some.2 rfl
  simp [barePower, Pattern.unlessBehind, free, base, caret, after, gap, exponent, stops]

theorem passes_alone {before : Option Char} {alone : List Char} (isAlone : IsDigits alone) :
    barePower.Passes before alone [] := by
  apply Pattern.passes_of_places
  intro front tail same _
  cases matched : barePower (lastBehind before front) (tail ++ []) with
  | none => rfl
  | some pair =>
    obtain ⟨d, _, meets⟩ := barePower_needs matched
    rw [List.append_nil] at meets
    have member : '^' ∈ alone := by
      rw [same]
      exact List.mem_append_right _ (mem_of_meets meets).1
    cases isAlone.2 '^' member

theorem passes_divider (before : Option Char) (after : List Char) :
    barePower.Passes before (divider '^') after := by
  have noDigit : forall c, c ∈ divider '^' -> isDigit c = false := by decide
  exact Pattern.passes_of_unmatched fun _ c _ member => barePower_other (noDigit c member)

theorem replaceFrom_barePower {before : Option Char} {first second rest : List Char}
    (free : before.any isPointOrOpen = false) (isFirst : IsDigits first) (isSecond : IsDigits second)
    (stops : rest.head?.any isDigitOrPoint = false) :
    exists behind, barePower.replaceFrom (fun power => parenthesizePower power.1 power.2) before 0
        (first ++ (divider '^' ++ (second ++ rest))) =
      parenthesizePower first second ++
        barePower.replaceFrom (fun power => parenthesizePower power.1 power.2) behind 0 rest := by
  have matched := barePower_pair free isFirst isSecond stops
  have inner : first ++ (divider '^' ++ (second ++ rest)) = (first ++ (divider '^' ++ second)) ++ rest := by
    simp only [List.append_assoc]
  rw [inner] at matched ⊢
  exact ⟨_, Pattern.replaceFrom_matched (by simp [isFirst.1]) matched⟩

theorem replaceFrom_pairs (digits : forall text, text ∈ numerals -> IsDigits text) {before : Option Char}
    (free : before.any isPointOrOpen = false) :
    barePower.replaceFrom (fun power => parenthesizePower power.1 power.2) before 0 (spread numerals) =
      spread ((paired numerals).map Factor.text) := by
  induction numerals using paired.induct generalizing before with
  | case1 first second rest ih =>
    have isFirst : IsDigits first := digits first (by simp)
    have isSecond : IsDigits second := digits second (by simp)
    have others : forall text, text ∈ rest -> IsDigits text := fun text member => digits text (by simp [member])
    cases rest with
    | nil =>
      have parts : spread [first, second] = first ++ (divider '^' ++ (second ++ [])) := by simp [spread]
      obtain ⟨behind, replaced⟩ := @replaceFrom_barePower before first second [] free isFirst isSecond rfl
      rw [parts, replaced]
      simp [Pattern.replaceFrom, paired, spread, Factor.text]
    | cons third rest =>
      have parts : spread (first :: second :: third :: rest) =
          first ++ (divider '^' ++ (second ++ (divider '^' ++ spread (third :: rest)))) := by
        simp only [spread, List.intercalate_cons_cons, List.append_assoc]
      obtain ⟨behind, replaced⟩ := @replaceFrom_barePower before first second (divider '^' ++ spread (third :: rest))
        free isFirst isSecond (by decide : isDigitOrPoint ' ' = false)
      have space : lastBehind behind (divider '^') = some ' ' := rfl
      obtain ⟨head, more, shape⟩ := List.exists_cons_of_ne_nil
        (show (paired (third :: rest)).map Factor.text ≠ [] by simp [paired_ne_nil])
      have written : spread ((paired (first :: second :: third :: rest)).map Factor.text) =
          parenthesizePower first second ++ (divider '^' ++ spread ((paired (third :: rest)).map Factor.text)) := by
        rw [paired, List.map_cons, shape, spread, List.intercalate_cons_cons]
        simp only [spread, Factor.text, List.append_assoc]
      rw [parts, replaced, Pattern.replaceFrom_passed (passes_divider _ _), space, ih others (by decide), written]
  | case2 alone =>
    have isAlone : IsDigits alone := digits alone (by simp)
    have one : spread [alone] = alone := by simp [spread]
    have copied := @Pattern.replaceFrom_passed _ _ (fun power => parenthesizePower power.1 power.2) _ _ _
      (@passes_alone before _ isAlone)
    rw [List.append_nil] at copied
    rw [one, copied]
    simp [Pattern.replaceFrom, paired, Factor.text, one]
  | case3 => rfl

end Pairs

section Texts

namespace Factor

def Digits (factor : Factor) : Prop :=
  forall text, text ∈ factor.numerals -> IsDigits text

variable {factor : Factor}

theorem Digits.chars (digits : factor.Digits) :
    forall c, c ∈ factor.text -> isDigit c = true ∨ c ∈ ['(', '^', ')'] := by
  intro c member
  cases factor with
  | numeral text => exact .inl ((digits text (by simp [numerals])).2 c member)
  | power base exponent =>
    have isBase : IsDigits base := digits base (by simp [numerals])
    have isExponent : IsDigits exponent := digits exponent (by simp [numerals])
    simp only [text, parenthesizePower, List.cons_append, List.mem_cons, List.mem_append, List.not_mem_nil,
      or_false] at member
    rcases member with mark | (inBase | mark | inExponent) | mark
    next => exact .inr (by simp [mark])
    next => exact .inl (isBase.2 c inBase)
    next => exact .inr (by simp [mark])
    next => exact .inl (isExponent.2 c inExponent)
    next => exact .inr (by simp [mark])

theorem Digits.links (digits : factor.Digits) {related : Char -> Char -> Prop}
    (inside : forall c d, isDigit c = true -> isDigit d = true -> related c d)
    (opening : forall d, isDigit d = true -> related '(' d) (caret : forall d, isDigit d = true -> related '^' d)
    (raised : forall c, isDigit c = true -> related c '^') (closing : forall c, isDigit c = true -> related c ')') :
    Links related (fun c => isDigit c || c == '(') (fun c => isDigit c || c == ')') factor.text := by
  have single (c : Char) : Links related (· == c) (· == c) [c] := ⟨List.isChain_singleton c, by simp, by simp⟩
  have numeral {text : List Char} (digits : IsDigits text) : Links related isDigit isDigit text :=
    ⟨chain_of_forall fun c d first second => inside c d (digits.2 c first) (digits.2 d second),
      (numeric_digits digits).starts, (numeric_digits digits).ends⟩
  cases factor with
  | numeral text =>
    have alone := numeral (digits text (by simp [numerals]))
    exact ⟨alone.chain, any_imp (fun c digit => by simp [digit]) alone.starts,
      any_imp (fun c digit => by simp [digit]) alone.ends⟩
  | power base exponent =>
    have closed := (numeral (digits exponent (by simp [numerals]))).append (single ')') fun c d digit same => by
      obtain rfl : d = ')' := by simpa using same
      exact closing c digit
    have behind := (single '^').append closed fun c d same digit => by
      obtain rfl : c = '^' := by simpa using same
      exact caret d digit
    have middle := (numeral (digits base (by simp [numerals]))).append behind fun c d digit same => by
      obtain rfl : d = '^' := by simpa using same
      exact raised c digit
    have whole := (single '(').append middle fun c d same digit => by
      obtain rfl : c = '(' := by simpa using same
      exact opening d digit
    have parts (base exponent : List Char) :
        (Factor.power base exponent).text = ['('] ++ (base ++ (['^'] ++ (exponent ++ [')']))) := by
      simp [text, parenthesizePower]
    rw [parts]
    exact ⟨whole.chain, any_imp (fun c same => by simp [same]) whole.starts,
      any_imp (fun c same => by simp [same]) whole.ends⟩

theorem Digits.closed (digits : factor.Digits) : Closed factor.text where
  solid := by
    have marks : forall c, c ∈ ['(', '^', ')'] -> isSpace c = false := by decide
    intro c member
    rcases digits.chars c member with digit | mark
    next => exact not_space_of_isDigit digit
    next => exact marks c mark
  links := by
    have before (c d : Char) (digit : isDigit d = true) : Unrepeated c d := unrepeated_before (digit_inner digit)
    have behind (c d : Char) (digit : isDigit c = true) : Unrepeated c d := unrepeated_behind (digit_inner digit)
    have links := @Digits.links factor digits Unrepeated (fun c d _ digit => before c d digit) (before '(') (before '^')
      (fun c digit => behind c '^' digit) (fun c digit => behind c ')' digit)
    have inner (mark : Char) (innerMark : isInner mark = true) (c : Char) (kind : (isDigit c || c == mark) = true) :
        isInner c = true := by
      rw [Bool.or_eq_true] at kind
      rcases kind with digit | same
      next => exact digit_inner digit
      next =>
        obtain rfl : c = mark := by simpa using same
        exact innerMark
    exact ⟨links.chain, any_imp (inner '(' (by decide)) links.starts, any_imp (inner ')' (by decide)) links.ends⟩

end Factor

variable {numerals : List (List Char)}

theorem paired_digits (digits : forall text, text ∈ numerals -> IsDigits text) :
    forall factor, factor ∈ paired numerals -> factor.Digits := by
  intro factor member text inFactor
  apply digits
  rw [← numerals_paired numerals]
  exact List.mem_flatMap.2 ⟨factor, member, inFactor⟩

end Texts

section Structuring

def raisedBy (texts : List (List Char)) : List (Char × List Char) :=
  texts.map fun text => ('^', text)

variable {numerals : List (List Char)} {first : List Char} {base : Factor} {rest : List (List Char)}
  {exponents : List Factor}

theorem spread_cons (first : List Char) (rest : List (List Char)) :
    spread (first :: rest) = operation divider first (raisedBy rest) :=
  intercalate_cons divider '^' first rest

theorem arithmetic_numerals (digits : forall text, text ∈ first :: rest -> IsDigits text) :
    Arithmetic first (raisedBy rest) where
  numeric := numeric_digits (digits first List.mem_cons_self)
  operators other member := by
    obtain ⟨text, _, rfl⟩ := List.mem_map.1 member
    exact (by decide : isArithmetic '^' = true)
  othersNumeric other member := by
    obtain ⟨text, inRest, rfl⟩ := List.mem_map.1 member
    exact numeric_digits (digits text (List.mem_cons_of_mem _ inRest))

theorem formula_tower (digits : forall factor, factor ∈ base :: exponents -> factor.Digits) :
    Formula base.text (raisedBy (exponents.map Factor.text)) where
  closed := (digits base List.mem_cons_self).closed
  operators other member := by
    obtain ⟨text, _, rfl⟩ := List.mem_map.1 member
    exact (by decide : isArithmetic '^' = true)
  othersClosed other member := by
    obtain ⟨text, inTexts, rfl⟩ := List.mem_map.1 member
    obtain ⟨factor, inExponents, rfl⟩ := List.mem_map.1 inTexts
    exact (digits factor (List.mem_cons_of_mem _ inExponents)).closed

theorem spread_not_raised (digits : forall text, text ∈ numerals -> IsDigits text) {exponent : Char}
    (digit : isDigit exponent = true) : ¬['^', exponent] <:+: spread numerals := by
  intro stands
  cases numerals with
  | nil => exact absurd stands (by simp [spread])
  | cons first rest =>
    have numeral {text : List Char} (isDigits : IsDigits text) :
        Links (fun c d => c = '^' -> d = ' ') isDigit isDigit text := by
      refine ⟨chain_of_forall ?_, (numeric_digits isDigits).starts, (numeric_digits isDigits).ends⟩
      rintro c d inFirst - rfl
      cases isDigits.2 '^' inFirst
    have sign : Links (fun c d => c = '^' -> d = ' ') isSpace isSpace (divider '^') :=
      ⟨by simp [divider], space_isSpace, space_isSpace⟩
    have links := @links_operation divider first (raisedBy rest) (fun c d => c = '^' -> d = ' ') isDigit isDigit
      isSpace isSpace (numeral (digits first List.mem_cons_self))
      (by
        intro other member
        obtain ⟨text, inRest, rfl⟩ := List.mem_map.1 member
        exact ⟨sign, numeral (digits text (List.mem_cons_of_mem _ inRest))⟩)
      (by
        rintro c d digit - rfl
        cases digit)
      (by
        rintro c d space - rfl
        cases space)
    rw [← spread_cons] at links
    have related : '^' = '^' -> exponent = ' ' := by simpa using links.chain.infix stands
    rw [related rfl] at digit
    cases digit

def Unmultiplied (c d : Char) : Prop :=
  (d = '(' -> isDigitOrClose c = false) ∧ (c = ')' -> isDigit d = false)

theorem tower_unmultiplied (digits : forall factor, factor ∈ base :: exponents -> factor.Digits) :
    (compact (spread ((base :: exponents).map Factor.text))).IsChain Unmultiplied := by
  have parenthesis : isDigit '(' = false ∧ isDigit ')' = false := by decide
  have level {factor : Factor} (digits : factor.Digits) := @Factor.Digits.links factor digits Unmultiplied
    (fun c d first second => ⟨fun same => absurd same (digit_ne second parenthesis.1),
      fun same => absurd same (digit_ne first parenthesis.2)⟩)
    (fun d digit => ⟨fun same => absurd same (digit_ne digit parenthesis.1), fun same => absurd same (by decide)⟩)
    (fun d digit => ⟨fun same => absurd same (digit_ne digit parenthesis.1), fun same => absurd same (by decide)⟩)
    (fun c digit => ⟨fun same => absurd same (by decide), fun _ => by decide⟩)
    (fun c digit => ⟨fun same => absurd same (by decide), fun _ => by decide⟩)
  rw [List.map_cons, spread_cons, (formula_tower digits).compact_eq]
  have links := @links_operation (fun symbol => [symbol]) base.text (raisedBy (exponents.map Factor.text)) Unmultiplied
    _ _ (· == '^') (· == '^') (level (digits base List.mem_cons_self))
    (by
      intro other member
      obtain ⟨text, inTexts, rfl⟩ := List.mem_map.1 member
      obtain ⟨factor, inExponents, rfl⟩ := List.mem_map.1 inTexts
      exact ⟨⟨List.isChain_singleton _, by simp, by simp⟩, level (digits factor (List.mem_cons_of_mem _ inExponents))⟩)
    (by
      intro c d _ same
      obtain rfl : d = '^' := by simpa using same
      exact ⟨fun same => absurd same (by decide), fun _ => by decide⟩)
    (by
      intro c d same _
      obtain rfl : c = '^' := by simpa using same
      exact ⟨fun _ => by decide, fun same => absurd same (by decide)⟩)
  exact links.chain

theorem tower_unnamed (digits : forall factor, factor ∈ base :: exponents -> factor.Digits) :
    forall c, c ∈ spread ((base :: exponents).map Factor.text) -> c ∉ initials := by
  have level {factor : Factor} (digits : factor.Digits) : forall c, c ∈ factor.text -> c ∉ initials := by
    have marks : forall c, c ∈ ['(', '^', ')'] -> c ∉ initials := by decide
    have letters : forall c, c ∈ initials -> isDigit c = false := by decide
    intro c member letter
    rcases digits.chars c member with digit | mark
    next =>
      rw [letters c letter] at digit
      cases digit
    next => exact marks c mark letter
  rw [List.map_cons, spread_cons]
  apply forall_operation
  case inFirst => exact level (digits base List.mem_cons_self)
  case inOthers =>
    intro other member
    obtain ⟨text, inTexts, rfl⟩ := List.mem_map.1 member
    obtain ⟨factor, inExponents, rfl⟩ := List.mem_map.1 inTexts
    have sign : forall c, c ∈ divider '^' -> c ∉ initials := by decide
    exact ⟨sign, level (digits factor (List.mem_cons_of_mem _ inExponents))⟩

theorem explicit_spread (present : numerals ≠ []) (digits : forall text, text ∈ numerals -> IsDigits text) :
    explicit (spread numerals) = spread ((paired numerals).map Factor.text) := by
  obtain ⟨base, exponents, pairs⟩ := List.exists_cons_of_ne_nil (paired_ne_nil present)
  have levels := paired_digits digits
  rw [pairs] at levels
  have powers := parenthesizePowers_bare (@spread_not_raised _ digits '2' (by decide))
    (@spread_not_raised _ digits '3' (by decide))
  have bracketed := @replaceFrom_pairs _ digits none rfl
  have unnamed := tower_unnamed levels
  have chain := tower_unmultiplied levels
  have openings (c : Char) (kind : isDigitOrClose c = true) :
      ¬Meets (spread ((base :: exponents).map Factor.text)) c '(' := by
    intro meets
    rw [(meets.related chain).1 rfl] at kind
    cases kind
  have closings (d : Char) (digit : isDigit d = true) :
      ¬Meets (spread ((base :: exponents).map Factor.text)) ')' d := by
    intro meets
    rw [(meets.related chain).2 rfl] at digit
    cases digit
  rw [explicit, powers, Pattern.replace, bracketed, pairs, writeCalls_unchanged unnamed,
    writeProducts_unchanged unnamed openings closings]

end Structuring

section Derivations

open Grammar.Derivation

namespace Factor

def derivation : Factor -> Derivation (.form .primary)
  | numeral text => .numeral text
  | power base exponent => .group (.chain .sum
      (.chain .product (unsigned (raised (.numeral base) (unsigned (bare (.numeral exponent))))) (noFurther .product))
      (noFurther .sum))

variable (factor : Factor)

theorem content_derivation (named? : List Char -> Option Callable) :
    factor.derivation.content? named? = some factor.tree := by
  cases factor <;> rfl

theorem printed_derivation : printed factor.derivation.yield = factor.text := by
  cases factor with
  | numeral _ => simp [derivation, printed, text, Lexeme.text]
  | power base exponent =>
    simp [derivation, printed, text, parenthesizePower, Lexeme.text, Mark.char, Operator.symbol]

theorem depth_derivation : factor.derivation.depth <= 2 := by
  cases factor <;> simp [derivation]

theorem mem_numerals {text : List Char} (member : .numeral text ∈ factor.derivation.yield) : text ∈ factor.numerals := by
  cases factor <;> simpa [derivation, numerals] using member

end Factor

def towerOperand (base : Factor) : List Factor -> Derivation (.form .signed)
  | [] => unsigned (bare base.derivation)
  | exponent :: rest => unsigned (raised base.derivation (towerOperand exponent rest))

def tower (base : Factor) (exponents : List Factor) : Derivation (.form .sum) :=
  chain .sum (chain .product (towerOperand base exponents) (noFurther .product)) (noFurther .sum)

variable {base : Factor} {exponents : List Factor}

theorem yield_tower : (tower base exponents).yield = (towerOperand base exponents).yield := by
  have same : @yield (.form Tier.product.operand) (towerOperand base exponents) = (towerOperand base exponents).yield :=
    rfl
  simp [tower, same]

theorem content_tower (named? : List Char -> Option Callable) :
    (tower base exponents).content? named? = some (towerTree base exponents) := by
  have operand : (towerOperand base exponents).content? named? = some (towerTree base exponents) := by
    induction exponents generalizing base with
    | nil => simp [towerOperand, towerTree, content?, base.content_derivation]
    | cons exponent rest ih => simp [towerOperand, towerTree, content?, base.content_derivation, ih]
  have same : @content? named? (.form Tier.product.operand) (towerOperand base exponents) = _ := operand
  simp [tower, content?, same, foldChain]

theorem print_tower : (tower base exponents).print = towerText (base :: exponents) := by
  rw [print, yield_tower]
  induction exponents generalizing base with
  | nil => simp [towerOperand, towerText, base.printed_derivation]
  | cons exponent rest ih =>
    have behind := @ih exponent
    have first := base.printed_derivation
    rw [printed] at behind first
    rw [towerText, List.map_cons, List.map_cons, List.intercalate_cons_cons, ← List.map_cons, ← towerText, ← behind, printed]
    simp [towerOperand, first, Lexeme.text, Mark.char, Operator.symbol]

theorem plain_tower
    (plain : forall factor, factor ∈ base :: exponents -> forall text, text ∈ factor.numerals -> PlainNumeral text) :
    (tower base exponents).Plain := by
  intro text member
  rw [yield_tower] at member
  induction exponents generalizing base with
  | nil => exact plain base (by simp) text (base.mem_numerals (by simpa [towerOperand] using member))
  | cons exponent rest ih =>
    have split : .numeral text ∈ base.derivation.yield ∨ .numeral text ∈ (towerOperand exponent rest).yield := by
      simpa [towerOperand] using member
    rcases split with inBase | above
    next => exact plain base List.mem_cons_self text (base.mem_numerals inBase)
    next => exact ih (fun factor inRest => plain factor (List.mem_cons_of_mem _ inRest)) above

theorem depth_tower {most : Nat} (levels : forall factor, factor ∈ base :: exponents -> factor.derivation.depth <= most) :
    (tower base exponents).depth <= exponents.length + most := by
  have operand : (towerOperand base exponents).depth <= exponents.length + most := by
    induction exponents generalizing base with
    | nil => simpa [towerOperand] using levels base (by simp)
    | cons exponent rest ih =>
      have first := levels base (by simp)
      have above := ih fun factor member => levels factor (List.mem_cons_of_mem _ member)
      simp only [towerOperand, depth, List.length_cons]
      omega
  have same : @depth (.form Tier.product.operand) (towerOperand base exponents) = (towerOperand base exponents).depth :=
    rfl
  simpa [tower, same] using operand

theorem outcome_tower
    (plain : forall factor, factor ∈ base :: exponents -> forall text, text ∈ factor.numerals -> PlainNumeral text)
    (shallow : (tower base exponents).depth <= Parser.maxDepth) :
    outcome (Evaluation.value (towerText (base :: exponents))) =
      outcome (Evaluation.rounded (((towerTree base exponents).value Evaluation.doubles).mapError .refused)) := by
  have valued := outcome_print (plain_tower plain) (content_tower surface?) shallow
  rwa [print_tower] at valued

end Derivations

section Meaning

variable {first second phrase : String} {rest : List String}

def powerPhrase (numerals : List String) : String :=
  " to the power of ".intercalate numerals

def IsWhole (numeral : String) : Prop :=
  numeral ≠ "" ∧ forall c, c ∈ numeral.toList -> c.isDigit = true

namespace IsWhole

variable {numeral : String}

theorem present (whole : IsWhole numeral) : numeral.toList ≠ [] := by
  have written := whole.1
  rwa [Ne, ← String.toList_eq_nil_iff] at written

theorem typed (whole : IsWhole numeral) : TypedNumeral numeral.toList :=
  .whole whole.present whole.2

theorem digits (whole : IsWhole numeral) : IsDigits numeral.toList :=
  isDigits_ascii whole.present whole.2

theorem plain (whole : IsWhole numeral) : PlainNumeral numeral.toList :=
  .whole whole.present whole.2

end IsWhole

def powerItems (between : List Char) (numerals : List (List Char)) : List (List Char) :=
  numerals.flatMap fun numeral => [between, numeral]

theorem phrase_powerItems (numerals : List String) : (powerPhrase (first :: numerals)).toList =
    spaced (first.toList :: powerItems "to the power of".toList (numerals.map String.toList)) := by
  have between : " to the power of ".toList = ' ' :: ("to the power of".toList ++ [' ']) := by decide
  have parts := intercalate_cons (fun _ => " to the power of ".toList) '^' first.toList (numerals.map String.toList)
  rw [powerPhrase, String.toList_intercalate, List.map_cons, parts, operation, between]
  simp [spaced, following, powerItems, List.flatMap_assoc, List.flatMap_map]

theorem spread_powerItems (first : List Char) (numerals : List (List Char)) :
    spaced (first :: powerItems [' ', '^', ' '] numerals) = spread (first :: numerals) := by
  rw [spread_cons]
  simp [spaced, following, powerItems, operation, raisedBy, divider, List.flatMap_assoc, List.flatMap_map]

theorem heard_powerItems {numerals : List String} (whole : forall numeral, numeral ∈ numerals -> IsWhole numeral) :
    List.Forall₂ Heard (powerItems "to the power of".toList (numerals.map String.toList))
      (powerItems [' ', '^', ' '] (numerals.map String.toList)) := by
  have power : Heard "to the power of".toList [' ', '^', ' '] := by decide +kernel
  induction numerals with
  | nil => exact .nil
  | cons numeral numerals ih =>
    exact .cons power (.cons (whole numeral List.mem_cons_self).typed.heard
      (ih fun other member => whole other (List.mem_cons_of_mem _ member)))

theorem calculatesAs_tower (whole : forall numeral, numeral ∈ first :: rest -> IsWhole numeral)
    (same : lower phrase.toList = (powerPhrase (first :: rest)).toList) :
    CalculatesAs phrase (String.ofList (towerText (paired ((first :: rest).map String.toList)))) := by
  have digits : forall text, text ∈ (first :: rest).map String.toList -> IsDigits text := by
    intro text member
    obtain ⟨numeral, among, rfl⟩ := List.mem_map.1 member
    exact (whole numeral among).digits
  have frame : Frame [] [] := ⟨.inl rfl, .inl rfl⟩
  have present : (first :: rest).map String.toList ≠ [] := by simp
  obtain ⟨base, exponents, pairs⟩ := List.exists_cons_of_ne_nil (paired_ne_nil present)
  have levels := paired_digits digits
  rw [pairs] at levels
  have written := explicit_spread present digits
  rw [pairs] at written
  rw [List.map_cons, spread_cons, List.map_cons, spread_cons] at written
  have arithmetic := arithmetic_numerals digits
  have formula := formula_tower levels
  have heard := List.Forall₂.cons (whole first List.mem_cons_self).typed.heard
    (heard_powerItems fun numeral member => whole numeral (List.mem_cons_of_mem _ member))
  have spoken : lower phrase.toList = _ := same.trans (phrase_powerItems rest)
  have quiet := arithmetic.formula.quiet frame
  have compounded := arithmetic.formula.compound_eq frame
  have tight := joinPoints_tight (arithmetic.pointsTight frame)
  have settled := formula.quiet frame
  have kept := formula.compound_eq frame
  have cleaned := formula.clean_eq frame
  simp only [List.nil_append, List.append_nil] at quiet compounded tight settled kept cleaned
  have results := (spread_powerItems first.toList (rest.map String.toList)).trans (spread_cons _ _)
  have numbers : joinPoints (compound (spaced (first.toList :: powerItems [' ', '^', ' '] (rest.map String.toList)))) =
      operation divider first.toList (raisedBy (rest.map String.toList)) := by
    rw [results, compounded, tight]
  rw [← results] at quiet
  rw [← kept] at cleaned
  rw [pairs, towerText, List.map_cons, intercalate_cons fun symbol => [symbol]]
  exact calculatesAs_of_passes heard spoken quiet numbers written settled cleaned

theorem plain_numerals {numerals : List String} (whole : forall numeral, numeral ∈ numerals -> IsWhole numeral)
    {factors : List Factor} (same : factors.flatMap Factor.numerals = numerals.map String.toList) :
    forall factor, factor ∈ factors -> forall text, text ∈ factor.numerals -> PlainNumeral text := by
  intro factor member text inFactor
  have among : text ∈ factors.flatMap Factor.numerals := List.mem_flatMap.2 ⟨factor, member, inFactor⟩
  rw [same] at among
  obtain ⟨numeral, inNumerals, rfl⟩ := List.mem_map.1 among
  exact (whole numeral inNumerals).plain

theorem length_paired (numerals : List (List Char)) : (paired numerals).length = (numerals.length + 1) / 2 := by
  induction numerals using paired.induct with
  | case1 first second rest ih =>
    simp only [paired, List.length_cons, ih]
    omega
  | case2 alone => simp [paired]
  | case3 => rfl

theorem outcome_paired (whole : forall numeral, numeral ∈ first :: second :: rest -> IsWhole numeral)
    (low : rest.length + 1 <= Parser.maxDepth) :
    outcome (Evaluation.value (towerText (paired ((first :: second :: rest).map String.toList)))) =
      outcome (Evaluation.rounded (((towerTree (.power first.toList second.toList)
        (paired (rest.map String.toList))).value Evaluation.doubles).mapError .refused)) := by
  apply outcome_tower
  next => exact plain_numerals whole (numerals_paired ((first :: second :: rest).map String.toList))
  next =>
    have short := length_paired (rest.map String.toList)
    have depth := @depth_tower (.power first.toList second.toList) (paired (rest.map String.toList)) 2
      fun factor _ => factor.depth_derivation
    simp only [List.length_map, Parser.maxDepth] at short depth low ⊢
    omega

theorem outcome_numerals (whole : forall numeral, numeral ∈ first :: rest -> IsWhole numeral)
    (low : rest.length <= Parser.maxDepth) :
    outcome (Evaluation.value ("^".intercalate (first :: rest)).toList) =
      outcome (Evaluation.rounded (((towerTree (.numeral first.toList)
        (rest.map fun numeral => .numeral numeral.toList)).value Evaluation.doubles).mapError .refused)) := by
  have text : ("^".intercalate (first :: rest)).toList =
      towerText (.numeral first.toList :: rest.map fun numeral => .numeral numeral.toList) := by
    rw [String.toList_intercalate, towerText, List.map_cons, List.map_cons, List.map_map]
    rfl
  rw [text]
  apply outcome_tower
  next =>
    apply @plain_numerals (first :: rest) whole
    simp [Factor.numerals, List.flatMap_map, ← List.map_eq_flatMap]
  next =>
    refine Nat.le_trans (@depth_tower _ _ 0 fun factor member => ?_) (by simpa using low)
    rcases List.mem_cons.1 member with rfl | later
    next => exact Nat.le_refl 0
    next =>
      obtain ⟨numeral, _, rfl⟩ := List.mem_map.1 later
      exact Nat.le_refl 0

/-- Numerals with the words for a power between each two come to the tower of their pairs, and not to
their own tower. The two are the same if there are no more than two numerals. -/
theorem calculatesAs_powers (whole : forall numeral, numeral ∈ first :: second :: rest -> IsWhole numeral)
    (same : lower phrase.toList = (powerPhrase (first :: second :: rest)).toList) :
    CalculatesAs phrase (String.ofList (towerText (paired ((first :: second :: rest).map String.toList)))) ∧
      (rest.length + 1 <= Parser.maxDepth ->
        outcome (Evaluation.value (towerText (paired ((first :: second :: rest).map String.toList)))) =
            outcome (Evaluation.rounded (((towerTree (.power first.toList second.toList)
              (paired (rest.map String.toList))).value Evaluation.doubles).mapError .refused)) ∧
          outcome (Evaluation.value ("^".intercalate (first :: second :: rest)).toList) =
            outcome (Evaluation.rounded (((towerTree (.numeral first.toList)
              ((second :: rest).map fun numeral => .numeral numeral.toList)).value Evaluation.doubles).mapError
                .refused))) ∧
      (rest = [] ->
        outcome (Evaluation.value (towerText (paired ((first :: second :: rest).map String.toList)))) =
          outcome (Evaluation.value ("^".intercalate (first :: second :: rest)).toList)) := by
  refine ⟨calculatesAs_tower whole same, fun low => ⟨outcome_paired whole low, outcome_numerals whole low⟩, ?_⟩
  rintro rfl
  have low : [second].length <= Parser.maxDepth := by simp [Parser.maxDepth]
  rw [outcome_paired whole low, outcome_numerals whole low]
  rfl

theorem calculatesAs_powers_paired :
    (forall numeral, numeral ∈ ["2", "3", "2"] -> IsWhole numeral) ∧
      lower "2 To The Power Of 3 to the power of 2".toList = (powerPhrase ["2", "3", "2"]).toList ∧
      CalculatesAs "2 To The Power Of 3 to the power of 2" "(2^3)^2" ∧
      "^".intercalate ["2", "3", "2"] = "2^3^2" := by
  have whole : forall numeral, numeral ∈ ["2", "3", "2"] -> IsWhole numeral := by
    simp [IsWhole]
  have same : lower "2 To The Power Of 3 to the power of 2".toList = (powerPhrase ["2", "3", "2"]).toList := by
    decide +kernel
  exact ⟨whole, same, (calculatesAs_powers whole same).1, by decide +kernel⟩

end Meaning

end SpokenArithmetic.Phrase

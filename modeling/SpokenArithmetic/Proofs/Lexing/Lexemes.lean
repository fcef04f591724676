import SpokenArithmetic.Proofs.Lexing.Alphabet

set_option autoImplicit false

namespace SpokenArithmetic

open Text

namespace Text

theorem span_iff {holds : Char -> Bool} {text front rest : List Char} :
    (text.takeWhile holds = front ∧ text.dropWhile holds = rest) ↔
      text = front ++ rest ∧ (forall c, c ∈ front -> holds c = true) ∧ rest.head?.any holds = false := by
  constructor
  next =>
    rintro ⟨rfl, rfl⟩
    refine ⟨List.takeWhile_append_dropWhile.symm, fun c member => ?_, ?_⟩
    next => exact List.all_eq_true.1 List.all_takeWhile c member
    next =>
      have stops := List.head?_dropWhile_not holds text
      cases found : text.dropWhile holds with
      | nil => rfl
      | cons c rest => simpa [found] using stops
  next =>
    rintro ⟨rfl, all, ends⟩
    have stops : rest.takeWhile holds = [] ∧ rest.dropWhile holds = rest := by
      cases rest with
      | nil => exact ⟨rfl, rfl⟩
      | cons c rest =>
        have fails : holds c = false := ends
        simp [fails]
    rw [List.takeWhile_append_of_pos all, List.dropWhile_append_of_pos all, stops.1, stops.2]
    simp

theorem dropWhile_of_head {holds : Char -> Bool} {text : List Char} (other : text.head?.any holds = false) :
    text.dropWhile holds = text := by
  cases text with
  | nil => rfl
  | cons c rest => exact List.dropWhile_cons_of_neg (by simpa using other)

theorem span_append {holds : Char -> Bool} {tail : List Char} (text : List Char)
    (ends : tail.head?.any holds = false) :
    (text ++ tail).takeWhile holds = text.takeWhile holds ∧
      (text ++ tail).dropWhile holds = text.dropWhile holds ++ tail := by
  obtain ⟨parts, all, stops⟩ := (@span_iff holds text _ _).1 ⟨rfl, rfl⟩
  refine span_iff.2 ⟨?_, all, ?_⟩
  next => rw [← List.append_assoc, ← parts]
  next =>
    cases left : text.dropWhile holds with
    | nil => exact ends
    | cons c rest => rwa [left] at stops

theorem span_unique {holds : Char -> Bool} {first second rest behind : List Char}
    (same : first ++ rest = second ++ behind) (one : forall c, c ∈ first -> holds c = true)
    (two : forall c, c ∈ second -> holds c = true) (ends : rest.head?.any holds = false)
    (stops : behind.head?.any holds = false) : first = second ∧ rest = behind := by
  obtain ⟨front, back⟩ := span_iff.2 ⟨rfl, one, ends⟩
  obtain ⟨front', back'⟩ := span_iff.2 ⟨rfl, two, stops⟩
  rw [same] at front back
  exact ⟨front.symm.trans front', back.symm.trans back'⟩

theorem stripEnd_parts (text : List Char) :
    exists blanks, text = stripEnd text ++ blanks ∧ forall c, c ∈ blanks -> isBlank c = true := by
  refine ⟨(text.reverse.takeWhile isBlank).reverse, ?_, fun c member => ?_⟩
  next => rw [stripEnd, ← List.reverse_append, List.takeWhile_append_dropWhile, List.reverse_reverse]
  next => exact List.all_eq_true.1 List.all_takeWhile c (List.mem_reverse.1 member)

def IsDigits (text : List Char) : Prop :=
  text ≠ [] ∧ forall c, c ∈ text -> isDigit c = true

theorem IsDigits.head {digits : List Char} (isDigits : IsDigits digits) (rest : List Char) :
    (digits ++ rest).head?.any isDigit = true := by
  obtain ⟨present, all⟩ := isDigits
  cases digits with
  | nil => exact absurd rfl present
  | cons c digits => exact all c (by simp)

theorem digits?_eq_some {text digits rest : List Char} :
    digits? text = some (digits, rest) ↔
      text = digits ++ rest ∧ IsDigits digits ∧ rest.head?.any isDigit = false := by
  unfold digits?
  constructor
  next =>
    intro found
    split at found
    next starts =>
      obtain ⟨taken, left⟩ := Prod.mk.inj (Option.some.inj found)
      obtain ⟨rfl, all, ends⟩ := span_iff.1 ⟨taken, left⟩
      refine ⟨rfl, ⟨?_, all⟩, ends⟩
      rintro rfl
      simp only [List.nil_append, ends] at starts
      cases starts
    next => cases found
  next =>
    rintro ⟨rfl, isDigits, ends⟩
    obtain ⟨taken, left⟩ := span_iff.2 ⟨rfl, isDigits.2, ends⟩
    rw [if_pos (isDigits.head rest), taken, left]

end Text

namespace Token

inductive IsMantissa : (pointed : Bool) -> List Char -> Prop where
  | whole {digits : List Char} (isDigits : IsDigits digits) : IsMantissa false digits
  | pointed {whole fraction : List Char} (present : whole ++ fraction ≠ [])
    (all : forall c, c ∈ whole ++ fraction -> isDigit c = true) :
    IsMantissa true (whole ++ '.' :: fraction)

inductive IsPowerOfTen : List Char -> Prop where
  | unsigned {mark : Char} {digits : List Char} (isMark : mark ∈ ['e', 'E'])
    (isDigits : IsDigits digits) : IsPowerOfTen (mark :: digits)
  | signed {mark sign : Char} {digits : List Char} (isMark : mark ∈ ['e', 'E'])
    (isSign : sign ∈ ['+', '-']) (isDigits : IsDigits digits) : IsPowerOfTen (mark :: sign :: digits)

theorem IsMantissa.chars {pointed : Bool} {mantissa : List Char} (isMantissa : IsMantissa pointed mantissa) :
    forall c, c ∈ mantissa -> isDigit c = true ∨ c = '.' := by
  intro c member
  cases isMantissa with
  | whole isDigits => exact .inl (isDigits.2 c member)
  | pointed _ all =>
    rcases List.mem_append.1 member with whole | fraction
    next => exact .inl (all c (List.mem_append_left _ whole))
    next =>
      rcases List.mem_cons.1 fraction with rfl | fraction
      next => exact .inr rfl
      next => exact .inl (all c (List.mem_append_right _ fraction))

def Lengthens (pointed : Bool) (rest : List Char) : Prop :=
  rest.head?.any isDigit = true ∨ (pointed = false ∧ rest.head? = some '.')

theorem fraction?_eq_some {text fraction rest : List Char} :
    fraction? text = some (fraction, rest) ↔
      exists digits, fraction = '.' :: digits ∧ text = fraction ++ rest ∧ IsDigits digits ∧
        rest.head?.any isDigit = false := by
  unfold fraction?
  split
  next behind =>
    simp only [Option.map_eq_some_iff, Prod.exists, Prod.mk.injEq, digits?_eq_some]
    constructor
    next =>
      rintro ⟨digits, _, ⟨rfl, isDigits, ends⟩, rfl, rfl⟩
      exact ⟨digits, rfl, rfl, isDigits, ends⟩
    next =>
      rintro ⟨digits, rfl, same, isDigits, ends⟩
      exact ⟨digits, rest, ⟨(List.cons.inj same).2, isDigits, ends⟩, rfl, rfl⟩
  next other =>
    simp only [reduceCtorEq, false_iff, not_exists]
    rintro digits ⟨rfl, rfl, _⟩
    exact other _ rfl

theorem numeral?_sound {text mantissa rest : List Char} (found : numeral? text = some (mantissa, rest)) :
    text = mantissa ++ rest ∧ mantissa.head?.any isDigit = true ∧
      exists pointed, IsMantissa pointed mantissa ∧ ¬Lengthens pointed rest := by
  obtain ⟨⟨whole, behind⟩, started, read⟩ := Option.bind_eq_some_iff.1 found
  obtain ⟨rfl, isDigits, ends⟩ := digits?_eq_some.1 started
  dsimp only at read
  split at read
  next fraction =>
    obtain ⟨same, left⟩ := Prod.mk.inj (Option.some.inj read)
    obtain ⟨front, taken⟩ : exists front, fraction.takeWhile isDigit = front := ⟨_, rfl⟩
    rw [taken] at same
    obtain ⟨rfl, all, fractionEnds⟩ := span_iff.1 ⟨taken, left⟩
    subst same
    refine ⟨by simp, isDigits.head _, true, .pointed (by simp [isDigits.1]) ?_, ?_⟩
    next =>
      intro c member
      rcases List.mem_append.1 member with inside | inside
      next => exact isDigits.2 c inside
      next => exact all c inside
    next => simp [Lengthens, fractionEnds]
  next other =>
    obtain ⟨rfl, rfl⟩ := Prod.mk.inj (Option.some.inj read)
    refine ⟨rfl, by simpa using isDigits.head [], false, .whole isDigits, ?_⟩
    rintro (digit | ⟨_, point⟩)
    next => exact absurd digit (by simp [ends])
    next =>
      obtain ⟨tail, rfl⟩ := List.head?_eq_some_iff.1 point
      exact other tail rfl

theorem numeral?_complete {mantissa rest : List Char} {pointed : Bool}
    (starts : mantissa.head?.any isDigit = true) (isMantissa : IsMantissa pointed mantissa)
    (stops : ¬Lengthens pointed rest) : numeral? (mantissa ++ rest) = some (mantissa, rest) := by
  have ends : rest.head?.any isDigit = false := by
    simpa using fun digit => stops (.inl digit)
  cases isMantissa with
  | whole isDigits =>
    have started := digits?_eq_some.2 ⟨rfl, isDigits, ends⟩
    rw [numeral?, started]
    simp only [Option.bind_eq_bind, Option.bind_some]
    split
    next fraction => exact absurd (.inr ⟨rfl, rfl⟩) stops
    next => rfl
  | @pointed whole fraction present all =>
    have isDigits : IsDigits whole := by
      refine ⟨?_, fun c member => all c (by simp [member])⟩
      rintro rfl
      simp [show isDigit '.' = false by decide] at starts
    have started : digits? (whole ++ '.' :: fraction ++ rest) =
        some (whole, '.' :: (fraction ++ rest)) :=
      digits?_eq_some.2 ⟨by simp, isDigits, show isDigit '.' = false by decide⟩
    obtain ⟨taken, left⟩ : (fraction ++ rest).takeWhile isDigit = fraction ∧
        (fraction ++ rest).dropWhile isDigit = rest :=
      span_iff.2 ⟨rfl, fun c member => all c (List.mem_append_right _ member), ends⟩
    rw [numeral?, started]
    simp only [Option.bind_eq_bind, Option.bind_some, taken, left]

theorem numeral?_eq_some {text mantissa rest : List Char} :
    numeral? text = some (mantissa, rest) ↔
      text = mantissa ++ rest ∧ mantissa.head?.any isDigit = true ∧
        exists pointed, IsMantissa pointed mantissa ∧ ¬Lengthens pointed rest := by
  constructor
  next => exact numeral?_sound
  next =>
    rintro ⟨rfl, starts, _, isMantissa, stops⟩
    exact numeral?_complete starts isMantissa stops

theorem powerOfTen?_eq_some {text power rest : List Char} :
    powerOfTen? text = some (power, rest) ↔
      text = power ++ rest ∧ IsPowerOfTen power ∧ rest.head?.any isDigit = false := by
  constructor
  next =>
    intro found
    unfold powerOfTen? at found
    split at found
    next => cases found
    next mark behind =>
      split at found
      next isMark =>
        have isMark : mark ∈ ['e', 'E'] := by simpa using isMark
        split at found
        next tail =>
          obtain ⟨⟨digits, rest'⟩, started, same⟩ := Option.map_eq_some_iff.1 found
          obtain ⟨rfl, rfl⟩ := Prod.mk.inj same
          obtain ⟨rfl, isDigits, ends⟩ := digits?_eq_some.1 started
          exact ⟨rfl, .signed isMark (by simp) isDigits, ends⟩
        next tail =>
          obtain ⟨⟨digits, rest'⟩, started, same⟩ := Option.map_eq_some_iff.1 found
          obtain ⟨rfl, rfl⟩ := Prod.mk.inj same
          obtain ⟨rfl, isDigits, ends⟩ := digits?_eq_some.1 started
          exact ⟨rfl, .signed isMark (by simp) isDigits, ends⟩
        next =>
          obtain ⟨⟨digits, rest'⟩, started, same⟩ := Option.map_eq_some_iff.1 found
          obtain ⟨rfl, rfl⟩ := Prod.mk.inj same
          obtain ⟨rfl, isDigits, ends⟩ := digits?_eq_some.1 started
          exact ⟨rfl, .unsigned isMark isDigits, ends⟩
      next => cases found
  next =>
    rintro ⟨rfl, isPower, ends⟩
    cases isPower with
    | unsigned isMark isDigits =>
      have started := digits?_eq_some.2 ⟨rfl, isDigits, ends⟩
      have head := isDigits.head rest
      simp only [List.mem_cons, List.not_mem_nil, or_false] at isMark
      simp only [powerOfTen?, List.cons_append, Bool.or_eq_true, beq_iff_eq, isMark, if_true]
      split
      next same => simp [same, show isDigit '+' = false by decide] at head
      next same => simp [same, show isDigit '-' = false by decide] at head
      next => rw [started]; rfl
    | signed isMark isSign isDigits =>
      have started := digits?_eq_some.2 ⟨rfl, isDigits, ends⟩
      simp only [List.mem_cons, List.not_mem_nil, or_false] at isMark isSign
      simp only [powerOfTen?, List.cons_append, Bool.or_eq_true, beq_iff_eq, isMark, if_true]
      rcases isSign with rfl | rfl
      next => simp only [started, Option.map_some]
      next => simp only [started, Option.map_some]

theorem mantissa?_eq_some {text mantissa rest : List Char} :
    (numeral? text <|> fraction? text) = some (mantissa, rest) ↔
      text = mantissa ++ rest ∧
        exists pointed, IsMantissa pointed mantissa ∧ ¬Lengthens pointed rest := by
  rw [Option.orElse_eq_orElse, Option.orElse_eq_or, Option.or_eq_some_iff]
  constructor
  next =>
    rintro (found | ⟨_, found⟩)
    next =>
      obtain ⟨same, _, isMantissa⟩ := numeral?_eq_some.1 found
      exact ⟨same, isMantissa⟩
    next =>
      obtain ⟨digits, rfl, same, isDigits, ends⟩ := fraction?_eq_some.1 found
      exact ⟨same, true, @IsMantissa.pointed [] digits isDigits.1 isDigits.2, by simp [Lengthens, ends]⟩
  next =>
    rintro ⟨rfl, pointed, isMantissa, stops⟩
    by_cases starts : mantissa.head?.any isDigit = true
    next => exact .inl (numeral?_eq_some.2 ⟨rfl, starts, pointed, isMantissa, stops⟩)
    next =>
      right
      cases isMantissa with
      | whole isDigits => exact absurd (by simpa using isDigits.head []) starts
      | @pointed whole fraction present all =>
        cases whole with
        | nil =>
          have ends : rest.head?.any isDigit = false := by
            simpa using fun digit => stops (.inl digit)
          have noDigits : digits? ('.' :: fraction ++ rest) = none := by
            simp [digits?, show isDigit '.' = false by decide]
          have noNumeral : numeral? ('.' :: fraction ++ rest) = none := by
            rw [numeral?, noDigits]
            rfl
          exact ⟨noNumeral, fraction?_eq_some.2 ⟨fraction, rfl, rfl, ⟨present, all⟩, ends⟩⟩
        | cons c whole => exact absurd (all c (by simp)) starts

/-- The lexeme may stand in front of a text and is as long as it can be there. -/
inductive Fits : Lexeme -> (rest : List Char) -> Prop where
  | plain {pointed : Bool} {mantissa rest : List Char} (isMantissa : IsMantissa pointed mantissa)
    (stops : ¬Lengthens pointed rest) (noPower : powerOfTen? rest = none) :
    Fits (.numeral mantissa) rest
  | scaled {pointed : Bool} {mantissa power rest : List Char} (isMantissa : IsMantissa pointed mantissa)
    (isPower : IsPowerOfTen power) (ends : rest.head?.any isDigit = false) :
    Fits (.numeral (mantissa ++ power)) rest
  | name {start : Char} {part rest : List Char} (starts : isNameStart start = true)
    (all : forall c, c ∈ part -> isNamePart c = true) (ends : rest.head?.any isNamePart = false) :
    Fits (.name (start :: part)) rest
  | mark {mark : Mark} {rest : List Char} : Fits (.mark mark) rest

theorem IsPowerOfTen.not_lengthens {power : List Char} (isPower : IsPowerOfTen power) (pointed : Bool)
    (rest : List Char) : ¬Lengthens pointed (power ++ rest) := by
  have fails : isDigit 'e' = false ∧ isDigit 'E' = false := by decide
  cases isPower with
  | unsigned isMark _ | signed isMark _ _ =>
    simp only [List.mem_cons, List.not_mem_nil, or_false] at isMark
    rcases isMark with rfl | rfl <;> simp [Lengthens, fails]

theorem literal?_eq_some {text literal rest : List Char} :
    literal? text = some (literal, rest) ↔ text = literal ++ rest ∧ Fits (.numeral literal) rest := by
  unfold literal?
  constructor
  next =>
    intro found
    obtain ⟨⟨mantissa, behind⟩, started, read⟩ := Option.bind_eq_some_iff.1 found
    obtain ⟨rfl, pointed, isMantissa, stops⟩ := mantissa?_eq_some.1 started
    dsimp only at read
    split at read
    next power tail scaled =>
      obtain ⟨rfl, isPower, ends⟩ := powerOfTen?_eq_some.1 scaled
      obtain ⟨rfl, rfl⟩ := Prod.mk.inj (Option.some.inj read)
      exact ⟨by simp, .scaled isMantissa isPower ends⟩
    next noPower =>
      obtain ⟨rfl, rfl⟩ := Prod.mk.inj (Option.some.inj read)
      exact ⟨rfl, .plain isMantissa stops noPower⟩
  next =>
    rintro ⟨rfl, fits⟩
    cases fits with
    | plain isMantissa stops noPower =>
      have started := mantissa?_eq_some.2 ⟨rfl, _, isMantissa, stops⟩
      simp only [started, Option.bind_eq_bind, Option.bind_some, noPower]
    | @scaled pointed mantissa power rest isMantissa isPower ends =>
      have started : (numeral? (mantissa ++ power ++ rest) <|> fraction? (mantissa ++ power ++ rest)) =
          some (mantissa, power ++ rest) :=
        mantissa?_eq_some.2 ⟨by simp, pointed, isMantissa, isPower.not_lengthens pointed rest⟩
      have scaled := powerOfTen?_eq_some.2 ⟨rfl, isPower, ends⟩
      simp only [started, Option.bind_eq_bind, Option.bind_some, scaled]

theorem namePart_of_nameStart {c : Char} (starts : isNameStart c = true) : isNamePart c = true := by
  simp only [isNameStart, Bool.or_eq_true] at starts
  rcases starts with letter | underscore
  next => simp [isNamePart, Char.isAlphanum, letter]
  next => simp [isNamePart, underscore]

theorem isNameStart_cases {c : Char} (starts : isNameStart c = true) :
    isDigit c = false ∧ isSpace c = false ∧ c ≠ '.' ∧ Mark.ofChar? c = none := by
  have allowed : CallForm.isAllowed c = true := by
    simp only [isNameStart, Bool.or_eq_true, beq_iff_eq] at starts
    rcases starts with letter | rfl
    next => simp [CallForm.isAllowed, Char.isAlphanum, letter]
    next => decide
  have all : forall c, c ∈ CallForm.alphabet -> isNameStart c = true ->
      isDigit c = false ∧ isSpace c = false ∧ c ≠ '.' ∧ Mark.ofChar? c = none := by decide +kernel
  exact all c (CallForm.mem_alphabet allowed) starts

theorem mark_char_cases (mark : Mark) :
    isDigit mark.char = false ∧ isSpace mark.char = false ∧ mark.char ≠ '.' ∧
      isNameStart mark.char = false := by
  cases mark with
  | operator operator => cases operator <;> decide
  | _ => decide

theorem ofChar?_eq_some {c : Char} {mark : Mark} : Mark.ofChar? c = some mark ↔ c = mark.char := by
  constructor
  next =>
    intro found
    have same := List.find?_some found
    rw [beq_iff_eq] at same
    exact same.symm
  next =>
    rintro rfl
    exact Mark.ofChar?_char mark

theorem Fits.literal_starts {literal rest : List Char} (fits : Fits (.numeral literal) rest) :
    exists c tail, literal = c :: tail ∧
      (isDigit c = true ∨ (c = '.' ∧ (tail ++ rest).head?.any isDigit = true)) := by
  have mantissaStarts {pointed : Bool} {mantissa : List Char} (isMantissa : IsMantissa pointed mantissa) :
      exists c tail, mantissa = c :: tail ∧ (isDigit c = true ∨ (c = '.' ∧ IsDigits tail)) := by
    cases isMantissa with
    | whole isDigits =>
      cases mantissa with
      | nil => exact absurd rfl isDigits.1
      | cons c tail => exact ⟨c, tail, rfl, .inl (isDigits.2 c (by simp))⟩
    | @pointed whole fraction present all =>
      cases whole with
      | nil => exact ⟨'.', fraction, rfl, .inr ⟨rfl, present, all⟩⟩
      | cons c whole => exact ⟨c, whole ++ '.' :: fraction, rfl, .inl (all c (by simp))⟩
  cases fits with
  | plain isMantissa =>
    obtain ⟨c, tail, rfl, digit | ⟨point, isDigits⟩⟩ := mantissaStarts isMantissa
    next => exact ⟨c, tail, rfl, .inl digit⟩
    next => exact ⟨c, tail, rfl, .inr ⟨point, isDigits.head rest⟩⟩
  | @scaled _ _ power _ isMantissa =>
    obtain ⟨c, tail, rfl, digit | ⟨point, isDigits⟩⟩ := mantissaStarts isMantissa
    next => exact ⟨c, tail ++ power, rfl, .inl digit⟩
    next =>
      refine ⟨c, tail ++ power, rfl, .inr ⟨point, ?_⟩⟩
      rw [List.append_assoc]
      exact isDigits.head (power ++ rest)

theorem literal?_eq_none {c : Char} {rest : List Char} :
    literal? (c :: rest) = none ↔
      isDigit c = false ∧ (c = '.' -> rest.head?.any isDigit = false) := by
  constructor
  next =>
    intro none
    have noMantissa : (numeral? (c :: rest) <|> fraction? (c :: rest)) = Option.none := by
      cases found : (numeral? (c :: rest) <|> fraction? (c :: rest)) with
      | none => rfl
      | some pair =>
        rw [literal?, found, Option.bind_eq_bind, Option.bind_some] at none
        dsimp only at none
        split at none <;> cases none
    rw [Option.orElse_eq_orElse, Option.orElse_eq_or, Option.or_eq_none_iff] at noMantissa
    obtain ⟨noNumeral, noFraction⟩ := noMantissa
    have noDigit : isDigit c = false := by
      by_cases digit : isDigit c = true
      next =>
        simp only [numeral?, digits?, List.head?_cons, Option.any_some, digit, if_true,
          Option.bind_eq_bind, Option.bind_some] at noNumeral
        split at noNumeral <;> cases noNumeral
      next => simpa using digit
    refine ⟨noDigit, ?_⟩
    rintro rfl
    simpa [fraction?, digits?] using noFraction
  next =>
    rintro ⟨noDigit, noFraction⟩
    cases found : literal? (c :: rest) with
    | none => rfl
    | some pair =>
      obtain ⟨literal, behind⟩ := pair
      obtain ⟨same, fits⟩ := literal?_eq_some.1 found
      obtain ⟨d, tail, rfl, digit | ⟨point, digit⟩⟩ := fits.literal_starts
      next =>
        obtain ⟨rfl, _⟩ := List.cons.inj same
        exact absurd noDigit (ne_false_of_eq_true digit)
      next =>
        obtain ⟨rfl, rfl⟩ := List.cons.inj same
        exact absurd (noFraction point) (ne_false_of_eq_true digit)

theorem lexeme?_eq_some {text rest : List Char} {lexeme : Lexeme} :
    lexeme? text = some (lexeme, rest) ↔ text = lexeme.text ++ rest ∧ Fits lexeme rest := by
  constructor
  next =>
    intro found
    unfold lexeme? at found
    split at found
    next literal behind read =>
      obtain ⟨rfl, rfl⟩ := Prod.mk.inj (Option.some.inj found)
      exact literal?_eq_some.1 read
    next =>
      split at found
      next => cases found
      next c tail _ =>
        split at found
        next starts =>
          obtain ⟨same, left⟩ := Prod.mk.inj (Option.some.inj found)
          obtain ⟨part, taken⟩ : exists part, tail.takeWhile isNamePart = part := ⟨_, rfl⟩
          rw [taken] at same
          obtain ⟨rfl, all, ends⟩ := span_iff.1 ⟨taken, left⟩
          subst same
          exact ⟨rfl, .name starts all ends⟩
        next =>
          obtain ⟨mark, marked, same⟩ := Option.map_eq_some_iff.1 found
          obtain ⟨rfl, rfl⟩ := Prod.mk.inj same
          exact ⟨by rw [ofChar?_eq_some.1 marked]; rfl, .mark⟩
  next =>
    rintro ⟨rfl, fits⟩
    cases lexeme with
    | numeral literal =>
      have read := literal?_eq_some.2 ⟨rfl, fits⟩
      simp only [lexeme?, Lexeme.text, read]
    | name name =>
      cases fits with
      | @name start part rest starts all ends =>
        obtain ⟨noDigit, _, noPoint, _⟩ := isNameStart_cases starts
        obtain ⟨taken, left⟩ := span_iff.2 ⟨rfl, all, ends⟩
        have noLiteral : literal? (start :: (part ++ rest)) = none :=
          literal?_eq_none.2 ⟨noDigit, fun point => absurd point noPoint⟩
        simp only [lexeme?, Lexeme.text, List.cons_append, noLiteral, starts, if_true, taken, left]
    | mark mark =>
      obtain ⟨noDigit, _, noPoint, noName⟩ := mark_char_cases mark
      have noLiteral : literal? (mark.char :: rest) = none :=
        literal?_eq_none.2 ⟨noDigit, fun point => absurd point noPoint⟩
      simp [lexeme?, Lexeme.text, noLiteral, noName, Mark.ofChar?_char]

theorem lexeme?_eq_none {c : Char} {rest : List Char} :
    lexeme? (c :: rest) = none ↔
      isDigit c = false ∧ (c = '.' -> rest.head?.any isDigit = false) ∧ isNameStart c = false ∧
        Mark.ofChar? c = none := by
  rw [← and_assoc, ← literal?_eq_none]
  unfold lexeme?
  split
  next read => simp [read]
  next read =>
    simp only [read, true_and]
    split
    next starts => simp [starts]
    next starts => simpa using fun _ => starts

end Token

end SpokenArithmetic

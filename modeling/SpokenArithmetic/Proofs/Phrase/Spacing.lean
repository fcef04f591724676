import SpokenArithmetic.Proofs.Phrase.Products
import SpokenArithmetic.Proofs.Phrase.Squeezed

set_option autoImplicit false

namespace SpokenArithmetic.Phrase

open Number Text Token

section Readers

variable {text : List Char}

theorem takeWhile_squeeze {holds : Char -> Bool} (blind : forall c, isSpace c = true -> holds c = false)
    (text : List Char) : (squeeze text).takeWhile holds = text.takeWhile holds ∧
      (squeeze text).dropWhile holds = squeeze (text.dropWhile holds) := by
  induction text with
  | nil => exact ⟨rfl, rfl⟩
  | cons c rest ih =>
    cases space : isSpace c with
    | true => simp [squeeze_space space, blind c space, blind ' ' (by decide)]
    | false =>
      rw [squeeze_other space]
      cases held : holds c with
      | true => simp [held, ih]
      | false => simp [held, squeeze_other space]

theorem noDigit_of_space {c : Char} (space : isSpace c = true) : isDigit c = false :=
  (space_cases space).1

theorem noDigitOrPoint_of_space {c : Char} (space : isSpace c = true) : isDigitOrPoint c = false := by
  obtain ⟨digit, _, marks⟩ := space_cases space
  have point : c ≠ '.' := by
    rintro rfl
    exact marks (by simp)
  simp [isDigitOrPoint, digit, point]

theorem noPointOrOpen_of_space {c : Char} (space : isSpace c = true) : isPointOrOpen c = false := by
  have opening : c ≠ '(' := by
    rintro rfl
    exact (space_cases space).2.2 (by simp)
  simp [isPointOrOpen, noDigitOrPoint_of_space space, opening]

theorem digits?_squeeze (text : List Char) : digits? (squeeze text) = (digits? text).map (Prod.map id squeeze) := by
  obtain ⟨taken, left⟩ := takeWhile_squeeze (fun c => noDigit_of_space) text
  rw [digits?, digits?, head_squeeze (fun c => noDigit_of_space), taken, left]
  split <;> rfl

theorem gap?_squeeze (text : List Char) : gap? (squeeze text) = (gap? text).map squeeze := by
  rw [gap?, gap?, head_squeeze_space, skipSpace_squeeze]
  split <;> rfl

theorem after?_squeeze {start : List Char} (solid : forall c, c ∈ start -> isSpace c = false) (text : List Char) :
    after? start (squeeze text) = (after? start text).map squeeze := by
  induction start generalizing text with
  | nil => rfl
  | cons c start ih =>
    cases text with
    | nil => rfl
    | cons d rest =>
      have other := solid c List.mem_cons_self
      cases space : isSpace d with
      | true =>
        have one : c ≠ ' ' := by
          rintro rfl
          cases other
        have two : c ≠ d := by
          rintro rfl
          cases other.symm.trans space
        rw [squeeze_space space, after?, after?, if_neg one, if_neg two]
        rfl
      | false =>
        rw [squeeze_other space, after?, after?]
        split
        next => exact ih (fun e member => solid e (List.mem_cons_of_mem c member)) rest
        next => rfl

theorem numeral?_squeeze (text : List Char) : numeral? (squeeze text) = (numeral? text).map (Prod.map id squeeze) := by
  rw [numeral?, numeral?, digits?_squeeze]
  cases digits? text with
  | none => rfl
  | some pair =>
    obtain ⟨whole, rest⟩ := pair
    simp only [Option.map_some, Prod.map, id, Option.bind_eq_bind, Option.bind_some]
    cases rest with
    | nil => rfl
    | cons c rest =>
      cases space : isSpace c with
      | true =>
        have point : c ≠ '.' := by
          rintro rfl
          cases space
        simp [squeeze_space space, point]
      | false =>
        rw [squeeze_other space]
        obtain ⟨taken, left⟩ := takeWhile_squeeze (fun c => noDigit_of_space) rest
        split <;> simp_all [squeeze_other]

theorem signedNumeral?_squeeze (text : List Char) :
    signedNumeral? (squeeze text) = (signedNumeral? text).map (Prod.map id squeeze) := by
  cases text with
  | nil => rfl
  | cons c rest =>
    by_cases minus : c = '-'
    next =>
      subst minus
      rw [squeeze_other (by decide), signedNumeral?, signedNumeral?, skipSpace_squeeze, numeral?_squeeze,
        Option.map_map, Option.map_map]
      rfl
    next =>
      have unsigned {text : List Char} (other : text.head? ≠ some '-') : signedNumeral? text = numeral? text := by
        unfold signedNumeral?
        split
        next => exact absurd rfl other
        next => rfl
      have head : (squeeze (c :: rest)).head? ≠ some '-' := by
        rw [head?_squeeze]
        simp only [List.head?_cons, Option.map_some, ne_eq, Option.some.injEq]
        split
        next => decide
        next => exact minus
      rw [unsigned head, unsigned (by simpa using minus), numeral?_squeeze]

theorem wholeFunctionName?_squeeze (text : List Char) :
    wholeFunctionName? (squeeze text) = (wholeFunctionName? text).map (Prod.map id squeeze) := by
  have solid (function : Function) : forall c, c ∈ function.name.toList -> isSpace c = false := by
    cases function <;> decide +kernel
  unfold wholeFunctionName?
  induction Function.all with
  | nil => rfl
  | cons function others ih =>
    rw [List.findSome?_cons, List.findSome?_cons, after?_squeeze (solid function), ih]
    cases after? function.name.toList text with
    | none => rfl
    | some rest =>
      simp only [Option.map_some, Option.bind_eq_bind, Option.bind_some, head_squeeze (fun c => space_not_word)]
      cases rest.head?.any isWord <;> rfl

end Readers

section Patterns

variable {before before' : Option Char} {text stretch behind : List Char}

theorem solid_end (front behind : List Char) (present : stretch ≠ [])
    (solid : forall c, c ∈ stretch -> isSpace c = false) :
    exists start c, front ++ (stretch ++ behind) = start ++ c :: behind ∧ isSpace c = false := by
  refine ⟨front ++ stretch.dropLast, stretch.getLast present, ?_, solid _ (List.getLast_mem present)⟩
  conv_lhs => rw [← List.dropLast_append_getLast present]
  simp

theorem SameSide.unlessBehind {A : Type} {isBarred : Char -> Bool} {pattern : Pattern A} {lift : A -> A}
    (sides : SameSide before before') (blind : forall c, isSpace c = true -> isBarred c = false)
    (squeezed : pattern before' (squeeze text) = (pattern before text).map fun pair => (lift pair.1, squeeze pair.2)) :
    Pattern.unlessBehind isBarred pattern before' (squeeze text) =
      (Pattern.unlessBehind isBarred pattern before text).map fun pair => (lift pair.1, squeeze pair.2) := by
  unfold Pattern.unlessBehind
  rw [sides.any blind, squeezed]
  split <;> rfl

theorem digits_solid {group : List Char} (isDigits : IsDigits group) : forall c, c ∈ group -> isSpace c = false :=
  fun c member => not_space_of_isDigit (isDigits.2 c member)

theorem digits?_space {c : Char} (space : isSpace c = true) (rest : List Char) : digits? (c :: rest) = none := by
  simp [digits?, noDigit_of_space space]

theorem numeral?_space {c : Char} (space : isSpace c = true) (rest : List Char) : numeral? (c :: rest) = none := by
  simp [numeral?, digits?_space space]

theorem blind_asWords {phrase rendering : List Char} (present : phrase ≠ [])
    (solid : forall c, c ∈ phrase -> isSpace c = false) : Blind (asWords phrase) (fun _ => rendering) id where
  starts := by
    intro before c rest space
    obtain ⟨d, phrase, rfl⟩ := List.exists_cons_of_ne_nil present
    have other : d ≠ c := by
      rintro rfl
      cases space.symm.trans (solid d List.mem_cons_self)
    simp [asWords, Pattern.unlessBehind, after?, other]
  ends := by
    intro before text found behind matched
    obtain rfl := (finds_asWords phrase).sound before text found behind matched
    exact solid_end [] behind present solid
  squeezed := by
    intro before before' text sides
    refine sides.unlessBehind (fun c => space_not_word) ?_
    rw [after?_squeeze solid]
    cases after? phrase text with
    | none => rfl
    | some rest =>
      simp only [Option.map_some, Option.bind_eq_bind, Option.bind_some, head_squeeze (fun c => space_not_word)]
      cases rest.head?.any isWord <;> rfl
  rendered := fun _ _ _ _ _ => rfl

theorem blind_scaled (zeros : Nat) {render : List Char -> List Char} : Blind (scaled (scale zeros)) render id where
  starts := by
    intro before c rest space
    simp [scaled, Pattern.unlessBehind, digits?_space space]
  ends := by
    intro before text found behind matched
    obtain ⟨_, rfl, ⟨_, _, gap, _, rfl⟩, _⟩ := scaled_eq_some.1 matched
    have isDigits := isDigits_scale zeros
    have ends := solid_end (found ++ gap) behind isDigits.1 (digits_solid isDigits)
    simpa using ends
  squeezed := by
    intro before before' text sides
    refine sides.unlessBehind (fun c => noDigitOrPoint_of_space) ?_
    rw [digits?_squeeze]
    cases digits? text with
    | none => rfl
    | some pair =>
      simp only [Option.map_some, Option.bind_eq_bind, Option.bind_some, Prod.map, gap?_squeeze]
      cases gap? pair.2 with
      | none => rfl
      | some rest =>
        simp only [Option.map_some, Option.bind_some, after?_squeeze (digits_solid (isDigits_scale zeros))]
        cases after? (scale zeros) rest with
        | none => rfl
        | some last =>
          simp only [Option.map_some, Option.bind_some, head_squeeze (fun c => noDigit_of_space)]
          cases last.head?.any isDigit <;> rfl
  rendered := fun _ _ _ _ _ => rfl

def Neighbours.narrow (found : Neighbours) : Neighbours :=
  { found with gap := [' '] }

@[simp]
theorem Neighbours.fills_narrow (found : Neighbours) : found.narrow.fills = found.fills := rfl

@[simp]
theorem Neighbours.sum_narrow (found : Neighbours) : found.narrow.sum = found.sum := rfl

@[simp]
theorem Neighbours.overlong?_narrow (found : Neighbours) : found.narrow.overlong? = found.overlong? := rfl

theorem Neighbours.merged_narrow (found : Neighbours) (isGap : IsGap found.gap) :
    squeeze found.narrow.merged = squeeze found.merged := by
  have narrow : squeeze [' '] = squeeze found.gap := (squeeze_of_gap isGap).symm
  unfold merged
  rw [fills_narrow, sum_narrow]
  split
  next => rfl
  next =>
    rw [apply_ite squeeze, apply_ite squeeze]
    exact ite_congr rfl (fun _ => rfl) fun _ => squeeze_congr (squeeze_congr rfl narrow) rfl

theorem blind_neighbours : Blind neighbours Neighbours.merged Neighbours.narrow where
  starts := by
    intro before c rest space
    simp [neighbours, Pattern.unlessBehind, digits?_space space]
  ends := by
    intro before text found behind matched
    obtain ⟨_, rfl, ⟨_, _, _, isLow, _, rfl⟩, _⟩ := neighbours_eq_some.1 matched
    have ends := solid_end (found.high ++ found.gap) behind isLow.1 (digits_solid isLow)
    simpa using ends
  squeezed := by
    intro before before' text sides
    refine sides.unlessBehind (fun c => noDigitOrPoint_of_space) ?_
    rw [digits?_squeeze]
    cases digits? text with
    | none => rfl
    | some pair =>
      obtain ⟨high, rest⟩ := pair
      simp only [Option.map_some, Option.bind_eq_bind, Option.bind_some, Prod.map, gap?_squeeze]
      cases gapFound : gap? rest with
      | none => rfl
      | some next =>
        simp only [Option.map_some, Option.bind_some, digits?_squeeze]
        cases digits? next with
        | none => rfl
        | some pair =>
          obtain ⟨gap, rfl, isGap, stops⟩ := gap?_eq_some.1 gapFound
          have single : (' ' :: squeeze next).takeWhile isSpace = [' '] := by
            have stops := (head_squeeze_space next).trans stops
            exact (@span_iff isSpace (' ' :: squeeze next) [' '] (squeeze next)).2 ⟨rfl, by decide, stops⟩ |>.1
          simp only [Option.map_some, Option.bind_some, Prod.map, head_squeeze (fun c => noDigitOrPoint_of_space),
            squeeze_gap isGap stops, single, id]
          split <;> rfl
  rendered := by
    intro before text found behind matched
    obtain ⟨_, _, ⟨_, _, isGap, _⟩, _⟩ := neighbours_eq_some.1 matched
    exact found.merged_narrow isGap

def firstDigit? : List Char -> Option (Char × List Char)
  | [] => none
  | digit :: rest => if isDigit digit then some (digit, rest) else none

theorem firstDigit?_squeeze (text : List Char) :
    firstDigit? (squeeze text) = (firstDigit? text).map (Prod.map id squeeze) := by
  cases text with
  | nil => rfl
  | cons c rest =>
    cases space : isSpace c with
    | true => simp [squeeze_space space, firstDigit?, noDigit_of_space space, show isDigit ' ' = false by decide]
    | false =>
      rw [squeeze_other space, firstDigit?, firstDigit?]
      split <;> rfl

theorem firstDigit?_eq_some {digit : Char} :
    firstDigit? text = some (digit, behind) ↔ text = digit :: behind ∧ isDigit digit = true := by
  cases text with
  | nil => simp [firstDigit?]
  | cons c rest =>
    simp only [firstDigit?, Option.ite_none_right_eq_some, Option.some.injEq, Prod.mk.injEq, List.cons.injEq]
    grind

theorem spacedPoint_cons (first : Char) (rest : List Char) :
    spacedPoint before (first :: rest) =
      (after? ['.'] (skipSpace rest)).bind fun behind =>
        (firstDigit? (skipSpace behind)).bind fun pair =>
          if isDigit first then some ((first, pair.1), pair.2) else none := by
  unfold spacedPoint
  dsimp only
  cases skipSpace rest with
  | nil => rfl
  | cons c behind =>
    by_cases point : c = '.'
    next =>
      subst point
      rw [after?, if_pos rfl, after?, Option.bind_some]
      cases skipped : skipSpace behind with
      | nil => simp [skipped, firstDigit?]
      | cons last rest =>
        cases one : isDigit first <;> cases two : isDigit last <;> simp [skipped, firstDigit?, two]
    next => simp [after?, point, Ne.symm point]

theorem closeBeforeDigit_cons (close : Char) (rest : List Char) :
    closeBeforeDigit before (close :: rest) = if close = ')' then firstDigit? (skipSpace rest) else none := by
  unfold closeBeforeDigit
  by_cases same : close = ')'
  next =>
    subst same
    simp only [if_true]
    cases skipSpace rest <;> rfl
  next => simp [same]

theorem blind_spacedPoint : Blind spacedPoint (fun ends => [ends.1, '.', ends.2]) id where
  starts := by
    intro before c rest space
    rw [spacedPoint_cons]
    simp [noDigit_of_space space]
  ends := by
    intro before text found behind matched
    cases text with
    | nil => cases matched
    | cons first rest =>
      rw [spacedPoint_cons] at matched
      obtain ⟨pointed, point, matched⟩ := Option.bind_eq_some_iff.1 matched
      obtain ⟨⟨last, left⟩, digit, matched⟩ := Option.bind_eq_some_iff.1 matched
      obtain ⟨_, same⟩ := Option.ite_none_right_eq_some.1 matched
      obtain ⟨rfl, rfl⟩ := Prod.mk.inj (Option.some.inj same)
      obtain ⟨spaces, rfl, _⟩ := after?_skipSpace point
      obtain ⟨skipped, isDigit⟩ := firstDigit?_eq_some.1 digit
      obtain ⟨more, rfl, _⟩ := skipSpace_parts skipped
      exact ⟨first :: (spaces ++ '.' :: more), last, by simp, not_space_of_isDigit isDigit⟩
  squeezed := by
    intro before before' text _
    cases text with
    | nil => rfl
    | cons first rest =>
      cases space : isSpace first with
      | true =>
        rw [squeeze_space space, spacedPoint_cons, spacedPoint_cons]
        simp [noDigit_of_space space, show isDigit ' ' = false by decide]
      | false =>
        rw [squeeze_other space, spacedPoint_cons, spacedPoint_cons, skipSpace_squeeze, after?_squeeze (by decide)]
        cases after? ['.'] (skipSpace rest) with
        | none => rfl
        | some behind =>
          simp only [Option.map_some, Option.bind_some, skipSpace_squeeze, firstDigit?_squeeze]
          cases firstDigit? (skipSpace behind) with
          | none => rfl
          | some pair => cases isDigit first <;> rfl
  rendered := fun _ _ _ _ _ => rfl

theorem blind_raisedTo {exponent : Char} (solid : isSpace exponent = false) {render : List Char -> List Char} :
    Blind (raisedTo exponent) render id where
  starts := by
    intro before c rest space
    simp [raisedTo, Pattern.unlessBehind, numeral?_space space]
  ends := by
    intro before text found behind matched
    unfold raisedTo Pattern.unlessBehind at matched
    split at matched
    next => cases matched
    next =>
      obtain ⟨⟨numeral, rest⟩, read, matched⟩ := Option.bind_eq_some_iff.1 matched
      obtain ⟨last, passed, matched⟩ := Option.bind_eq_some_iff.1 matched
      split at matched
      next => cases matched
      next =>
        obtain ⟨rfl, rfl⟩ := Prod.mk.inj (Option.some.inj matched)
        obtain ⟨rfl, _⟩ := numeral?_parts read
        obtain ⟨spaces, rfl, _⟩ := after?_skipSpace passed
        exact ⟨numeral ++ (spaces ++ ['^']), exponent, by simp, solid⟩
  squeezed := by
    intro before before' text sides
    refine sides.unlessBehind (fun c => noDigitOrPoint_of_space) ?_
    have solid : forall c, c ∈ ['^', exponent] -> isSpace c = false := by
      simp [solid, show isSpace '^' = false by decide]
    rw [numeral?_squeeze]
    cases numeral? text with
    | none => rfl
    | some pair =>
      simp only [Option.map_some, Option.bind_eq_bind, Option.bind_some, Prod.map, skipSpace_squeeze,
        after?_squeeze solid]
      cases after? ['^', exponent] (skipSpace pair.2) with
      | none => rfl
      | some rest =>
        simp only [Option.map_some, Option.bind_some, head_squeeze (fun c => noDigit_of_space)]
        cases rest.head?.any isDigit <;> rfl
  rendered := fun _ _ _ _ _ => rfl

theorem numeral_solid {numeral : List Char} (read : numeral? text = some (numeral, behind)) :
    forall c, c ∈ numeral -> isSpace c = false := by
  obtain ⟨_, _, pointed, isMantissa, _⟩ := numeral?_eq_some.1 read
  intro c member
  cases space : isSpace c with
  | false => rfl
  | true =>
    have other := noDigitOrPoint_of_space space
    rcases isMantissa.chars c member with digit | rfl <;> simp_all [isDigitOrPoint]

theorem signedNumeral?_ends {argument : List Char} (read : signedNumeral? text = some (argument, behind)) :
    exists front numeral, text = front ++ (numeral ++ behind) ∧ numeral ≠ [] ∧
      forall c, c ∈ numeral -> isSpace c = false := by
  unfold signedNumeral? at read
  split at read
  next rest =>
    obtain ⟨⟨numeral, left⟩, numeralRead, same⟩ := Option.map_eq_some_iff.1 read
    obtain ⟨rfl, rfl⟩ := Prod.mk.inj same
    obtain ⟨parts, present⟩ := numeral?_parts numeralRead
    obtain ⟨spaces, rfl, _⟩ := skipSpace_parts parts
    exact ⟨'-' :: spaces, numeral, rfl, present, numeral_solid numeralRead⟩
  next => exact ⟨[], argument, (numeral?_parts read).1, (numeral?_parts read).2, numeral_solid read⟩

theorem blind_barePower {render : List Char × List Char -> List Char} : Blind barePower render id where
  starts := by
    intro before c rest space
    simp [barePower, Pattern.unlessBehind, numeral?_space space]
  ends := by
    intro before text found behind matched
    unfold barePower Pattern.unlessBehind at matched
    split at matched
    next => cases matched
    next =>
      obtain ⟨⟨numeral, rest⟩, read, matched⟩ := Option.bind_eq_some_iff.1 matched
      obtain ⟨last, passed, matched⟩ := Option.bind_eq_some_iff.1 matched
      obtain ⟨⟨exponent, left⟩, raised, matched⟩ := Option.bind_eq_some_iff.1 matched
      dsimp only at passed matched
      split at matched
      next => cases matched
      next =>
        obtain ⟨rfl, rfl⟩ := Prod.mk.inj (Option.some.inj matched)
        obtain ⟨rfl, _⟩ := numeral?_parts read
        obtain ⟨spaces, rfl, _⟩ := after?_skipSpace passed
        obtain ⟨parts, present⟩ := numeral?_parts raised
        obtain ⟨gap, rfl, _⟩ := skipSpace_parts parts
        have ends := solid_end (numeral ++ (spaces ++ '^' :: gap)) left present (numeral_solid raised)
        simpa using ends
  squeezed := by
    intro before before' text sides
    refine sides.unlessBehind (fun c => noPointOrOpen_of_space) ?_
    rw [numeral?_squeeze]
    cases numeral? text with
    | none => rfl
    | some pair =>
      simp only [Option.map_some, Option.bind_eq_bind, Option.bind_some, Prod.map, skipSpace_squeeze,
        @after?_squeeze ['^'] (by decide)]
      cases after? ['^'] (skipSpace pair.2) with
      | none => rfl
      | some rest =>
        simp only [Option.map_some, Option.bind_some, skipSpace_squeeze, numeral?_squeeze]
        cases numeral? (skipSpace rest) with
        | none => rfl
        | some pair =>
          simp only [Option.map_some, Option.bind_some, Prod.map, head_squeeze (fun c => noDigitOrPoint_of_space)]
          cases pair.2.head?.any isDigitOrPoint <;> rfl
  rendered := fun _ _ _ _ _ => rfl

theorem name_solid (function : Function) : forall c, c ∈ function.name.toList -> isSpace c = false := by
  intro c member
  cases space : isSpace c with
  | false => rfl
  | true => cases (name_chars function c member).1.symm.trans (space_not_word space)

theorem functionName_space {function : Function} {c : Char} (space : isSpace c = true) (rest : List Char) :
    functionName function before (c :: rest) = none := by
  obtain ⟨d, tail, initial, name⟩ := name_head function
  have other : d ≠ c := by
    rintro rfl
    cases space.symm.trans (initial_cases initial).2.1
  simp [functionName, Pattern.unlessBehind, literally, name, after?, other]

theorem functionName_squeeze (function : Function) (sides : SameSide before before') (text : List Char) :
    functionName function before' (squeeze text) =
      (functionName function before text).map fun pair => (pair.1, squeeze pair.2) := by
  refine @SameSide.unlessBehind _ _ _ _ _ _ id sides (fun c => space_not_word) ?_
  rw [literally, literally, after?_squeeze (name_solid function)]
  cases after? function.name.toList text <;> rfl

theorem blind_parenthesizedCall (function : Function) {render : List Char -> List Char} :
    Blind (parenthesizedCall function) render id where
  starts := by
    intro before c rest space
    simp [parenthesizedCall, functionName_space space]
  ends := by
    intro before text found behind matched
    obtain ⟨⟨_, rest⟩, named, matched⟩ := Option.bind_eq_some_iff.1 matched
    obtain ⟨opened, passed, matched⟩ := Option.bind_eq_some_iff.1 matched
    obtain ⟨⟨argument, left⟩, read, matched⟩ := Option.bind_eq_some_iff.1 matched
    obtain ⟨last, closed, matched⟩ := Option.bind_eq_some_iff.1 matched
    obtain ⟨rfl, rfl⟩ := Prod.mk.inj (Option.some.inj matched)
    obtain ⟨spaces, rfl, _⟩ := after?_skipSpace passed
    obtain ⟨tail, rfl, _⟩ := after?_skipSpace closed
    obtain ⟨shown, parts, _⟩ := signedNumeral?_parts read
    obtain ⟨gap, rfl, _⟩ := skipSpace_parts parts
    rw [functionName_parts named]
    exact ⟨function.name.toList ++ (spaces ++ '(' :: (gap ++ (shown ++ tail))), ')', by simp, by decide⟩
  squeezed := by
    intro before before' text sides
    unfold parenthesizedCall
    rw [functionName_squeeze function sides]
    cases functionName function before text with
    | none => rfl
    | some pair =>
      simp only [Option.map_some, Option.bind_eq_bind, Option.bind_some, skipSpace_squeeze,
        @after?_squeeze ['('] (by decide)]
      cases after? ['('] (skipSpace pair.2) with
      | none => rfl
      | some rest =>
        simp only [Option.map_some, Option.bind_some, skipSpace_squeeze, signedNumeral?_squeeze]
        cases signedNumeral? (skipSpace rest) with
        | none => rfl
        | some pair =>
          simp only [Option.map_some, Option.bind_some, Prod.map, skipSpace_squeeze, @after?_squeeze [')'] (by decide)]
          cases after? [')'] (skipSpace pair.2) <;> rfl
  rendered := fun _ _ _ _ _ => rfl

theorem blind_bareCall (function : Function) {render : List Char -> List Char} :
    Blind (bareCall function) render id where
  starts := by
    intro before c rest space
    simp [bareCall, functionName_space space]
  ends := by
    intro before text found behind matched
    obtain ⟨⟨_, rest⟩, named, matched⟩ := Option.bind_eq_some_iff.1 matched
    obtain ⟨next, gapFound, read⟩ := Option.bind_eq_some_iff.1 matched
    obtain ⟨gap, rfl, _⟩ := gap?_eq_some.1 gapFound
    obtain ⟨front, numeral, rfl, present, solid⟩ := signedNumeral?_ends read
    rw [functionName_parts named]
    have ends := solid_end (function.name.toList ++ (gap ++ front)) behind present solid
    simpa using ends
  squeezed := by
    intro before before' text sides
    unfold bareCall
    rw [functionName_squeeze function sides]
    cases functionName function before text with
    | none => rfl
    | some pair =>
      simp only [Option.map_some, Option.bind_eq_bind, Option.bind_some, gap?_squeeze]
      cases gap? pair.2 with
      | none => rfl
      | some rest =>
        simp only [Option.map_some, Option.bind_some, signedNumeral?_squeeze]
        rfl
  rendered := fun _ _ _ _ _ => rfl

theorem blind_factorBeforeFunction {render : Char × Function -> List Char} : Blind factorBeforeFunction render id where
  starts := by
    intro before c rest space
    simp [factorBeforeFunction, space_noFactor space]
  ends := by
    intro before text found behind matched
    obtain ⟨rest, rfl, skipped, _⟩ := factorBeforeFunction_eq_some matched
    obtain ⟨spaces, rfl, _⟩ := skipSpace_parts skipped
    obtain ⟨c, tail, _, name⟩ := name_head found.2
    exact solid_end (found.1 :: spaces) behind (by simp [name]) (name_solid found.2)
  squeezed := by
    intro before before' text _
    cases text with
    | nil => rfl
    | cons factor rest =>
      cases space : isSpace factor with
      | true =>
        rw [squeeze_space space]
        simp [factorBeforeFunction, space_noFactor space, space_noFactor (show isSpace ' ' = true by decide)]
      | false =>
        rw [squeeze_other space, factorBeforeFunction, factorBeforeFunction, skipSpace_squeeze,
          wholeFunctionName?_squeeze]
        cases wholeFunctionName? (skipSpace rest) with
        | none => rfl
        | some pair => cases isDigitOrClose factor <;> rfl
  rendered := fun _ _ _ _ _ => rfl

theorem blind_factorBeforeOpen {render : Char -> List Char} : Blind factorBeforeOpen render id where
  starts := by
    intro before c rest space
    simp [factorBeforeOpen, space_noFactor space]
  ends := by
    intro before text found behind matched
    obtain ⟨rest, rfl, skipped, _⟩ := factorBeforeOpen_eq_some.1 matched
    obtain ⟨spaces, rfl, _⟩ := skipSpace_parts skipped
    exact ⟨found :: spaces, '(', rfl, by decide⟩
  squeezed := by
    intro before before' text _
    cases text with
    | nil => rfl
    | cons factor rest =>
      cases space : isSpace factor with
      | true =>
        rw [squeeze_space space]
        simp [factorBeforeOpen, space_noFactor space, space_noFactor (show isSpace ' ' = true by decide)]
      | false =>
        rw [squeeze_other space, factorBeforeOpen, factorBeforeOpen, skipSpace_squeeze, after?_squeeze (by decide)]
        cases after? ['('] (skipSpace rest) with
        | none => rfl
        | some behind => cases isDigitOrClose factor <;> rfl
  rendered := fun _ _ _ _ _ => rfl

theorem blind_closeBeforeDigit {render : Char -> List Char} : Blind closeBeforeDigit render id where
  starts := by
    intro before c rest space
    have other : c ≠ ')' := by
      rintro rfl
      cases space
    rw [closeBeforeDigit_cons, if_neg other]
  ends := by
    intro before text found behind matched
    obtain ⟨rest, rfl, skipped, digit⟩ := closeBeforeDigit_eq_some.1 matched
    obtain ⟨spaces, rfl, _⟩ := skipSpace_parts skipped
    exact ⟨')' :: spaces, found, rfl, not_space_of_isDigit digit⟩
  squeezed := by
    intro before before' text _
    cases text with
    | nil => rfl
    | cons close rest =>
      cases space : isSpace close with
      | true =>
        have other : close ≠ ')' := by
          rintro rfl
          cases space
        rw [squeeze_space space, closeBeforeDigit_cons, closeBeforeDigit_cons, if_neg other, if_neg (by decide)]
        rfl
      | false =>
        rw [squeeze_other space, closeBeforeDigit_cons, closeBeforeDigit_cons, skipSpace_squeeze, firstDigit?_squeeze]
        split <;> rfl
  rendered := fun _ _ _ _ _ => rfl

end Patterns

section Passes

variable {first second : List Char}

def Alike (first second : List Char) : Prop :=
  squeeze first = squeeze second

theorem Blind.replace_alike {A : Type} {pattern : Pattern A} {render : A -> List Char} {lift : A -> A}
    (blind : Blind pattern render lift) (alike : Alike first second) :
    Alike (pattern.replace render first) (pattern.replace render second) := by
  unfold Alike at alike ⊢
  rw [← blind.replace_squeeze first, alike, blind.replace_squeeze]

theorem Blind.complaint?_alike {A B : Type} {pattern : Pattern A} {render : A -> List Char} {lift : A -> A}
    (blind : Blind pattern render lift) {complain : A -> Option B}
    (same : forall found, complain (lift found) = complain found)
    (alike : Alike first second) : pattern.complaint? complain first = pattern.complaint? complain second := by
  rw [← blind.complaint?_squeeze same first, alike, blind.complaint?_squeeze same]

theorem replaceAll_alike {table : List Lexicon.Entry}
    (single : forall entry, entry ∈ table -> entry.1.toList ≠ [] ∧ forall c, c ∈ entry.1.toList -> isSpace c = false)
    (alike : Alike first second) :
    Alike (table.foldl (replacePhrase asWords) first) (table.foldl (replacePhrase asWords) second) := by
  induction table generalizing first second with
  | nil => exact alike
  | cons entry table ih =>
    obtain ⟨present, solid⟩ := single entry List.mem_cons_self
    exact ih (fun other member => single other (List.mem_cons_of_mem entry member))
      ((blind_asWords present solid).replace_alike alike)

theorem replaceNumberWords_alike (alike : Alike first second) :
    Alike (replaceNumberWords first) (replaceNumberWords second) :=
  replaceAll_alike (by decide +kernel) alike

theorem multiplyScale_alike (zeros : Nat) (alike : Alike first second) :
    Alike (multiplyScale zeros first) (multiplyScale zeros second) :=
  (blind_scaled zeros).replace_alike alike

theorem mergeOnce_alike (alike : Alike first second) : Alike (mergeOnce first) (mergeOnce second) :=
  blind_neighbours.replace_alike alike

theorem mergeAll_alike (rounds : Nat) (alike : Alike first second) :
    Alike (mergeAll rounds first) (mergeAll rounds second) := by
  rw [mergeAll_eq_iterate, mergeAll_eq_iterate]
  induction rounds generalizing first second with
  | zero => exact alike
  | succ rounds ih => exact ih (mergeOnce_alike alike)

theorem mergeAll_enough {rounds : Nat} {text : List Char} (enough : text.length <= rounds) :
    mergeAll rounds text = mergeAll text.length text := by
  rw [mergeAll_eq_iterate, mergeAll_eq_iterate, mergeOnce_iterate_stable enough]

theorem compound_alike (alike : Alike first second) : Alike (compound first) (compound second) := by
  have scaledUp := multiplyScale_alike 3 (multiplyScale_alike 2 alike)
  unfold compound
  dsimp only
  rw [← mergeAll_enough (Nat.le_max_left _ (multiplyScale 3 (multiplyScale 2 second)).length),
    ← mergeAll_enough (Nat.le_max_right (multiplyScale 3 (multiplyScale 2 first)).length _)]
  exact mergeAll_alike _ scaledUp

theorem joinPoints_alike (alike : Alike first second) : Alike (joinPoints first) (joinPoints second) :=
  blind_spacedPoint.replace_alike alike

theorem replaceNumbers_alike (alike : Alike first second) : Alike (replaceNumbers first) (replaceNumbers second) :=
  joinPoints_alike (compound_alike (replaceNumberWords_alike alike))

theorem parenthesizePowers_alike (alike : Alike first second) :
    Alike (parenthesizePowers first) (parenthesizePowers second) := by
  have squares := (@blind_raisedTo '2' (by decide) (parenthesizePower · ['2'])).replace_alike alike
  have cubes := (@blind_raisedTo '3' (by decide) (parenthesizePower · ['3'])).replace_alike squares
  exact blind_barePower.replace_alike cubes

theorem foldl_writeCalls_alike (functions : List Function) (alike : Alike first second) :
    Alike (functions.foldl writeCalls first) (functions.foldl writeCalls second) := by
  induction functions generalizing first second with
  | nil => exact alike
  | cons function functions ih =>
    exact ih ((blind_bareCall function).replace_alike ((blind_parenthesizedCall function).replace_alike alike))

theorem writeProducts_alike (alike : Alike first second) : Alike (writeProducts first) (writeProducts second) :=
  blind_closeBeforeDigit.replace_alike
    (blind_factorBeforeOpen.replace_alike (blind_factorBeforeFunction.replace_alike alike))

theorem explicit_alike (alike : Alike first second) : Alike (explicit first) (explicit second) :=
  writeProducts_alike (foldl_writeCalls_alike Function.all (parenthesizePowers_alike alike))

theorem clean_alike (alike : Alike first second) : clean first = clean second := by
  have cleaned (text : List Char) : clean text =
      (fun single => strip (dropTrailingEquals (repeatedOperator.replace (fun operator => [operator])
        (strip (tighten single))))) (squeeze text) := rfl
  rw [cleaned, cleaned, alike]

end Passes

section Refusals

variable {first second : List Char}

theorem scaleOverlong?_alike (zeros : Nat) (alike : Alike first second) :
    scaleOverlong? zeros first = scaleOverlong? zeros second :=
  (@blind_scaled zeros fun group => group).complaint?_alike (fun _ => rfl) alike

theorem neighbours_complaint_alike (alike : Alike first second) :
    neighbours.complaint? Neighbours.overlong? first = neighbours.complaint? Neighbours.overlong? second :=
  blind_neighbours.complaint?_alike Neighbours.overlong?_narrow alike

theorem mergeOverlong?_settled {text : List Char} (same : mergeOnce text = text)
    (quiet : neighbours.complaint? Neighbours.overlong? text = none) (rounds : Nat) :
    mergeOverlong? rounds text = none := by
  cases rounds with
  | zero => rfl
  | succ rounds =>
    rw [mergeOverlong?, quiet]
    simp [same]

theorem mergeOverlong?_alike (rounds : Nat) (alike : Alike first second) :
    mergeOverlong? rounds first = mergeOverlong? rounds second := by
  induction rounds generalizing first second with
  | zero => rfl
  | succ rounds ih =>
    have complaints := neighbours_complaint_alike alike
    have later := ih (mergeOnce_alike alike)
    rw [mergeOverlong?, mergeOverlong?, complaints]
    cases quiet : neighbours.complaint? Neighbours.overlong? second with
    | some overlong => rfl
    | none =>
      rw [quiet] at complaints
      -- Where merging stops for one of the texts only, the other one is not refused later either.
      by_cases one : mergeOnce first = first
      next =>
        rw [one, mergeOverlong?_settled one complaints] at later
        simp [one, ← later]
      next =>
        by_cases two : mergeOnce second = second
        next =>
          rw [two, mergeOverlong?_settled two quiet] at later
          simp [two, later]
        next => simp [one, two, later]

theorem mergeOverlong?_enough {rounds : Nat} {text : List Char} (enough : text.length <= rounds) :
    mergeOverlong? rounds text = mergeOverlong? text.length text := by
  generalize bound : text.length = size at enough ⊢
  induction size using Nat.strongRecOn generalizing text rounds with
  | ind size ih =>
    subst bound
    cases text with
    | nil => rw [mergeOverlong?_settled rfl rfl, mergeOverlong?_settled rfl rfl]
    | cons c text =>
      obtain ⟨rounds, rfl⟩ : exists others, rounds = others + 1 := ⟨rounds - 1, by simp at enough; omega⟩
      rw [List.length_cons, mergeOverlong?, mergeOverlong?]
      rcases mergeOnce_shortens (c :: text) with same | shorter
      next => simp [same]
      next =>
        rw [List.length_cons] at shorter enough
        rw [@ih _ shorter rounds _ rfl (by omega), @ih _ shorter text.length _ rfl (by omega)]

theorem compoundOverlong?_alike (alike : Alike first second) : compoundOverlong? first = compoundOverlong? second := by
  have hundreds := multiplyScale_alike 2 alike
  have thousands := multiplyScale_alike 3 hundreds
  unfold compoundOverlong?
  dsimp only
  rw [scaleOverlong?_alike 2 alike, scaleOverlong?_alike 3 hundreds,
    ← mergeOverlong?_enough (Nat.le_max_left _ (multiplyScale 3 (multiplyScale 2 second)).length),
    ← mergeOverlong?_enough (Nat.le_max_right (multiplyScale 3 (multiplyScale 2 first)).length _),
    mergeOverlong?_alike _ thousands]

end Refusals

theorem normalize_of_alike {wholeWords : Bool} {first second : String}
    (alike : Alike (symbols wholeWords first.toList) (symbols wholeWords second.toList)) :
    normalize first wholeWords = normalize second wholeWords := by
  have numbers := replaceNumbers_alike alike
  unfold normalize overlong? expression structureSpecialCases
  dsimp only
  rw [compoundOverlong?_alike (replaceNumberWords_alike alike), compoundOverlong?_alike (explicit_alike numbers),
    clean_alike (compound_alike (explicit_alike numbers))]

end SpokenArithmetic.Phrase

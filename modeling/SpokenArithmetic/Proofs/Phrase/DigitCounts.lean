import SpokenArithmetic.Phrase.Normalize
import SpokenArithmetic.Proofs.Phrase.Items
import SpokenArithmetic.Proofs.Phrase.Structured

set_option autoImplicit false

namespace SpokenArithmetic.Phrase

open Number Text Token

theorem replaceAll_count {counted : Char -> Bool} {pattern : List Char -> Pattern Unit}
    (finds : forall phrase, Finds (pattern phrase) phrase) {table : List Lexicon.Entry}
    (entries : forall entry, entry ∈ table ->
      entry.1.toList ≠ [] ∧ entry.2.toList.countP counted <= entry.1.toList.countP counted)
    (text : List Char) : (table.foldl (replacePhrase pattern) text).countP counted <= text.countP counted := by
  induction table generalizing text with
  | nil => exact Nat.le_refl _
  | cons entry table ih =>
    obtain ⟨present, fewer⟩ := entries entry List.mem_cons_self
    have spares : (pattern entry.1.toList).Spares (fun _ => entry.2.toList) counted :=
      fun before text found behind matched =>
        ⟨_, present, (finds entry.1.toList).sound before text found behind matched, fewer⟩
    have later := ih (fun other member => entries other (List.mem_cons_of_mem _ member))
      (replacePhrase pattern text entry)
    exact Nat.le_trans later (Pattern.replace_spares spares text)

section Words

def solidCount (text : List Char) : Nat :=
  text.countP (!isSpace ·)

theorem digitCount_solid (text : List Char) : digitCount text <= solidCount text :=
  List.countP_mono_left fun c _ digit => by simp [not_space_of_isDigit digit]

theorem strip_sublist (text : List Char) : (strip text).Sublist text := by
  have ends (text : List Char) : (stripEnd text).Sublist text := by
    have reversed := (List.dropWhile_sublist isBlank (l := text.reverse)).reverse
    rwa [List.reverse_reverse] at reversed
  exact (ends _).trans (List.dropWhile_sublist isBlank)

theorem solidCount_words (wholeWords : Bool) (phrase : List Char) :
    solidCount (replaceNumberWords (symbols wholeWords phrase)) <= solidCount (lower phrase) := by
  have stripped : solidCount (strip (lower phrase)) <= solidCount (lower phrase) :=
    (strip_sublist (lower phrase)).countP_le
  have cleaned : solidCount (cleanup wholeWords (strip (lower phrase))) <= solidCount (strip (lower phrase)) := by
    apply replaceAll_count
    next => cases wholeWords <;> simp [finds_asWords, finds_literally]
    next => decide
  have signed : solidCount (symbols wholeWords phrase) <= solidCount (cleanup wholeWords (strip (lower phrase))) :=
    replaceAll_count finds_asWords (by decide +kernel) _
  have numbered :
      solidCount (replaceNumberWords (symbols wholeWords phrase)) <= solidCount (symbols wholeWords phrase) :=
    replaceAll_count finds_asWords (by decide +kernel) _
  omega

end Words

section Structuring

theorem skipSpace_parts {text rest : List Char} (skipped : skipSpace text = rest) :
    exists spaces, text = spaces ++ rest ∧ digitCount spaces = 0 := by
  obtain ⟨parts, all, _⟩ := (@span_iff isSpace text _ rest).1 ⟨rfl, skipped⟩
  refine ⟨_, parts, List.countP_eq_zero.2 fun c member => ?_⟩
  simp [(space_cases (all c member)).1]

theorem numeral?_parts {text numeral behind : List Char} (read : numeral? text = some (numeral, behind)) :
    text = numeral ++ behind ∧ numeral ≠ [] := by
  obtain ⟨same, starts, _⟩ := numeral?_eq_some.1 read
  refine ⟨same, ?_⟩
  rintro rfl
  cases starts

theorem after?_skipSpace {start text behind : List Char} (passed : after? start (skipSpace text) = some behind) :
    exists spaces, text = spaces ++ (start ++ behind) ∧ digitCount spaces = 0 :=
  skipSpace_parts (after?_eq_some.1 passed)

theorem spares_raisedTo (exponent : Char) : (raisedTo exponent).Spares (parenthesizePower · [exponent]) isDigit := by
  intro before text base behind matched
  unfold raisedTo Pattern.unlessBehind at matched
  split at matched
  next => cases matched
  next =>
    obtain ⟨⟨numeral, rest⟩, read, matched⟩ := Option.bind_eq_some_iff.1 matched
    obtain ⟨last, passed, matched⟩ := Option.bind_eq_some_iff.1 matched
    split at matched
    next => cases matched
    next =>
      obtain ⟨rfl, rfl⟩ := Prod.mk.inj (Option.some.inj matched)
      obtain ⟨rfl, present⟩ := numeral?_parts read
      obtain ⟨spaces, rfl, none⟩ := after?_skipSpace passed
      refine ⟨numeral ++ (spaces ++ ['^', exponent]), by simp [present], by simp, ?_⟩
      have marks : isDigit '(' = false ∧ isDigit ')' = false := by decide
      simp only [digitCount] at none
      simp [parenthesizePower, List.countP_append, List.countP_cons, marks, none]

theorem spares_barePower : barePower.Spares (fun power => parenthesizePower power.1 power.2) isDigit := by
  intro before text power behind matched
  unfold barePower Pattern.unlessBehind at matched
  split at matched
  next => cases matched
  next =>
    obtain ⟨⟨numeral, rest⟩, read, matched⟩ := Option.bind_eq_some_iff.1 matched
    obtain ⟨last, passed, matched⟩ := Option.bind_eq_some_iff.1 matched
    obtain ⟨⟨exponent, left⟩, raised, matched⟩ := Option.bind_eq_some_iff.1 matched
    dsimp only at passed matched
    split at matched
    next => cases matched
    next =>
      obtain ⟨rfl, rfl⟩ := Prod.mk.inj (Option.some.inj matched)
      obtain ⟨rfl, present⟩ := numeral?_parts read
      obtain ⟨spaces, rfl, none⟩ := after?_skipSpace passed
      obtain ⟨gap, rfl, noGap⟩ := skipSpace_parts (numeral?_parts raised).1
      refine ⟨numeral ++ (spaces ++ '^' :: (gap ++ exponent)), by simp [present], by simp, ?_⟩
      have marks : isDigit '(' = false ∧ isDigit ')' = false := by decide
      simp only [digitCount] at none noGap
      simp [parenthesizePower, List.countP_append, List.countP_cons, marks, none, noGap]

theorem functionName_parts {function : Function} {before : Option Char} {text behind : List Char} {found : Unit}
    (matched : functionName function before text = some (found, behind)) :
    text = function.name.toList ++ behind := by
  unfold functionName Pattern.unlessBehind at matched
  split at matched
  next => cases matched
  next => exact (finds_literally function.name.toList).sound before text found behind matched

theorem signedNumeral?_parts {text argument behind : List Char}
    (read : signedNumeral? text = some (argument, behind)) :
    exists shown, text = shown ++ behind ∧ digitCount argument <= digitCount shown := by
  unfold signedNumeral? at read
  split at read
  next rest =>
    obtain ⟨⟨numeral, left⟩, numeralRead, same⟩ := Option.map_eq_some_iff.1 read
    obtain ⟨rfl, rfl⟩ := Prod.mk.inj same
    obtain ⟨spaces, rfl, _⟩ := skipSpace_parts (numeral?_parts numeralRead).1
    refine ⟨'-' :: (spaces ++ numeral), by simp, ?_⟩
    simp [digitCount, List.countP_cons]
  next => exact ⟨argument, (numeral?_parts read).1, Nat.le_refl _⟩

theorem spares_parenthesizedCall (function : Function) :
    (parenthesizedCall function).Spares (writtenCall function) isDigit := by
  intro before text argument behind matched
  obtain ⟨⟨found, rest⟩, named, matched⟩ := Option.bind_eq_some_iff.1 matched
  obtain ⟨opened, passed, matched⟩ := Option.bind_eq_some_iff.1 matched
  obtain ⟨⟨argument, left⟩, read, matched⟩ := Option.bind_eq_some_iff.1 matched
  obtain ⟨last, closed, matched⟩ := Option.bind_eq_some_iff.1 matched
  obtain ⟨rfl, rfl⟩ := Prod.mk.inj (Option.some.inj matched)
  obtain ⟨spaces, rfl, none⟩ := after?_skipSpace passed
  obtain ⟨tail, rfl, noTail⟩ := after?_skipSpace closed
  obtain ⟨shown, parts, fewer⟩ := signedNumeral?_parts read
  obtain ⟨gap, rfl, noGap⟩ := skipSpace_parts parts
  rw [functionName_parts named]
  refine ⟨function.name.toList ++ (spaces ++ '(' :: (gap ++ (shown ++ (tail ++ [')'])))),
    by simp, by simp, ?_⟩
  simp only [digitCount] at none noGap noTail fewer
  simp only [writtenCall, List.countP_append, List.countP_cons, List.countP_nil, none, noGap, noTail]
  omega

theorem spares_bareCall (function : Function) :
    (bareCall function).Spares (writtenCall function) isDigit := by
  intro before text argument behind matched
  obtain ⟨⟨found, rest⟩, named, matched⟩ := Option.bind_eq_some_iff.1 matched
  obtain ⟨next, gapFound, read⟩ := Option.bind_eq_some_iff.1 matched
  obtain ⟨gap, rfl, isGap, _⟩ := gap?_eq_some.1 gapFound
  obtain ⟨shown, rfl, fewer⟩ := signedNumeral?_parts read
  rw [functionName_parts named]
  refine ⟨function.name.toList ++ (gap ++ shown), by simp [isGap.1], by simp, ?_⟩
  have marks : isDigit '(' = false ∧ isDigit ')' = false := by decide
  simp only [digitCount] at fewer
  simp only [writtenCall, List.countP_append, List.countP_cons, List.countP_nil, marks, Bool.false_eq_true, if_false]
  omega

theorem spares_factorBeforeFunction :
    factorBeforeFunction.Spares (fun found => found.1 :: '*' :: found.2.name.toList) isDigit := by
  intro before text found behind matched
  cases text with
  | nil => cases matched
  | cons factor rest =>
    obtain ⟨⟨function, last⟩, named, matched⟩ := Option.bind_eq_some_iff.1 matched
    obtain ⟨other, _, whole⟩ := List.exists_of_findSome?_eq_some named
    obtain ⟨tail, passed, whole⟩ := Option.bind_eq_some_iff.1 whole
    dsimp only at matched
    split at whole
    next => cases whole
    next =>
      obtain ⟨rfl, rfl⟩ := Prod.mk.inj (Option.some.inj whole)
      split at matched
      next =>
        obtain ⟨rfl, rfl⟩ := Prod.mk.inj (Option.some.inj matched)
        obtain ⟨spaces, rfl, none⟩ := after?_skipSpace passed
        refine ⟨factor :: (spaces ++ other.name.toList), by simp, by simp, ?_⟩
        have mark : isDigit '*' = false := by decide
        simp [List.countP_append, List.countP_cons, mark]
      next => cases matched

theorem spares_factorBeforeOpen : factorBeforeOpen.Spares (fun factor => [factor, '*', '(']) isDigit := by
  intro before text found behind matched
  cases text with
  | nil => cases matched
  | cons factor rest =>
    obtain ⟨last, passed, matched⟩ := Option.bind_eq_some_iff.1 matched
    split at matched
    next =>
      obtain ⟨rfl, rfl⟩ := Prod.mk.inj (Option.some.inj matched)
      obtain ⟨spaces, rfl, _⟩ := after?_skipSpace passed
      refine ⟨factor :: (spaces ++ ['(']), by simp, by simp, ?_⟩
      have marks : isDigit '*' = false ∧ isDigit '(' = false := by decide
      simp [List.countP_cons, marks]
    next => cases matched

theorem spares_closeBeforeDigit : closeBeforeDigit.Spares (fun digit => [')', '*', digit]) isDigit := by
  intro before text found behind matched
  unfold closeBeforeDigit at matched
  split at matched
  next rest =>
    split at matched
    next digit last parts =>
      split at matched
      next =>
        obtain ⟨rfl, rfl⟩ := Prod.mk.inj (Option.some.inj matched)
        obtain ⟨spaces, rfl, _⟩ := skipSpace_parts parts
        refine ⟨')' :: (spaces ++ [digit]), by simp, by simp, ?_⟩
        have marks : isDigit '*' = false ∧ isDigit ')' = false := by decide
        simp [List.countP_append, List.countP_cons, marks]
      next => cases matched
    next => cases matched
  next => cases matched

theorem spares_spacedPoint : spacedPoint.Spares (fun ends => [ends.1, '.', ends.2]) isDigit := by
  intro before text found behind matched
  unfold spacedPoint at matched
  split at matched
  next => cases matched
  next first rest =>
    split at matched
    next left point =>
      split at matched
      next last tail parts =>
        split at matched
        next =>
          obtain ⟨rfl, rfl⟩ := Prod.mk.inj (Option.some.inj matched)
          obtain ⟨gap, rfl, _⟩ := skipSpace_parts parts
          obtain ⟨spaces, rfl, _⟩ := skipSpace_parts point
          refine ⟨first :: (spaces ++ '.' :: (gap ++ [last])), by simp, by simp, ?_⟩
          have mark : isDigit '.' = false := by decide
          simp only [List.countP_append, List.countP_cons, List.countP_nil, mark]
          omega
        next => cases matched
      next => cases matched
    next => cases matched

theorem digitCount_explicit (text : List Char) : digitCount (explicit text) <= digitCount text := by
  have squares := Pattern.replace_spares (spares_raisedTo '2') text
  have cubes := Pattern.replace_spares (spares_raisedTo '3')
    ((raisedTo '2').replace (parenthesizePower · ['2']) text)
  have powers := Pattern.replace_spares spares_barePower
    ((raisedTo '3').replace (parenthesizePower · ['3']) ((raisedTo '2').replace (parenthesizePower · ['2']) text))
  have calls (functions : List Function) (text : List Char) :
      digitCount (functions.foldl writeCalls text) <= digitCount text := by
    induction functions generalizing text with
    | nil => exact Nat.le_refl _
    | cons function functions ih =>
      have parenthesized := Pattern.replace_spares (spares_parenthesizedCall function) text
      have bare := Pattern.replace_spares (spares_bareCall function)
        ((parenthesizedCall function).replace (writtenCall function) text)
      exact Nat.le_trans (ih (writeCalls text function)) (Nat.le_trans bare parenthesized)
  have products (text : List Char) : digitCount (writeProducts text) <= digitCount text :=
    Nat.le_trans (Pattern.replace_spares spares_closeBeforeDigit _)
      (Nat.le_trans (Pattern.replace_spares spares_factorBeforeOpen _)
        (Pattern.replace_spares spares_factorBeforeFunction text))
  exact Nat.le_trans (products _) (Nat.le_trans (calls _ _) (Nat.le_trans powers (Nat.le_trans cubes squares)))

end Structuring

theorem digitCount_compounded (wholeWords : Bool) (phrase : List Char) :
    digitCount (replaceNumberWords (symbols wholeWords phrase)) <= solidCount (lower phrase) ∧
      digitCount (explicit (replaceNumbers (symbols wholeWords phrase))) <= solidCount (lower phrase) := by
  have words : digitCount (replaceNumberWords (symbols wholeWords phrase)) <= solidCount (lower phrase) :=
    Nat.le_trans (digitCount_solid _) (solidCount_words wholeWords phrase)
  have compounded := digitCount_compound (replaceNumberWords (symbols wholeWords phrase))
  have joined : digitCount (replaceNumbers (symbols wholeWords phrase)) <=
      digitCount (compound (replaceNumberWords (symbols wholeWords phrase))) :=
    Pattern.replace_spares spares_spacedPoint _
  have structured := digitCount_explicit (replaceNumbers (symbols wholeWords phrase))
  exact ⟨words, by omega⟩

end SpokenArithmetic.Phrase

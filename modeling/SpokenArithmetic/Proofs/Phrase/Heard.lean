import Mathlib.Data.List.Forall2
import SpokenArithmetic.Proofs.Lexing.Alphabet
import SpokenArithmetic.Proofs.Phrase.Vocabulary

set_option autoImplicit false

namespace SpokenArithmetic.Phrase

open Number Text

section Items

def transcribe (item : List Char) : List Char :=
  translate Lexicon.numbersLongestFirst (translate spokenOperators (translate Lexicon.cleanupPhrases item))

structure Heard (item result : List Char) : Prop where
  unpadded : Unpadded item
  cleans : Cleans Lexicon.cleanupPhrases item
  operators : Translates spokenOperators (translate Lexicon.cleanupPhrases item)
  numbers : Translates Lexicon.numbersLongestFirst (translate spokenOperators (translate Lexicon.cleanupPhrases item))
  result : transcribe item = result

instance (item result : List Char) : Decidable (Heard item result) :=
  decidable_of_iff (Unpadded item ∧ Cleans Lexicon.cleanupPhrases item ∧
    Translates spokenOperators (translate Lexicon.cleanupPhrases item) ∧
    Translates Lexicon.numbersLongestFirst (translate spokenOperators (translate Lexicon.cleanupPhrases item)) ∧
    transcribe item = result)
    ⟨fun ⟨unpadded, cleans, operators, numbers, result⟩ => ⟨unpadded, cleans, operators, numbers, result⟩,
    fun ⟨unpadded, cleans, operators, numbers, result⟩ => ⟨unpadded, cleans, operators, numbers, result⟩⟩

theorem strip_spaced {items : List (List Char)} (unpadded : forall item, item ∈ items -> Unpadded item) :
    strip (spaced items) = spaced items := by
  by_cases empty : items = []
  next =>
    subst empty
    rfl
  next =>
    apply strip_of_ends
    next =>
      obtain ⟨item, rest, rfl⟩ := List.exists_cons_of_ne_nil empty
      have starts := (unpadded item List.mem_cons_self).1
      cases item with
      | nil => cases starts
      | cons c item =>
        have noBlank : isBlank c = false := by simpa using starts
        exact noBlank
    next =>
      obtain ⟨front, last, rfl⟩ : exists front last, items = front ++ [last] :=
        ⟨items.dropLast, items.getLast empty, (List.dropLast_concat_getLast empty).symm⟩
      obtain ⟨before, parts⟩ : exists before, spaced (front ++ [last]) = before ++ last := by
        cases front with
        | nil => exact ⟨[], by simp [spaced, following]⟩
        | cons item front => exact ⟨spaced (item :: front) ++ [' '], by simp [spaced, following]⟩
      have ends := (unpadded last (by simp)).2
      rw [parts, List.getLast?_append]
      cases same : last.getLast? with
      | none => simp [same] at ends
      | some c => simpa [same] using ends

theorem heard_items {items results : List (List Char)} (heard : List.Forall₂ Heard items results)
    {phrase : List Char} (spoken : lower phrase = spaced items) (wholeWords : Bool) :
    replaceNumberWords (symbols wholeWords phrase) = spaced results := by
  have each : forall item, item ∈ items -> exists result, Heard item result := by
    clear spoken
    intro item member
    induction heard with
    | nil => cases member
    | cons first _ ih =>
      rcases List.mem_cons.1 member with rfl | later
      next => exact ⟨_, first⟩
      next => exact ih later
  have all : items.map transcribe = results := by
    clear each spoken
    induction heard with
    | nil => rfl
    | cons first _ ih => rw [List.map_cons, first.result, ih]
  have stripped : strip (spaced items) = spaced items := by
    apply strip_spaced
    intro item member
    exact (each item member).choose_spec.unpadded
  have cleaned := @cleanup_items items wholeWords fun item member => (each item member).choose_spec.cleans
  have replaced := @foldl_replacePhrase spokenOperators (items.map (translate Lexicon.cleanupPhrases)) (by
    intro item member
    obtain ⟨given, inItems, rfl⟩ := List.mem_map.1 member
    exact (each given inItems).choose_spec.operators)
  have counted := @foldl_replacePhrase Lexicon.numbersLongestFirst
    ((items.map (translate Lexicon.cleanupPhrases)).map (translate spokenOperators)) (by
    intro item member
    rw [List.map_map] at member
    obtain ⟨given, inItems, rfl⟩ := List.mem_map.1 member
    exact (each given inItems).choose_spec.numbers)
  have tables : ((items.map (translate Lexicon.cleanupPhrases)).map (translate spokenOperators)).map
      (translate Lexicon.numbersLongestFirst) = items.map transcribe := by
    simp only [List.map_map, Function.comp_def]
    rfl
  rw [symbols, spoken, stripped, cleaned, replaceOperators, ← spokenOperators, replaced, replaceNumberWords, counted,
    tables, all]

end Items

section Words

theorem heard_translated {item symbol digits : List Char} (translated : Translated item symbol digits) :
    Heard item digits := by
  have kept : Cleans Lexicon.cleanupPhrases item ∧ translate Lexicon.cleanupPhrases item = item := by
    apply cleans_of_clear
    next => exact fun entry inTable => clear_of_absent (translated.noFiller entry inTable)
    next =>
      exact fun entry inTable same =>
        translated.noFiller entry inTable (same ▸ (List.takeWhile_prefix _).isInfix)
  constructor
  case unpadded => exact translated.spoken.2
  case cleans => exact kept.1
  case operators => rw [kept.2]; exact translated.operators
  case numbers => rw [kept.2, translated.signs]; exact translated.numbers
  case result => rw [transcribe, kept.2, translated.signs]; exact translated.digits

theorem heard_numberWord {value : Nat} (member : value ∈ wordValues) : Heard (numberWord value) (toDigits value) :=
  heard_translated (translated_numberWord member)

theorem heard_numberWords {values : List Nat} (words : forall value, value ∈ values -> value ∈ wordValues) :
    List.Forall₂ Heard (values.map numberWord) (values.map toDigits) := by
  rw [List.forall₂_map_left_iff, List.forall₂_map_right_iff, List.forall₂_same]
  exact fun value member => heard_numberWord (words value member)

theorem heard_sign {entry : Lexicon.Entry} (member : entry ∈ signPhrases) :
    Heard entry.1.toList (' ' :: entry.2.toList ++ [' ']) :=
  heard_translated (translated_sign member)

theorem heard_unlettered {item : List Char} (unpadded : Unpadded item)
    (noLetter : forall c, c ∈ item -> c.isAlpha = false) :
    Heard item item := by
  have fillers : Lettered Lexicon.cleanupPhrases := by decide
  have operators : Lettered spokenOperators := by decide +kernel
  have numbers : Lettered Lexicon.numbersLongestFirst := by decide +kernel
  have kept := cleans_unlettered fillers noLetter
  have first := translates_unlettered operators noLetter
  have second := translates_unlettered numbers noLetter
  constructor
  case unpadded => exact unpadded
  case cleans => exact kept.1
  case operators => rw [kept.2]; exact first.1
  case numbers => rw [kept.2, first.2]; exact second.1
  case result => rw [transcribe, kept.2, first.2, second.2]

end Words

section Numerals

inductive TypedNumeral : List Char -> Prop where
  | whole {digits : List Char} (present : digits ≠ []) (all : forall c, c ∈ digits -> c.isDigit = true) :
    TypedNumeral digits
  | pointed {whole fraction : List Char} (wholePresent : whole ≠ []) (fractionPresent : fraction ≠ [])
    (all : forall c, c ∈ whole ++ fraction -> c.isDigit = true) : TypedNumeral (whole ++ '.' :: fraction)

variable {text : List Char}

theorem isDigits_ascii {digits : List Char} (present : digits ≠ [])
    (all : forall c, c ∈ digits -> c.isDigit = true) : IsDigits digits :=
  ⟨present, fun c member => isDigit_of_asciiDigit (all c member)⟩

theorem TypedNumeral.chars (typed : TypedNumeral text) : forall c, c ∈ text -> c.isDigit = true ∨ c = '.' := by
  intro c member
  cases typed with
  | whole _ all => exact .inl (all c member)
  | @pointed whole fraction _ _ all =>
    simp only [List.mem_append, List.mem_cons] at member all
    rcases member with inWhole | point | inFraction
    next => exact .inl (all c (.inl inWhole))
    next => exact .inr point
    next => exact .inl (all c (.inr inFraction))

theorem TypedNumeral.numeric (typed : TypedNumeral text) : Numeric text where
  chars c member := by
    rcases typed.chars c member with digit | rfl
    next => simp [isDigitOrPoint, isDigit_of_asciiDigit digit]
    next => decide
  starts := by
    cases typed with
    | whole present all => exact (numeric_digits (isDigits_ascii present all)).starts
    | pointed wholePresent _ all =>
      exact (isDigits_ascii wholePresent fun c member => all c (List.mem_append_left _ member)).head _
  ends := by
    cases typed with
    | whole present all => exact (numeric_digits (isDigits_ascii present all)).ends
    | @pointed whole fraction _ fractionPresent all =>
      have isDigits := isDigits_ascii fractionPresent fun c member => all c (List.mem_append_right whole member)
      have last := @getLast?_append_digits (whole ++ ['.']) fraction isDigits
      rwa [List.append_assoc, List.singleton_append] at last

theorem Numeric.unpadded (numeric : Numeric text) : Unpadded text :=
  ⟨any_imp (fun _ digit => by simp [digit_not_blank digit]) numeric.starts,
    any_imp (fun _ digit => by simp [digit_not_blank digit]) numeric.ends⟩

theorem TypedNumeral.heard (typed : TypedNumeral text) : Heard text text := by
  apply heard_unlettered typed.numeric.unpadded
  intro c member
  rcases typed.chars c member with digit | rfl
  next =>
    simp only [Char.isDigit, Bool.and_eq_true, decide_eq_true_eq, ge_iff_le, UInt32.le_iff_toNat_le,
      Char.reduceVal, UInt32.reduceToNat] at digit
    delta Char.isAlpha Char.isUpper Char.isLower
    simp only [Bool.or_eq_false_iff, Bool.and_eq_false_iff, decide_eq_false_iff_not, ge_iff_le,
      UInt32.le_iff_toNat_le, Char.reduceVal, UInt32.reduceToNat]
    omega
  next => decide

end Numerals

end SpokenArithmetic.Phrase

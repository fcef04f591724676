import SpokenArithmetic.Phrase.Normalize
import SpokenArithmetic.Proofs.Phrase.Tidied

set_option autoImplicit false

namespace SpokenArithmetic.Phrase

open Number Text

def wordValues : List Nat :=
  List.range 21 ++ [30, 40, 50, 60, 70, 80, 90, 100, 1000]

def numberWord (value : Nat) : List Char :=
  match Lexicon.numberWords.find? fun entry => entry.2.toList == toDigits value with
  | some entry => entry.1.toList
  | none => []

def signPhrases : List Lexicon.Entry :=
  Lexicon.operatorWords.filter fun entry => ["+", "-", "*", "/", "%"].contains entry.2

def spokenOperators : List Lexicon.Entry :=
  Lexicon.operatorsLongestFirst.map padded

def isLowerWord (c : Char) : Bool :=
  c.isLower || c == ' '

def Unpadded (item : List Char) : Prop :=
  item.head?.any (!isBlank ·) = true ∧ item.getLast?.any (!isBlank ·) = true

instance (item : List Char) : Decidable (Unpadded item) :=
  inferInstanceAs (Decidable (_ ∧ _))

def Spoken (item : List Char) : Prop :=
  (forall c, c ∈ item -> isLowerWord c = true) ∧ Unpadded item

instance (item : List Char) : Decidable (Spoken item) :=
  inferInstanceAs (Decidable (_ ∧ _))

structure Translated (item : List Char) (symbol digits : List Char) : Prop where
  spoken : Spoken item
  noFiller : forall entry, entry ∈ Lexicon.cleanupPhrases -> ¬entry.1.toList.takeWhile isWord <:+: item
  operators : Translates spokenOperators item
  signs : translate spokenOperators item = symbol
  numbers : Translates Lexicon.numbersLongestFirst symbol
  digits : translate Lexicon.numbersLongestFirst symbol = digits

instance (item symbol digits : List Char) : Decidable (Translated item symbol digits) :=
  decidable_of_iff (Spoken item ∧
    (forall entry, entry ∈ Lexicon.cleanupPhrases -> ¬entry.1.toList.takeWhile isWord <:+: item) ∧ Translates spokenOperators item ∧
    translate spokenOperators item = symbol ∧ Translates Lexicon.numbersLongestFirst symbol ∧
    translate Lexicon.numbersLongestFirst symbol = digits)
    ⟨fun ⟨spoken, noFiller, operators, signs, numbers, digits⟩ =>
      ⟨spoken, noFiller, operators, signs, numbers, digits⟩,
    fun ⟨spoken, noFiller, operators, signs, numbers, digits⟩ =>
      ⟨spoken, noFiller, operators, signs, numbers, digits⟩⟩

theorem translated_numberWord {value : Nat} (member : value ∈ wordValues) :
    Translated (numberWord value) (numberWord value) (toDigits value) := by
  have all : forall value, value ∈ wordValues ->
      Translated (numberWord value) (numberWord value) (toDigits value) := by
    decide +kernel
  exact all value member

theorem length_wordDigits {value : Nat} (member : value ∈ wordValues) : (toDigits value).length <= 4 := by
  have small : value < 10 ^ 4 := by
    rcases List.mem_append.1 member with below | scale
    next =>
      have bound := List.mem_range.1 below
      omega
    next =>
      simp only [List.mem_cons, List.not_mem_nil, or_false] at scale
      omega
  exact (length_toDigits_le (by decide)).2 small

theorem translated_sign {entry : Lexicon.Entry} (member : entry ∈ signPhrases) :
    Translated entry.1.toList (' ' :: entry.2.toList ++ [' ']) (' ' :: entry.2.toList ++ [' ']) := by
  have all : forall entry, entry ∈ signPhrases ->
      Translated entry.1.toList (' ' :: entry.2.toList ++ [' ']) (' ' :: entry.2.toList ++ [' ']) := by
    decide +kernel
  exact all entry member

def signOf (entry : Lexicon.Entry) : Char :=
  entry.2.toList.headD ' '

theorem signs_of_phrase {entry : Lexicon.Entry} (member : entry ∈ signPhrases) :
    entry.2.toList = [signOf entry] ∧ Signs (signOf entry) := by
  have all : forall entry, entry ∈ signPhrases ->
      entry.2.toList = [signOf entry] ∧ signOf entry ∈ ['+', '-', '*', '/', '%'] := by
    decide +kernel
  obtain ⟨one, sign⟩ := all entry member
  exact ⟨one, signs_of_mem sign⟩

end SpokenArithmetic.Phrase

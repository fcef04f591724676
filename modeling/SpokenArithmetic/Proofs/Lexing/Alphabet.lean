import SpokenArithmetic.Expression.CallForm
import SpokenArithmetic.Expression.Token

set_option autoImplicit false

namespace SpokenArithmetic

open Text

-- What is said of the characters of a list is decided along the list, not over all characters there are.
instance decidableAmong (characters : List Char) (holds : Char -> Prop) [DecidablePred holds] :
    Decidable (forall c, c ∈ characters -> holds c) :=
  List.decidableBAll holds characters

namespace Text

def spaceChars : List Char :=
  ([0x9, 0xA, 0xB, 0xC, 0xD, 0x20, 0x85, 0xA0, 0x1680, 0x2000, 0x2001, 0x2002, 0x2003, 0x2004,
    0x2005, 0x2006, 0x2007, 0x2008, 0x2009, 0x200A, 0x2028, 0x2029, 0x202F, 0x205F, 0x3000]).map
      Char.ofNat

theorem mem_spaceChars {c : Char} (space : isSpace c = true) : c ∈ spaceChars := by
  have point : c = Char.ofNat c.toNat := (Char.ofNat_toNat c).symm
  rw [point, spaceChars]
  refine List.mem_map_of_mem ?_
  simp only [isSpace, Property.holds, Property.space, List.any_cons, List.any_nil,
    Bool.or_eq_true, Bool.and_eq_true, decide_eq_true_eq, Bool.or_false] at space
  simp only [List.mem_cons, List.not_mem_nil, or_false]
  omega

def separators : List Char :=
  [0x1C, 0x1D, 0x1E, 0x1F].map Char.ofNat

theorem blank_cases {c : Char} (blank : isBlank c = true) : isSpace c = true ∨ c ∈ separators := by
  rcases Bool.or_eq_true_iff.1 blank with space | code
  next => exact .inl space
  next =>
    have point : c = Char.ofNat c.toNat := (Char.ofNat_toNat c).symm
    rw [point, separators]
    refine .inr (List.mem_map_of_mem ?_)
    simp only [Bool.and_eq_true, decide_eq_true_eq] at code
    simp only [List.mem_cons, List.not_mem_nil, or_false]
    omega

def digitsAmongWords (first : Nat) : Bool :=
  first + 9 < 0x80 || Property.word.any fun range => range.1 <= first && first + 9 <= range.2

theorem digitZeros_amongWords : Property.digitZeros.all digitsAmongWords = true := by
  decide +kernel

theorem isWord_of_isDigit {c : Char} (digit : isDigit c = true) : isWord c = true := by
  unfold isDigit digitValue? at digit
  unfold isWord
  split at digit
  next ascii =>
    rw [if_pos ascii]
    split at digit
    next found => simp [Char.isAlphanum, found]
    next => cases digit
  next beyond =>
    rw [if_neg beyond]
    rw [Option.isSome_map, List.find?_isSome] at digit
    obtain ⟨first, member, within⟩ := digit
    have among := List.all_eq_true.1 digitZeros_amongWords first member
    simp only [digitsAmongWords, Bool.and_eq_true, Bool.or_eq_true, decide_eq_true_eq] at within among
    rcases among with low | together
    next => omega
    next =>
      obtain ⟨range, known, bounds⟩ := List.any_eq_true.1 together
      simp only [Bool.and_eq_true, decide_eq_true_eq] at bounds
      refine List.any_eq_true.2 ⟨range, known, ?_⟩
      simp only [Bool.and_eq_true, decide_eq_true_eq]
      omega

end Text

namespace CallForm

def alphabet : List Char :=
  spaceChars ++ ((List.range 128).map Char.ofNat).filter isAllowed

theorem ascii_of_isAlphanum {c : Char} (letter : c.isAlphanum = true) : c.toNat < 128 := by
  delta Char.isAlphanum Char.isAlpha Char.isUpper Char.isLower Char.isDigit at letter
  simp only [Bool.or_eq_true, Bool.and_eq_true, decide_eq_true_eq, UInt32.le_iff_toNat_le, ge_iff_le,
    Char.reduceVal, UInt32.reduceToNat] at letter
  have point : c.toNat = c.val.toNat := rfl
  omega

theorem mem_alphabet {c : Char} (allowed : isAllowed c = true) : c ∈ alphabet := by
  by_cases space : isSpace c = true
  next => exact List.mem_append_left _ (mem_spaceChars space)
  next =>
    have ascii : c.toNat < 128 := by
      have cases := allowed
      simp only [isAllowed, Bool.or_eq_true, space] at cases
      rcases cases with (letter | none) | symbol
      next => exact ascii_of_isAlphanum letter
      next => cases none
      next =>
        have all : forall c, c ∈ "_.,()+-*/%^<>=".toList -> c.toNat < 128 := by decide
        exact all c (by simpa using symbol)
    refine List.mem_append_right _ (List.mem_filter.2 ⟨?_, allowed⟩)
    exact List.mem_map.2 ⟨c.toNat, List.mem_range.2 ascii, Char.ofNat_toNat c⟩

end CallForm

open CallForm Token

theorem isDigit_of_isAllowed {c : Char} (allowed : isAllowed c = true) : isDigit c = c.isDigit := by
  have all : forall c, c ∈ alphabet -> isDigit c = c.isDigit := by decide
  exact all c (mem_alphabet allowed)

theorem isAllowed_of_asciiDigit {c : Char} (digit : c.isDigit = true) : isAllowed c = true := by
  simp [isAllowed, Char.isAlphanum, digit]

theorem isDigit_of_asciiDigit {c : Char} (digit : c.isDigit = true) : isDigit c = true := by
  rw [isDigit_of_isAllowed (isAllowed_of_asciiDigit digit)]
  exact digit

theorem isWord_of_isAllowed {c : Char} (allowed : isAllowed c = true) : isWord c = isNamePart c := by
  have all : forall c, c ∈ alphabet -> isWord c = isNamePart c := by decide +kernel
  exact all c (mem_alphabet allowed)

theorem isBlank_of_isAllowed {c : Char} (allowed : isAllowed c = true) : isBlank c = isSpace c := by
  have all : forall c, c ∈ alphabet -> isBlank c = isSpace c := by decide
  exact all c (mem_alphabet allowed)

theorem isAllowed_of_isSpace {c : Char} (space : isSpace c = true) : isAllowed c = true := by
  simp [isAllowed, space]

theorem space_cases {c : Char} (space : isSpace c = true) :
    isDigit c = false ∧ isNamePart c = false ∧ c ∉ ['.', 'e', 'E', '+', '-', '^', '('] := by
  have all : forall c, c ∈ spaceChars ->
      isDigit c = false ∧ isNamePart c = false ∧ c ∉ ['.', 'e', 'E', '+', '-', '^', '('] := by
    decide
  exact all c (mem_spaceChars space)

theorem space_not_word {c : Char} (space : isSpace c = true) : isWord c = false := by
  rw [isWord_of_isAllowed (isAllowed_of_isSpace space)]
  exact (space_cases space).2.1

end SpokenArithmetic

import SpokenArithmetic.Number.Read
import SpokenArithmetic.Proofs.Lexing.Lexemes

set_option autoImplicit false

namespace SpokenArithmetic.Number

open Text Token

theorem separatedDigits?_digits {digits : List Char} (isDigits : IsDigits digits) :
    separatedDigits? digits = some digits := by
  have separator : isDigit '_' = false := by decide
  obtain ⟨present, all⟩ := isDigits
  induction digits using separatedDigits?.induct with
  | case1 => exact absurd rfl present
  | case2 c digit => rw [separatedDigits?, if_pos digit]
  | case3 c other => exact absurd (all c (by simp)) other
  | case4 c rest => simp [separator] at all
  | case5 c rest => simp [separator] at all
  | case6 c rest single _ digit ih =>
    have present : rest ≠ [] := single
    have others := ih present fun c member => all c (List.mem_cons_of_mem _ member)
    rw [separatedDigits?, if_pos digit, others]
    all_goals first | rfl | assumption
  | case7 c rest _ _ other => exact absurd (all c (by simp)) other

theorem optionalDigits?_digits {digits : List Char} (all : forall c, c ∈ digits -> isDigit c = true) :
    optionalDigits? digits = some digits := by
  unfold optionalDigits?
  split
  next none => rw [List.isEmpty_iff.1 none]
  next some => exact separatedDigits?_digits ⟨by simpa using some, all⟩

section Splitting

variable {mark : Char -> Bool} {front rest : List Char} {c : Char}

theorem splitAt?_unmarked (unmarked : forall c, c ∈ front -> mark c = false) :
    splitAt? mark front = (front, none) := by
  obtain ⟨_, left⟩ := (@span_iff (!mark ·) _ front []).2 ⟨rfl, by simpa using unmarked, rfl⟩
  rw [List.append_nil] at left
  rw [splitAt?, left]

theorem splitAt?_marked (marked : mark c = true) (unmarked : forall c, c ∈ front -> mark c = false) :
    splitAt? mark (front ++ c :: rest) = (front, some rest) := by
  obtain ⟨taken, left⟩ := (@span_iff (!mark ·) _ front (c :: rest)).2
    ⟨rfl, by simpa using unmarked, by simp [marked]⟩
  rw [splitAt?, left, taken]

end Splitting

def isPowerMark (c : Char) : Bool :=
  c == 'e' || c == 'E'

theorem isDigit_plain {c : Char} (digit : isDigit c = true) : isPowerMark c = false ∧ (c == '.') = false := by
  have others : forall c, c ∈ ['e', 'E', '.'] -> isDigit c = false := by decide
  constructor
  next =>
    cases same : isPowerMark c with
    | false => rfl
    | true =>
      have member : c ∈ ['e', 'E', '.'] := by
        rcases Bool.or_eq_true_iff.1 same with same | same <;> simp [beq_iff_eq.1 same]
      cases digit.symm.trans (others c member)
  next =>
    cases same : c == '.' with
    | false => rfl
    | true =>
      rw [beq_iff_eq.1 same] at digit
      cases digit.symm.trans (others '.' (by decide))

theorem splitSign_digits {digits : List Char} (isDigits : IsDigits digits) : splitSign digits = (false, digits) := by
  have first := isDigits.2
  have signs : isDigit '-' = false ∧ isDigit '+' = false := by decide
  unfold splitSign
  split
  next rest => simp [signs] at first
  next rest => simp [signs] at first
  next => rfl

theorem exponent?_power {power : List Char} (isPower : IsPowerOfTen power) :
    exists mark rest value, power = mark :: rest ∧ isPowerMark mark = true ∧ exponent? rest = some value := by
  cases isPower with
  | @unsigned mark digits isMark isDigits =>
    refine ⟨mark, digits, ofDigits digits, rfl, by simpa [isPowerMark] using isMark, ?_⟩
    simp [exponent?, splitSign_digits isDigits, separatedDigits?_digits isDigits]
  | @signed mark sign digits isMark isSign isDigits =>
    refine ⟨mark, sign :: digits, if sign = '-' then -(ofDigits digits : Int) else ofDigits digits, rfl,
      by simpa [isPowerMark] using isMark, ?_⟩
    simp only [List.mem_cons, List.not_mem_nil, or_false] at isSign
    rcases isSign with rfl | rfl <;> simp [exponent?, splitSign, separatedDigits?_digits isDigits]

theorem isPowerMark_mantissa {pointed : Bool} {mantissa : List Char} (isMantissa : IsMantissa pointed mantissa) :
    forall c, c ∈ mantissa -> isPowerMark c = false := by
  intro c member
  rcases isMantissa.chars c member with digit | rfl
  next => exact (isDigit_plain digit).1
  next => decide

theorem splitAt?_mantissa {pointed : Bool} {mantissa : List Char} (isMantissa : IsMantissa pointed mantissa) :
    exists whole fraction, splitAt? (· == '.') mantissa = (whole, fraction) ∧
      whole ++ fraction.getD [] ≠ [] ∧ forall c, c ∈ whole ++ fraction.getD [] -> isDigit c = true := by
  cases isMantissa with
  | whole isDigits =>
    refine ⟨mantissa, none, splitAt?_unmarked fun c member => (isDigit_plain (isDigits.2 c member)).2, ?_⟩
    rwa [Option.getD_none, List.append_nil]
  | @pointed whole fraction present all =>
    refine ⟨whole, some fraction, splitAt?_marked rfl ?_, present, all⟩
    exact fun c member => (isDigit_plain (all c (List.mem_append_left _ member))).2

theorem unsignedDecimal?_of_split {pointed : Bool} {literal mantissa : List Char} {power : Option (List Char)} {exponent : Int}
    (isMantissa : IsMantissa pointed mantissa) (split : splitAt? isPowerMark literal = (mantissa, power))
    (read : power.elim (some 0) exponent? = some exponent) : exists value, unsignedDecimal? literal = some value := by
  obtain ⟨whole, fraction, parts, present, all⟩ := splitAt?_mantissa isMantissa
  have wholeDigits := @optionalDigits?_digits whole fun c member => all c (List.mem_append_left _ member)
  have fractionDigits := @optionalDigits?_digits (fraction.getD []) fun c member => all c (List.mem_append_right _ member)
  have some : (whole ++ fraction.getD []).isEmpty = false := by simpa using present
  unfold isPowerMark at split
  simp only [unsignedDecimal?, split, parts, wholeDigits, fractionDigits, read, Option.bind_eq_bind,
    Option.bind_some, some]
  exact ⟨_, rfl⟩

theorem unsignedDecimal?_of_fits {literal rest : List Char} (fits : Fits (.numeral literal) rest) :
    exists value, unsignedDecimal? literal = some value := by
  cases fits with
  | plain isMantissa =>
    exact unsignedDecimal?_of_split isMantissa (splitAt?_unmarked (isPowerMark_mantissa isMantissa)) rfl
  | scaled isMantissa isPower =>
    obtain ⟨mark, digits, exponent, rfl, marked, read⟩ := exponent?_power isPower
    exact unsignedDecimal?_of_split isMantissa (splitAt?_marked marked (isPowerMark_mantissa isMantissa)) read

end SpokenArithmetic.Number

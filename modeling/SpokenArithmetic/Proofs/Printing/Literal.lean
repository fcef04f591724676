import SpokenArithmetic.Proofs.Arithmetic.Digits
import SpokenArithmetic.Proofs.Lexing.Literals
import SpokenArithmetic.Proofs.Printing.Unrewritten

set_option autoImplicit false

namespace SpokenArithmetic.Evaluation

open Arithmetic CallForm Grammar Number Text Token

structure AsciiDigits (digits : List Char) : Prop where
  present : digits ≠ []
  all : forall c, c ∈ digits -> c.isDigit = true

theorem AsciiDigits.isDigits {digits : List Char} (ascii : AsciiDigits digits) : IsDigits digits :=
  ⟨ascii.present, fun c member => isDigit_of_asciiDigit (ascii.all c member)⟩

theorem ascii_toDigits (n : Nat) : AsciiDigits (toDigits n) :=
  ⟨Nat.toDigits_ne_nil, fun _ member => toDigits_ascii member⟩

inductive Literal : (text : List Char) -> (mantissa : Nat) -> (exponent : Int) -> Prop where
  | whole {digits : List Char} (ascii : AsciiDigits digits) : Literal digits (ofDigits digits) 0
  | pointed {whole fraction : List Char} (first : AsciiDigits whole) (second : AsciiDigits fraction) :
    Literal (whole ++ '.' :: fraction) (ofDigits (whole ++ fraction)) (-fraction.length)
  | reduced {whole fraction power : List Char} (first : AsciiDigits whole) (second : AsciiDigits fraction)
    (third : AsciiDigits power) :
    Literal ((whole ++ '.' :: fraction) ++ 'e' :: '-' :: power) (ofDigits (whole ++ fraction))
      (-(ofDigits power : Int) - fraction.length)

variable {text : List Char} {mantissa : Nat} {exponent : Int}

theorem Literal.chars (literal : Literal text mantissa exponent) :
    forall c, c ∈ text -> c.isDigit = true ∨ c ∈ ['.', 'e', '-'] := by
  intro c member
  cases literal with
  | whole ascii => exact .inl (ascii.all c member)
  | pointed first second =>
    rcases List.mem_append.1 member with inWhole | behind
    next => exact .inl (first.all c inWhole)
    next =>
      rcases List.mem_cons.1 behind with rfl | inFraction
      next => exact .inr (by decide)
      next => exact .inl (second.all c inFraction)
  | reduced first second third =>
    simp only [List.mem_append, List.mem_cons] at member
    rcases member with (inWhole | rfl | inFraction) | rfl | rfl | inPower
    next => exact .inl (first.all c inWhole)
    next => exact .inr (by decide)
    next => exact .inl (second.all c inFraction)
    next => exact .inr (by decide)
    next => exact .inr (by decide)
    next => exact .inl (third.all c inPower)

theorem isMantissa_pointed {whole fraction : List Char} (first : AsciiDigits whole) (second : AsciiDigits fraction) :
    IsMantissa true (whole ++ '.' :: fraction) := by
  refine .pointed (by simp [first.present]) fun c member => ?_
  rcases List.mem_append.1 member with inWhole | inFraction
  next => exact first.isDigits.2 c inWhole
  next => exact second.isDigits.2 c inFraction

theorem Literal.fits (literal : Literal text mantissa exponent) : Fits (.numeral text) [] := by
  cases literal with
  | whole ascii => exact .plain (.whole ascii.isDigits) (by simp [Lengthens]) rfl
  | pointed first second => exact .plain (isMantissa_pointed first second) (by simp [Lengthens]) rfl
  | reduced first second third =>
    exact .scaled (isMantissa_pointed first second) (.signed (by decide) (by decide) third.isDigits) rfl

theorem unsignedDecimal?_eq {front whole : List Char} {fraction power : Option (List Char)}
    (split : splitAt? isPowerMark text = (front, power)) (parts : splitAt? (· == '.') front = (whole, fraction))
    (present : whole ++ fraction.getD [] ≠ []) (all : forall c, c ∈ whole ++ fraction.getD [] -> c.isDigit = true)
    (read : power.elim (some 0) exponent? = some exponent) :
    unsignedDecimal? text =
      some (ofDecimal (ofDigits (whole ++ fraction.getD [])) (exponent - (fraction.getD []).length)) := by
  have digits (c : Char) (member : c ∈ whole ++ fraction.getD []) := isDigit_of_asciiDigit (all c member)
  have wholeDigits := @optionalDigits?_digits whole fun c member => digits c (List.mem_append_left _ member)
  have fractionDigits := @optionalDigits?_digits (fraction.getD []) fun c member =>
    digits c (List.mem_append_right _ member)
  have some : (whole ++ fraction.getD []).isEmpty = false := by simpa using present
  unfold isPowerMark at split
  simp only [unsignedDecimal?, split, parts, wholeDigits, fractionDigits, read, Option.bind_eq_bind, Option.bind_some,
    some, Bool.false_eq_true, if_false]

theorem unsignedDecimal?_pointed {whole fraction : List Char} {power : Option (List Char)}
    (split : splitAt? isPowerMark text = (whole ++ '.' :: fraction, power)) (present : whole ++ fraction ≠ [])
    (all : forall c, c ∈ whole ++ fraction -> c.isDigit = true)
    (read : power.elim (some 0) exponent? = some exponent) :
    unsignedDecimal? text = some (ofDecimal (ofDigits (whole ++ fraction)) (exponent - fraction.length)) := by
  have point : splitAt? (· == '.') (whole ++ '.' :: fraction) = (whole, some fraction) :=
    splitAt?_marked rfl fun c member =>
      (isDigit_plain (isDigit_of_asciiDigit (all c (List.mem_append_left _ member)))).2
  exact unsignedDecimal?_eq split point present all read

theorem unsignedDecimal?_whole {digits : List Char} (ascii : AsciiDigits digits) :
    unsignedDecimal? digits = some (ofDecimal (ofDigits digits) 0) := by
  have split := splitAt?_unmarked (isPowerMark_mantissa (.whole ascii.isDigits))
  have parts := @splitAt?_unmarked (· == '.') digits fun c member => (isDigit_plain (ascii.isDigits.2 c member)).2
  have value := unsignedDecimal?_eq split parts (by simpa using ascii.present) (by simpa using ascii.all) rfl
  simpa using value

theorem AsciiDigits.append {whole fraction : List Char} (first : AsciiDigits whole) (second : AsciiDigits fraction) :
    AsciiDigits (whole ++ fraction) where
  present := by simp [first.present]
  all c member := (List.mem_append.1 member).elim (first.all c) (second.all c)

theorem Literal.read (literal : Literal text mantissa exponent) :
    unsignedDecimal? text = some (ofDecimal mantissa exponent) := by
  cases literal with
  | whole ascii => exact unsignedDecimal?_whole ascii
  | pointed first second =>
    have split := splitAt?_unmarked (isPowerMark_mantissa (isMantissa_pointed first second))
    have digits := first.append second
    have value := unsignedDecimal?_pointed split digits.present digits.all rfl
    simpa using value
  | @reduced _ _ power first second third =>
    have split := @splitAt?_marked isPowerMark _ ('-' :: power) 'e' rfl
      (isPowerMark_mantissa (isMantissa_pointed first second))
    have read : exponent? ('-' :: power) = some (-(ofDigits power : Int)) := by
      simp [exponent?, splitSign, separatedDigits?_digits third.isDigits]
    have digits := first.append second
    exact unsignedDecimal?_pointed split digits.present digits.all read

theorem unrewritten_plain (plain : forall c, c ∈ text -> c.isDigit = true ∨ c ∈ ['.', 'e', '-', ' ']) :
    Unrewritten text where
  allowed c member := by
    rcases plain c member with digit | other
    next => exact isAllowed_of_asciiDigit digit
    next =>
      have all : forall c, c ∈ ['.', 'e', '-', ' '] -> isAllowed c = true := by decide
      exact all c other
  noPower d _ stands := by
    rcases plain '^' (stands.subset List.mem_cons_self) with digit | other
    next => cases digit
    next => exact absurd other (by decide)
  unnamed c member initial := by
    rcases plain c member with digit | other
    next =>
      have letters : forall c, c ∈ initials -> c.isDigit = false := by decide
      rw [letters c initial] at digit
      cases digit
    next =>
      have all : forall c, c ∈ ['.', 'e', '-', ' '] -> c ∉ initials := by decide
      exact all c other initial

def decimalDerivation (negative : Bool) (text : List Char) : Derivation (.form .sum) :=
  .chain .sum (.chain .product
    (if negative then .signed true (.unsigned (.bare (.numeral text))) else .unsigned (.bare (.numeral text)))
    (.noFurther .product)) (.noFurther .sum)

theorem value_numeral {result : Float} (fits : Fits (.numeral text) [])
    (chars : forall c, c ∈ text -> c.isDigit = true ∨ c ∈ ['.', 'e', '-'])
    (read : unsignedDecimal? text = some result) (negative : Bool) :
    value (sign negative ++ text) = rounded (.ok (if negative then -result else result)) := by
  have signed : forall c, c ∈ sign negative ++ text -> c.isDigit = true ∨ c ∈ ['.', 'e', '-'] := by
    intro c member
    rcases List.mem_append.1 member with inSign | inText
    next =>
      cases negative <;> simp [sign] at inSign
      exact .inr (by simp [inSign])
    next => exact chars c inText
  have among : forall c, c ∈ ['.', 'e', '-'] -> c ∈ ['.', 'e', '-', ' '] := by decide
  have unrewritten := unrewritten_plain fun c member => (signed c member).imp_right (among c)
  have lexed : lexes (sign negative ++ text) = some (decimalDerivation negative text).yield := by
    have numeral := lexes_lexeme fits
    rw [Lexeme.text, List.append_nil] at numeral
    cases negative
    next =>
      rw [sign, if_neg (by decide), List.nil_append, numeral]
      rfl
    next =>
      have minus := @lexes_lexeme (.mark (.operator .subtract)) text .mark
      rw [numeral] at minus
      exact minus
  have content : (decimalDerivation negative text).content? callable? =
      some (if negative then .signed true (.numeral text) else .numeral text) := by
    cases negative <;> rfl
  have shallow : (decimalDerivation negative text).depth <= Parser.maxDepth := by
    cases negative <;> exact Nat.le_of_ble_eq_true rfl
  rw [unrewritten.value_eq lexed shallow content]
  have own : doubles.numeral text = result := by
    change (unsignedDecimal? text).getD notANumber = _
    rw [read, Option.getD_some]
  cases negative
  next => exact congrArg (fun value => rounded (.ok value)) own
  next => exact congrArg (fun value => rounded (.ok (-value))) own

theorem Literal.value_eq (literal : Literal text mantissa exponent) (negative : Bool) :
    value (sign negative ++ text) =
      rounded (.ok (if negative then -(ofDecimal mantissa exponent) else ofDecimal mantissa exponent)) :=
  value_numeral literal.fits literal.chars literal.read negative

end SpokenArithmetic.Evaluation

import SpokenArithmetic.Proofs.Phrase.Answered
import SpokenArithmetic.Proofs.Phrase.DigitCounts
import SpokenArithmetic.Proofs.Text.Lowered

set_option autoImplicit false

namespace SpokenArithmetic.Phrase

open Number Text

inductive Conversion where
  | reading (group : List Char)
  | writing (value : Nat)

namespace Conversion

def Fits : Conversion -> Prop
  | reading group => group.length <= maxDigits
  | writing value => (toDigits value).length <= maxDigits

def refusal? : Conversion -> Option Overlong
  | reading group => checkReading group
  | writing value => checkWriting value

theorem refusal?_eq_none {conversion : Conversion} : conversion.refusal? = none ↔ conversion.Fits := by
  cases conversion with
  | reading group => simp [refusal?, Fits, checkReading]
  | writing value =>
    have short := @length_toDigits_le value maxDigits (by decide)
    have power (exponent : Nat) : tenTo exponent = 10 ^ exponent := rfl
    rw [Fits, short, refusal?, checkWriting, power]
    split
    next below => exact iff_of_true rfl below
    next above => exact iff_of_false (Option.some_ne_none _) above

end Conversion

open Conversion

def scaleConversions (zeros : Nat) (text : List Char) : List Conversion :=
  ((scaled (scale zeros)).matchesOf text).flatMap fun group =>
    [.reading group, .writing (ofDigits group * tenTo zeros)]

def mergeConversions (text : List Char) : List Conversion :=
  (neighbours.matchesOf text).flatMap fun found =>
    if found.fills then [.reading found.high, .reading found.low, .writing found.sum] else []

/-- The conversions that compounding a text comes to: those of the groups in front of 100, in front
of 1000, and of the neighbours that are merged in each round. -/
inductive Converts (text : List Char) (conversion : Conversion) : Prop where
  | hundreds (member : conversion ∈ scaleConversions 2 text)
  | thousands (member : conversion ∈ scaleConversions 3 (multiplyScale 2 text))
  | merging (rounds : Nat)
    (member : conversion ∈ mergeConversions (mergeOnce^[rounds] (multiplyScale 3 (multiplyScale 2 text))))

theorem findSome?_flatMap {A B C : Type} {parts : A -> List B} {complain : B -> Option C} (items : List A) :
    (items.flatMap parts).findSome? complain = items.findSome? fun item => (parts item).findSome? complain := by
  induction items with
  | nil => rfl
  | cons item items ih =>
    rw [List.flatMap_cons, List.findSome?_append, List.findSome?_cons, ih]
    cases (parts item).findSome? complain <;> rfl

theorem scaleOverlong?_eq (zeros : Nat) (text : List Char) :
    scaleOverlong? zeros text = (scaleConversions zeros text).findSome? refusal? := by
  rw [scaleOverlong?, Pattern.complaint?_eq, scaleConversions, findSome?_flatMap]
  congr 1
  funext group
  simp only [List.findSome?_cons, refusal?]
  cases checkReading group <;> cases checkWriting (ofDigits group * tenTo zeros) <;> rfl

theorem mergeOverlong_eq (text : List Char) :
    neighbours.complaint? Neighbours.overlong? text = (mergeConversions text).findSome? refusal? := by
  rw [Pattern.complaint?_eq, mergeConversions, findSome?_flatMap]
  congr 1
  funext found
  unfold Neighbours.overlong?
  split
  next =>
    simp only [List.findSome?_cons, refusal?]
    cases checkReading found.high <;> cases checkReading found.low <;> cases checkWriting found.sum <;> rfl
  next => rfl

theorem quiet_iff_fits {text : List Char} :
    Quiet text ↔ forall conversion, Converts text conversion -> conversion.Fits := by
  constructor
  next =>
    intro quiet conversion converts
    rw [← refusal?_eq_none]
    cases converts with
    | hundreds member =>
      have none := quiet.hundreds
      rw [scaleOverlong?_eq, List.findSome?_eq_none_iff] at none
      exact none conversion member
    | thousands member =>
      have none := quiet.thousands
      rw [scaleOverlong?_eq, List.findSome?_eq_none_iff] at none
      exact none conversion member
    | merging rounds member =>
      have none := quiet.merging rounds
      rw [mergeOverlong_eq, List.findSome?_eq_none_iff] at none
      exact none conversion member
  next =>
    intro fits
    constructor
    next =>
      rw [scaleOverlong?_eq, List.findSome?_eq_none_iff]
      exact fun conversion member => refusal?_eq_none.2 (fits conversion (.hundreds member))
    next =>
      rw [scaleOverlong?_eq, List.findSome?_eq_none_iff]
      exact fun conversion member => refusal?_eq_none.2 (fits conversion (.thousands member))
    next =>
      intro rounds
      rw [mergeOverlong_eq, List.findSome?_eq_none_iff]
      exact fun conversion member => refusal?_eq_none.2 (fits conversion (.merging rounds member))

-- What stops the compounding of a text is the refusal of a conversion.
theorem refused_of_overlong {text : List Char} {overlong : Overlong}
    (stopped : compoundOverlong? text = some overlong) :
    exists conversion, Converts text conversion ∧ conversion.refusal? = some overlong := by
  have refused {conversions : List Conversion} (found : conversions.findSome? refusal? = some overlong) :
      exists conversion, conversion ∈ conversions ∧ conversion.refusal? = some overlong :=
    List.exists_of_findSome?_eq_some found
  have merging (rounds : Nat) (text : List Char) (stopped : mergeOverlong? rounds text = some overlong) :
      exists round, exists conversion, conversion ∈ mergeConversions (mergeOnce^[round] text) ∧
        conversion.refusal? = some overlong := by
    induction rounds generalizing text with
    | zero => cases stopped
    | succ rounds ih =>
      rw [mergeOverlong?, Option.orElse_eq_orElse, Option.orElse_eq_or, Option.or_eq_some_iff,
        mergeOverlong_eq] at stopped
      rcases stopped with now | ⟨_, later⟩
      next => exact ⟨0, refused now⟩
      next =>
        split at later
        next => cases later
        next =>
          obtain ⟨round, found⟩ := ih (mergeOnce text) later
          exact ⟨round + 1, found⟩
  simp only [compoundOverlong?, Option.orElse_eq_orElse, Option.orElse_eq_or, Option.or_eq_some_iff,
    scaleOverlong?_eq] at stopped
  rcases stopped with hundreds | ⟨_, thousands | ⟨_, merged⟩⟩
  next =>
    obtain ⟨conversion, member, refusal⟩ := refused hundreds
    exact ⟨conversion, .hundreds member, refusal⟩
  next =>
    obtain ⟨conversion, member, refusal⟩ := refused thousands
    exact ⟨conversion, .thousands member, refusal⟩
  next =>
    obtain ⟨round, conversion, member, refusal⟩ := merging _ _ merged
    exact ⟨conversion, .merging round member, refusal⟩

/-- The conversions on the way from a phrase to its expression: numbers are compounded behind the
number words, and again when the phrase is structured. -/
def ConvertsIn (wholeWords : Bool) (phrase : List Char) (conversion : Conversion) : Prop :=
  Converts (replaceNumberWords (symbols wholeWords phrase)) conversion ∨
    Converts (explicit (replaceNumbers (symbols wholeWords phrase))) conversion

theorem overlong?_eq_none {wholeWords : Bool} {phrase : List Char} :
    overlong? wholeWords phrase = none ↔
      forall conversion, ConvertsIn wholeWords phrase conversion -> conversion.Fits := by
  simp only [overlong?, Option.orElse_eq_orElse, Option.orElse_eq_or, Option.or_eq_none_iff, ← quiet_iff,
    quiet_iff_fits, ConvertsIn, or_imp, forall_and]

theorem normalize_eq_ok {wholeWords : Bool} {phrase : String} :
    (exists text, normalize phrase wholeWords = .ok text) ↔ overlong? wholeWords phrase.toList = none := by
  unfold normalize
  cases overlong? wholeWords phrase.toList <;> simp

theorem lower_hundred {digits : List Char} (ascii : forall c, c ∈ digits -> c.isDigit = true) :
    lower (digits ++ " hundred".toList) = digits ++ " hundred".toList := by
  have settledDigits : forall c, c ∈ CallForm.alphabet -> c.isDigit = true -> Case.Settled c := by decide
  have settledWord : forall c, c ∈ " hundred".toList -> Case.Settled c := by decide
  refine lowerFrom_settled (fun c member => ?_) []
  rcases List.mem_append.1 member with inDigits | inWord
  next =>
    have digit := ascii c inDigits
    exact settledDigits c (CallForm.mem_alphabet (isAllowed_of_asciiDigit digit)) digit
  next => exact settledWord c inWord

theorem normalize_hundred {digits : List Char} (ascii : forall c, c ∈ digits -> c.isDigit = true)
    (long : maxDigits < digits.length) (wholeWords : Bool) :
    normalize (String.ofList (digits ++ " hundred".toList)) wholeWords = .error (.reading digits.length) := by
  have present : digits ≠ [] := List.ne_nil_of_length_pos (Nat.zero_lt_of_lt long)
  have isDigits := isDigits_ascii present ascii
  have heard : List.Forall₂ Heard [digits, numberWord 100] [digits, toDigits 100] :=
    .cons (TypedNumeral.whole present ascii).heard (.cons (heard_numberWord (by decide)) .nil)
  have words := heard_items heard (lower_hundred ascii) wholeWords
  have found : scaled (scale 2) none (digits ++ " 100".toList) = some (digits, []) :=
    scaled_eq_some.2 ⟨digits ++ " 100".toList, by simp, ⟨rfl, isDigits, [' '], ⟨by simp, by decide⟩, rfl⟩, rfl⟩
  have stopped : scaleOverlong? 2 (digits ++ " 100".toList) = some (.reading digits.length) := by
    obtain ⟨c, tail, rfl⟩ := List.exists_cons_of_ne_nil present
    rw [List.cons_append] at found
    rw [scaleOverlong?, Pattern.complaint?, List.cons_append, Pattern.complaintFrom, found]
    simp only [checkReading, if_pos long]
    rfl
  have text : spaced [digits, toDigits 100] = digits ++ " 100".toList := by
    have hundred : toDigits 100 = "100".toList := by decide
    simp [spaced, following, hundred]
  unfold normalize overlong? compoundOverlong?
  rw [String.toList_ofList]
  dsimp only
  rw [words, text, stopped]
  rfl

/-- A phrase is normalized and calculated exactly when every number that is read or written on the way
fits, and what stops it is the refusal of a conversion. A phrase is never stopped that has no more
characters, white space aside, than a number may have digits. -/
theorem calculate_returns (phrase : String) (wholeWords : Bool) :
    ((exists text, normalize phrase wholeWords = .ok text) ↔
      forall conversion, ConvertsIn wholeWords phrase.toList conversion -> conversion.Fits) ∧
    (forall trace, (exists told, Calculation.calculate phrase wholeWords trace = .ok told) ↔
      exists text, normalize phrase wholeWords = .ok text) ∧
    (forall overlong, normalize phrase wholeWords = .error overlong ->
      (forall trace, Calculation.calculate phrase wholeWords trace = .error overlong) ∧
      exists conversion, ConvertsIn wholeWords phrase.toList conversion ∧
        conversion.refusal? = some overlong) ∧
    (solidCount (lower phrase.toList) <= maxDigits -> exists text, normalize phrase wholeWords = .ok text) := by
  have calculated (trace : Bool) : (exists told, Calculation.calculate phrase wholeWords trace = .ok told) ↔
      exists text, normalize phrase wholeWords = .ok text := by
    unfold Calculation.calculate
    cases normalize phrase wholeWords <;> simp [Bind.bind, Except.bind, Pure.pure, Except.pure]
  refine ⟨normalize_eq_ok.trans overlong?_eq_none, calculated, fun overlong stopped => ⟨fun trace => ?_, ?_⟩,
    fun short => ?_⟩
  next =>
    unfold Calculation.calculate
    rw [stopped]
    rfl
  next =>
    have none : overlong? wholeWords phrase.toList = some overlong := by
      unfold normalize at stopped
      split at stopped
      next other found => rw [found, Except.error.inj stopped]
      next => cases stopped
    simp only [overlong?, Option.orElse_eq_orElse, Option.orElse_eq_or, Option.or_eq_some_iff] at none
    rcases none with words | ⟨_, structured⟩
    next =>
      obtain ⟨conversion, converts, refusal⟩ := refused_of_overlong words
      exact ⟨conversion, .inl converts, refusal⟩
    next =>
      obtain ⟨conversion, converts, refusal⟩ := refused_of_overlong structured
      exact ⟨conversion, .inr converts, refusal⟩
  next =>
    obtain ⟨words, structured⟩ := digitCount_compounded wholeWords phrase.toList
    have first := (quiet_few (Nat.le_trans words short)).overlong
    have second := (quiet_few (Nat.le_trans structured short)).overlong
    refine normalize_eq_ok.2 ?_
    unfold overlong?
    dsimp only
    rw [first, second]
    rfl

theorem calculate_returns_hundred :
    (forall trace, Calculation.calculate (String.ofList (List.replicate 4301 '1' ++ " hundred".toList)) true trace =
      .error (.reading 4301)) ∧
      exists told, Calculation.calculate "two hundred" true true = .ok told := by
  have ascii : forall c, c ∈ List.replicate 4301 '1' -> c.isDigit = true := by
    intro c member
    rw [(List.mem_replicate.1 member).2]
    decide
  have stopped := normalize_hundred ascii (by rw [List.length_replicate]; decide) true
  rw [List.length_replicate] at stopped
  obtain ⟨_, calculated, _, short⟩ := calculate_returns "two hundred" true
  exact ⟨((calculate_returns _ true).2.2.1 _ stopped).1, (calculated true).2 (short (by decide +kernel))⟩

end SpokenArithmetic.Phrase

import SpokenArithmetic.Proofs.Arithmetic.Decimal
import SpokenArithmetic.Proofs.Phrase.Answered
import SpokenArithmetic.Proofs.Phrase.Normalized
import SpokenArithmetic.Proofs.Printing.Excess
import SpokenArithmetic.Proofs.Printing.Literal

set_option autoImplicit false

namespace SpokenArithmetic.Phrase

open CallForm Grammar Number Text

section Unmatched

variable {A B : Type} {pattern : Pattern A}

def Unmatched (pattern : Pattern A) (text : List Char) : Prop :=
  forall before tail, tail <:+ text -> pattern before tail = none

theorem Unmatched.complaint? {text : List Char} (unmatched : Unmatched pattern text) (complain : A -> Option B) :
    pattern.complaint? complain text = none := by
  rw [Pattern.complaint?_eq, List.findSome?_eq_none_iff]
  intro found member
  obtain ⟨before, rest, behind, suffix, matched⟩ := Pattern.mem_matchesOf member
  rw [unmatched before rest suffix] at matched
  cases matched

theorem Unmatched.cons {c : Char} {text : List Char} (first : forall before, pattern before (c :: text) = none)
    (rest : Unmatched pattern text) : Unmatched pattern (c :: text) := by
  intro before tail suffix
  rcases List.suffix_cons_iff.1 suffix with rfl | later
  next => exact first before
  next => exact rest before tail later

theorem Unmatched.append {front text : List Char}
    (first : forall before inner, inner ≠ [] -> inner <:+ front -> pattern before (inner ++ text) = none)
    (rest : Unmatched pattern text) : Unmatched pattern (front ++ text) := by
  induction front with
  | nil => exact rest
  | cons c front ih =>
    refine .cons (fun before => first before (c :: front) (by simp) (List.suffix_refl _)) (ih ?_)
    exact fun before inner present suffix => first before inner present (suffix.trans (List.suffix_cons c front))

structure Loose (text : List Char) : Prop where
  hundreds : Unmatched (scaled (scale 2)) text
  thousands : Unmatched (scaled (scale 3)) text
  pairs : Unmatched neighbours text

variable {text : List Char}

theorem Loose.multiplyScale (loose : Loose text) : multiplyScale 2 text = text ∧ multiplyScale 3 text = text :=
  ⟨Pattern.replace_of_unmatched loose.hundreds, Pattern.replace_of_unmatched loose.thousands⟩

theorem Loose.mergeOnce (loose : Loose text) : mergeOnce text = text :=
  Pattern.replace_of_unmatched loose.pairs

theorem Loose.compound (loose : Loose text) : compound text = text := by
  unfold Phrase.compound
  rw [loose.multiplyScale.1, loose.multiplyScale.2]
  dsimp only
  rw [mergeAll_eq_iterate, Function.iterate_fixed loose.mergeOnce]

theorem Loose.quiet (loose : Loose text) : Quiet text where
  hundreds := loose.hundreds.complaint? _
  thousands := by
    rw [loose.multiplyScale.1]
    exact loose.thousands.complaint? _
  merging rounds := by
    rw [loose.multiplyScale.1, loose.multiplyScale.2, Function.iterate_fixed loose.mergeOnce]
    exact loose.pairs.complaint? _

end Unmatched

section Singles

variable {A : Type} {pattern : Pattern A} {groups : List (List Char)} {whole : List Char}

def Singles (groups : List (List Char)) : Prop :=
  forall group, group ∈ groups -> exists c, group = [c] ∧ isDigit c = true

theorem Singles.digits (singles : Singles groups) : AllDigits groups := by
  intro group member
  obtain ⟨c, rfl, digit⟩ := singles group member
  exact ⟨by simp, by simpa using digit⟩

theorem Singles.tail {group : List Char} (singles : Singles (group :: groups)) : Singles groups :=
  fun other member => singles other (List.mem_cons_of_mem _ member)

theorem unmatched_singles (atGroups : AtGroups pattern) (empty : forall before, pattern before [] = none)
    (atGroup : forall before group rest, Singles (group :: rest) -> pattern before (spaced (group :: rest)) = none)
    (singles : Singles groups) : Unmatched pattern (spaced groups) := by
  induction groups with
  | nil =>
    intro before tail suffix
    obtain rfl : tail = [] := by simpa [spaced] using suffix
    exact empty before
  | cons group rest ih =>
    obtain ⟨c, rfl, _⟩ := singles group List.mem_cons_self
    have whole := fun before => atGroup before [c] rest singles
    rw [spaced, List.singleton_append] at whole ⊢
    refine .cons whole ?_
    cases rest with
    | nil =>
      intro before tail suffix
      obtain rfl : tail = [] := by simpa [following] using suffix
      exact empty before
    | cons next rest =>
      rw [following_eq (by simp)]
      exact .cons (fun before => atGroups.other before ' ' _ space_noDigit) (ih singles.tail)

theorem not_scale {zeros : Nat} (some : 0 < zeros) (singles : Singles groups) :
    groups.head? ≠ .some (scale zeros) := by
  intro same
  obtain ⟨rest, rfl⟩ := List.head?_eq_some_iff.1 same
  obtain ⟨c, one, _⟩ := singles (scale zeros) List.mem_cons_self
  have length := congrArg List.length one
  simp only [scale, List.length_cons, List.length_replicate, List.length_nil] at length
  omega

theorem loose_singles (singles : Singles groups) : Loose (spaced groups) := by
  have scaledNone {zeros : Nat} (some : 0 < zeros) : Unmatched (scaled (scale zeros)) (spaced groups) := by
    refine unmatched_singles (atGroups_scaled zeros) (fun before => ?_) (fun before group rest singles => ?_) singles
    next => simp [scaled, Pattern.unlessBehind, digits?]
    next => exact scaled_none singles.digits (not_scale some singles.tail)
  refine ⟨scaledNone (by decide), scaledNone (by decide), ?_⟩
  refine unmatched_singles atGroups_neighbours (fun before => ?_) (fun before group rest singles => ?_) singles
  next => simp [neighbours, Pattern.unlessBehind, digits?]
  next =>
    obtain ⟨c, rfl, _⟩ := singles group List.mem_cons_self
    exact neighbours_none singles.digits (.inl (by simp))

def pointed (whole : List Char) (groups : List (List Char)) : List Char :=
  whole ++ '.' :: spaced groups

theorem no_gap {inner gap behind rest : List Char} {group : List Char} (isInner : IsDigits inner)
    (isGroup : IsDigits group)
    (isGap : IsGap gap) (same : inner ++ '.' :: rest = group ++ (gap ++ behind)) : False := by
  have point : isDigit '.' = false ∧ isSpace '.' = false := by decide
  have unique := span_unique same isInner.2 isGroup.2 (by simp [point])
    (isGap.head (fun c space => (space_cases space).1) behind)
  obtain ⟨c, spaces, rfl⟩ := List.exists_cons_of_ne_nil isGap.1
  have space := isGap.2 c List.mem_cons_self
  rw [← (List.cons.inj unique.2).1, point.2] at space
  cases space

theorem loose_pointed (isWhole : IsDigits whole) (singles : Singles groups) : Loose (pointed whole groups) := by
  have loose := loose_singles singles
  have inside {inner : List Char} (present : inner ≠ []) (suffix : inner <:+ whole) : IsDigits inner :=
    ⟨present, fun c member => isWhole.2 c (suffix.subset member)⟩
  have scaledNone {zeros : Nat} (behind : Unmatched (scaled (scale zeros)) (spaced groups)) :
      Unmatched (scaled (scale zeros)) (pointed whole groups) := by
    refine .append (fun before inner present suffix => ?_) (.cons (fun before => scaled_other (by decide)) behind)
    cases matched : scaled (scale zeros) before (inner ++ '.' :: spaced groups) with
    | none => rfl
    | some pair =>
      obtain ⟨parts, same, ⟨_, isGroup, gap, isGap, rfl⟩, _⟩ := scaled_eq_some.1 matched
      simp only [List.append_assoc] at same
      exact (no_gap (inside present suffix) isGroup isGap same).elim
  refine ⟨scaledNone loose.hundreds, scaledNone loose.thousands, ?_⟩
  refine .append (fun before inner present suffix => ?_)
    (.cons (fun before => neighbours_other (by decide)) loose.pairs)
  cases matched : neighbours before (inner ++ '.' :: spaced groups) with
  | none => rfl
  | some pair =>
    obtain ⟨parts, same, ⟨_, isHigh, isGap, _, _, rfl⟩, _⟩ := neighbours_eq_some.1 matched
    simp only [List.append_assoc] at same
    exact (no_gap (inside present suffix) isHigh isGap same).elim

end Singles

section Joining

variable {groups : List (List Char)} {whole : List Char} {before : Option Char}

theorem spacedPoint_needs {text behind : List Char} {ends : Char × Char}
    (matched : spacedPoint before text = some (ends, behind)) : '.' ∈ text := by
  unfold spacedPoint at matched
  split at matched
  next => cases matched
  next first rest =>
    split at matched
    next fraction point =>
      have member : '.' ∈ skipSpace rest := by simp [point]
      exact List.mem_cons_of_mem _ ((skipSpace_suffix rest).subset member)
    next => cases matched

theorem spacedPoint_digit {d e : Char} {rest : List Char} (digit : isDigit e = true) :
    spacedPoint before (d :: e :: rest) = none := by
  have stays : skipSpace (e :: rest) = e :: rest := skipSpace_of_head (not_space_of_isDigit digit)
  unfold spacedPoint
  dsimp only
  rw [stays]
  split
  next same =>
    obtain ⟨rfl, _⟩ := List.cons.inj same
    cases digit
  next => rfl

theorem joinPoints_absent {text : List Char} (absent : '.' ∉ text) (render : Char × Char -> List Char) :
    spacedPoint.replaceFrom render before 0 text = text := by
  rw [@Pattern.replaceFrom_everywhere _ spacedPoint _ _ _ fun _ _ => rfl]
  apply Pattern.replace_of_unmatched
  intro before tail suffix
  cases matched : spacedPoint before tail with
  | none => rfl
  | some pair => exact absurd (suffix.subset (spacedPoint_needs matched)) absent

theorem joinPoints_pointed (isWhole : IsDigits whole) (singles : Singles groups) (present : groups ≠ []) :
    joinPoints (whole ++ ([' ', '.', ' '] ++ spaced groups)) = pointed whole groups := by
  obtain ⟨group, rest, rfl⟩ := List.exists_cons_of_ne_nil present
  obtain ⟨c, rfl, digit⟩ := singles group List.mem_cons_self
  obtain ⟨front, last, rfl⟩ : exists front last, whole = front ++ [last] :=
    ⟨whole.dropLast, whole.getLast isWhole.1, (List.dropLast_concat_getLast isWhole.1).symm⟩
  have lastDigit : isDigit last = true := isWhole.2 last (by simp)
  have absent : '.' ∉ following rest := by
    have chars := chars_spaced singles.digits
    intro point
    rcases chars '.' (by simp [spaced, point]) with digit | space
    next => cases digit
    next => cases space
  have passes : spacedPoint.Passes none front ([last, ' ', '.', ' ', c] ++ following rest) := by
    apply Pattern.passes_of_places
    intro start tail same present
    obtain ⟨d, tail, rfl⟩ := List.exists_cons_of_ne_nil present
    cases tail with
    | nil => exact spacedPoint_digit lastDigit
    | cons e tail => exact spacedPoint_digit (isWhole.2 e (by simp [same]))
  have matched (before : Option Char) : spacedPoint before ([last, ' ', '.', ' ', c] ++ following rest) =
      some ((last, c), following rest) := by
    have spaces : isSpace ' ' = true ∧ isSpace '.' = false := by decide
    simp [spacedPoint, skipSpace, spaces, not_space_of_isDigit digit, lastDigit, digit]
  have text : (front ++ [last]) ++ ([' ', '.', ' '] ++ spaced ([c] :: rest)) =
      front ++ ([last, ' ', '.', ' ', c] ++ following rest) := by
    simp [spaced]
  rw [joinPoints, text, Pattern.replace, Pattern.replaceFrom_passed passes,
    Pattern.replaceFrom_matched (by simp) (matched _), joinPoints_absent absent]
  simp [pointed, spaced]

theorem pointed_chars (isWhole : IsDigits whole) (singles : Singles groups) :
    forall c, c ∈ pointed whole groups -> isDigitOrPoint c = true ∨ c = ' ' := by
  intro c member
  rcases List.mem_append.1 member with inWhole | behind
  next => exact .inl (by simp [isDigitOrPoint, isWhole.2 c inWhole])
  next =>
    rcases List.mem_cons.1 behind with rfl | inGroups
    next => exact .inl (by decide)
    next =>
      rcases chars_spaced singles.digits c inGroups with digit | space
      next => exact .inl (by simp [isDigitOrPoint, digit])
      next => exact .inr space

theorem tidy_pointed (isWhole : IsDigits whole) (singles : Singles groups) (present : groups ≠ []) :
    Tidy (pointed whole groups) where
  trimmed before rest := by
    obtain ⟨group, others, rfl⟩ := List.exists_cons_of_ne_nil present
    obtain ⟨c, rfl, digit⟩ := singles group List.mem_cons_self
    have solid : forall d, d ∈ whole ++ ['.', c] -> isSpace d = false := by
      intro d member
      simp only [List.mem_append, List.mem_cons, List.not_mem_nil, or_false] at member
      rcases member with inWhole | rfl | rfl
      next => exact not_space_of_isDigit (isWhole.2 d inWhole)
      next => decide
      next => exact not_space_of_isDigit digit
    have ends : (lastBehind before (whole ++ ['.', c])).any isTight = false := by
      rw [lastBehind_eq_getLast? (by simp)]
      simpa using digit_not_tight digit
    have parts : pointed whole ([c] :: others) = (whole ++ ['.', c]) ++ following others := by
      simp [pointed, spaced]
    have behind := trim_following singles.tail.digits ends rest
    rw [← lastBehind_append] at behind
    rw [parts, List.append_assoc, trim_word solid, behind, ← List.append_assoc]
  links := by
    have chars := pointed_chars isWhole singles
    refine ⟨chain_of_forall fun c d _ member operator => ?_, ?_, ?_⟩
    next =>
      rcases chars d member with kind | rfl
      next =>
        rw [(digitOrPoint_cases kind).2] at operator
        cases operator
      next => cases operator
    next => exact any_imp (fun _ => digit_inner) (isWhole.head ('.' :: spaced groups))
    next =>
      have last := (spaced_tidy singles.digits present).links.ends
      have parts : pointed whole groups = (whole ++ ['.']) ++ spaced groups := by simp [pointed]
      rw [parts, List.getLast?_append]
      cases same : (spaced groups).getLast? with
      | none => simp [same] at last
      | some c => simpa [same] using last

end Joining

section Passes

variable {value : Nat} {fraction : List Nat}

def decimalItems (value : Nat) (fraction : List Nat) : List (List Char) :=
  (cardinalWords value).map numberWord ++ "point".toList :: fraction.map numberWord

def spokenDecimal (value : Nat) (fraction : List Nat) : String :=
  cardinal value ++ " point " ++ String.ofList (spaced (fraction.map numberWord))

def joinedOnce (value : Nat) (fraction : List Nat) : List Char :=
  pointed (toDigits value) (fraction.map toDigits)

theorem singles_digits (digits : forall digit, digit ∈ fraction -> digit < 10) : Singles (fraction.map toDigits) := by
  intro group member
  obtain ⟨digit, among, rfl⟩ := List.mem_map.1 member
  have one : toDigits digit = [digit.digitChar] := Nat.toDigits_of_lt_base (digits digit among)
  exact ⟨digit.digitChar, one, (isDigits_toDigits digit).2 _ (by simp [one])⟩

theorem wall_point : Wall [' ', '.', ' '] where
  noDigit := by decide
  solid := ⟨'.', by decide, by decide⟩
  starts := by decide
  ends := by decide

theorem spaced_between {front back : List (List Char)} {item : List Char} (first : front ≠ []) (second : back ≠ []) :
    spaced (front ++ item :: back) = spaced front ++ ((' ' :: item ++ [' ']) ++ spaced back) := by
  have parts : front ++ item :: back = front ++ ([item] ++ back) := rfl
  rw [parts, spaced_append first (by simp), spaced_append (by simp) second]
  simp [spaced, following]

section Spoken

variable (small : value < 1000) (present : fraction ≠ []) (digits : forall digit, digit ∈ fraction -> digit < 10)

section Words

include small digits

theorem heard_decimal : List.Forall₂ Heard (decimalItems value fraction)
    ((cardinalWords value).map toDigits ++ ['.'] :: fraction.map toDigits) := by
  have all : forall digit, digit < 10 -> digit ∈ wordValues := by decide
  have point : Heard "point".toList ['.'] := by decide +kernel
  have behind := heard_numberWords fun digit member => all digit (digits digit member)
  have front := heard_numberWords fun word member => mem_cardinalWords (show value < 1000000 by omega) member
  exact List.rel_append front (.cons point behind)

theorem spoken_decimal : forall item, item ∈ decimalItems value fraction -> Spoken item := by
  have all : forall digit, digit < 10 -> digit ∈ wordValues := by decide
  have spokenWord {word : Nat} (member : word ∈ wordValues) : Spoken (numberWord word) :=
    (translated_numberWord member).spoken
  intro item member
  rcases List.mem_append.1 member with inWords | behind
  next =>
    obtain ⟨word, among, rfl⟩ := List.mem_map.1 inWords
    exact spokenWord (mem_cardinalWords (by omega) among)
  next =>
    rcases List.mem_cons.1 behind with rfl | inDigits
    next => decide
    next =>
      obtain ⟨digit, among, rfl⟩ := List.mem_map.1 inDigits
      exact spokenWord (all digit (digits digit among))

end Words

include present in
theorem spokenDecimal_items : (spokenDecimal value fraction).toList = spaced (decimalItems value fraction) := by
  rw [decimalItems, spaced_between (by simp [cardinalWords_ne_nil]) (by simp [present])]
  simp [spokenDecimal, cardinal]

include small present digits

theorem calculatesAs_joinedOnce :
    CalculatesAs (spokenDecimal value fraction) (String.ofList (joinedOnce value fraction)) := by
  have below : value < 1000000 := by omega
  have singles := singles_digits digits
  have fractionPresent : fraction.map toDigits ≠ [] := by simp [present]
  have isWhole := isDigits_toDigits value
  have loose := loose_pointed isWhole singles
  have text := @spokenDecimal_items value _ present
  have spoken := lower_spaced (spoken_decimal small digits)
  have parts : spaced ((cardinalWords value).map toDigits ++ ['.'] :: fraction.map toDigits) =
      spaced ((cardinalWords value).map toDigits) ++ ([' ', '.', ' '] ++ spaced (fraction.map toDigits)) :=
    spaced_between (by simp [cardinalWords_ne_nil]) fractionPresent
  rw [← text] at spoken
  refine @calculatesAs_of_passes _ _ _ (pointed (toDigits value) (fraction.map toDigits)) _ _
    (heard_decimal small digits) (spoken.trans text) ?_ ?_ ?_ loose.quiet ?_
  next =>
    have front := quiet_short (Nat.le_trans (length_cardinalDigits below) (by decide))
    rw [parts]
    exact front.wall (loose_singles singles).quiet wall_point
  next =>
    have compounded : compound (spaced ((cardinalWords value).map toDigits)) = toDigits value := by
      rw [compound_spaced (allDigits_map _), compound_round below (.inl (by omega))]
      simp [spaced, following]
    rw [parts, compound_wall wall_point, compounded, (loose_singles singles).compound]
    exact joinPoints_pointed isWhole singles fractionPresent
  next =>
    apply explicit_unstructured (unstructured_flat fun c member => ?_)
    rcases pointed_chars isWhole singles c member with kind | rfl
    next => simp [isFlat, kind]
    next => decide
  next =>
    have cleaned := @clean_operation _ [] (tidy_pointed isWhole singles fractionPresent) (by simp) (by simp) [] []
      ⟨.inl rfl, .inl rfl⟩
    rw [loose.compound]
    simpa [operation, joinedOnce] using cleaned

end Spoken

end Passes

section Outcomes

open Evaluation Token
open SpokenArithmetic.Arithmetic (isFinite_ofDecimal roundAnswer?_of_isFinite)

variable {text : List Char} {groups : List (List Char)} {mantissa : Nat} {exponent : Int} {value : Nat}
  {fraction : List Nat}

theorem bars_following (groups : List (List Char)) : Bars (following groups) := by
  rcases following_cases groups with none | ⟨rest, some⟩
  next =>
    rw [none]
    exact bars_space (by simp)
  next =>
    rw [some]
    exact ⟨rfl, rfl, by simp⟩

theorem lexes_groups (literal : Literal text mantissa exponent)
    (ascii : forall group, group ∈ groups -> AsciiDigits group) :
    lexes (text ++ following groups) = some (.numeral text :: groups.map .numeral) := by
  have alone {text : List Char} {mantissa : Nat} {exponent : Int} (literal : Literal text mantissa exponent) :
      lexes text = some [.numeral text] := by
    have lexed := lexes_lexeme literal.fits
    rwa [Lexeme.text, List.append_nil] at lexed
  induction groups generalizing text mantissa exponent with
  | nil => simpa [following] using alone literal
  | cons group rest ih =>
    have behind := ih (.whole (ascii group List.mem_cons_self)) fun other member =>
      ascii other (List.mem_cons_of_mem _ member)
    have parts : following (group :: rest) = ' ' :: (group ++ following rest) := by simp [following]
    rw [lexes_append (bars_following _) text, alone literal, parts, lexes_space (by decide), behind]
    rfl

theorem outcome_groups (literal : Literal text mantissa exponent)
    (ascii : forall group, group ∈ groups -> AsciiDigits group)
    (present : groups ≠ []) : outcome (Evaluation.value (text ++ following groups)) = .error .malformed := by
  have unrewritten : Unrewritten (text ++ following groups) := by
    refine unrewritten_plain fun c member => ?_
    rcases List.mem_append.1 member with inText | behind
    next =>
      have among : forall c, c ∈ ['.', 'e', '-'] -> c ∈ ['.', 'e', '-', ' '] := by decide
      exact (literal.chars c inText).imp_right (among c)
    next =>
      obtain ⟨group, inGroups, inGroup⟩ := List.mem_flatMap.1 behind
      rcases List.mem_cons.1 inGroup with rfl | digit
      next => exact .inr (by decide)
      next => exact .inl ((ascii group inGroups).all c digit)
  obtain ⟨group, rest, rfl⟩ := List.exists_cons_of_ne_nil present
  exact @Derivation.outcome_excess (decimalDerivation false text) (.numeral text) _ group (rest.map .numeral) _
    unrewritten.allowed unrewritten.powersApart (lexes_groups literal ascii) rfl (Nat.le_of_ble_eq_true rfl) rfl

theorem value_pointed {whole fraction : List Char} (first : AsciiDigits whole) (second : AsciiDigits fraction)
    (short : (whole ++ fraction).length <= 15) :
    exists answer, Evaluation.value (whole ++ '.' :: fraction) = .ok answer := by
  have literal := Literal.pointed first second
  have mantissa := ofDigits_lt (whole ++ fraction)
  have bound : 10 ^ (whole ++ fraction).length <= 10 ^ 15 := Nat.pow_le_pow_right (by decide) short
  have power : (10 : ℚ) ^ (-(fraction.length : Int)) <= 1 := zpow_le_one_of_nonpos₀ (by norm_num) (by omega)
  have finite := isFinite_ofDecimal (show ofDigits (whole ++ fraction) < 2 ^ 53 by omega)
    (mul_le_of_le_one_right (Nat.cast_nonneg _) power)
  obtain ⟨answer, rounds⟩ := roundAnswer?_of_isFinite finite
  have value := literal.value_eq false
  rw [if_neg (by decide), rounded, if_pos finite, rounds] at value
  exact ⟨answer, value⟩

theorem joinedOnce_iff (value : Nat) (present : fraction ≠ []) :
    joinedOnce value fraction = toDigits value ++ '.' :: fraction.flatMap toDigits ↔ fraction.length = 1 := by
  obtain ⟨digit, rest, rfl⟩ := List.exists_cons_of_ne_nil present
  rw [joinedOnce, pointed, List.append_cancel_left_eq, List.cons_inj_right]
  cases rest with
  | nil => simp [spaced, following]
  | cons next rest =>
    refine iff_of_false (fun same => ?_) (by simp)
    have space : ' ' ∈ (digit :: next :: rest).flatMap toDigits := by
      rw [← same]
      simp [spaced, following]
    obtain ⟨value, _, inDigits⟩ := List.mem_flatMap.1 space
    have isDigit := (isDigits_toDigits value).2 ' ' inDigits
    cases isDigit

/-- A decimal that is spoken digit by digit is calculated with the point and the first digit joined to
its whole part. This is the decimal, and has a value, exactly when there is no further digit; otherwise
the expression is malformed. -/
theorem calculatesAs_spokenDecimal (value : Nat) (fraction : List Nat) (small : value < 1000)
    (present : fraction ≠ []) (digits : forall digit, digit ∈ fraction -> digit < 10) :
    CalculatesAs (spokenDecimal value fraction) (String.ofList (joinedOnce value fraction)) ∧
      (joinedOnce value fraction = toDigits value ++ '.' :: fraction.flatMap toDigits ↔ fraction.length = 1) ∧
      (fraction.length = 1 -> exists answer, Evaluation.value (joinedOnce value fraction) = .ok answer) ∧
      (fraction.length ≠ 1 -> outcome (Evaluation.value (joinedOnce value fraction)) = .error .malformed) := by
  refine ⟨calculatesAs_joinedOnce small present digits, joinedOnce_iff value present, fun one => ?_, fun more => ?_⟩
  next =>
    obtain ⟨digit, rfl⟩ := List.length_eq_one_iff.1 one
    have whole : (toDigits value).length <= 3 := (length_toDigits_le (by decide)).2 small
    have single : (toDigits digit).length <= 1 := (length_toDigits_le (by decide)).2 (digits digit (by simp))
    have text : joinedOnce value [digit] = toDigits value ++ '.' :: toDigits digit := by
      simp [joinedOnce, pointed, spaced, following]
    rw [text]
    exact value_pointed (ascii_toDigits value) (ascii_toDigits digit) (by rw [List.length_append]; omega)
  next =>
    obtain ⟨digit, rest, rfl⟩ := List.exists_cons_of_ne_nil present
    have text : joinedOnce value (digit :: rest) =
        (toDigits value ++ '.' :: toDigits digit) ++ following (rest.map toDigits) := by
      simp [joinedOnce, pointed, spaced]
    rw [text]
    refine outcome_groups (.pointed (ascii_toDigits value) (ascii_toDigits digit)) (fun group member => ?_) ?_
    next =>
      obtain ⟨next, _, rfl⟩ := List.mem_map.1 member
      exact ascii_toDigits next
    next =>
      rintro none
      rw [List.map_eq_nil_iff] at none
      exact more (by rw [none]; rfl)

theorem calculatesAs_spokenDecimal_half :
    spokenDecimal 23 [5] = "twenty three point five" ∧ CalculatesAs "twenty three point five" "23.5" ∧
      exists answer, Evaluation.value "23.5".toList = .ok answer := by
  have spoken : spokenDecimal 23 [5] = "twenty three point five" := by decide +kernel
  have joined : joinedOnce 23 [5] = "23.5".toList := by decide +kernel
  obtain ⟨calculates, _, valued, _⟩ := calculatesAs_spokenDecimal 23 [5] (by decide) (by decide) (by decide)
  rw [spoken, joined] at calculates
  rw [joined] at valued
  exact ⟨spoken, calculates, valued rfl⟩

theorem spokenDecimal_apart :
    spokenDecimal 3 [1, 4] = "three point one four" ∧ normalize "three point one four" true = .ok "3.1 4" ∧
      normalize "three point one four" true ≠ .ok "3.14" ∧
      outcome (Evaluation.value "3.1 4".toList) = .error .malformed := by
  have spoken : spokenDecimal 3 [1, 4] = "three point one four" := by decide +kernel
  have normalized : normalize "three point one four" true = .ok "3.1 4" := by decide +kernel
  have literal : Literal "3.1".toList 31 (-1) :=
    @Literal.pointed ['3'] ['1'] ⟨by decide, by decide⟩ ⟨by decide, by decide⟩
  have malformed := @outcome_groups _ [['4']] _ _ literal (by simpa using ⟨by decide, by decide⟩) (by simp)
  exact ⟨spoken, normalized, by rw [normalized]; decide, malformed⟩

end Outcomes

end SpokenArithmetic.Phrase

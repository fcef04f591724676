import Mathlib.Logic.Function.Iterate
import SpokenArithmetic.Proofs.Arithmetic.Digits
import SpokenArithmetic.Proofs.Lexing.Replacing

set_option autoImplicit false

namespace SpokenArithmetic.Phrase

open Number Text Token

section Matches

def IsGap (gap : List Char) : Prop :=
  gap ≠ [] ∧ forall c, c ∈ gap -> isSpace c = true

theorem IsGap.head {gap : List Char} (isGap : IsGap gap) {holds : Char -> Bool}
    (other : forall c, isSpace c = true -> holds c = false) (rest : List Char) :
    (gap ++ rest).head?.any holds = false := by
  obtain ⟨present, all⟩ := isGap
  cases gap with
  | nil => exact absurd rfl present
  | cons c gap => exact other c (all c List.mem_cons_self)

theorem not_space_of_isDigit {c : Char} (digit : isDigit c = true) : isSpace c = false := by
  cases space : isSpace c with
  | false => rfl
  | true =>
    have noDigit := (space_cases space).1
    rw [digit] at noDigit
    cases noDigit

theorem IsDigits.noSpace {digits : List Char} (isDigits : IsDigits digits) (rest : List Char) :
    (digits ++ rest).head?.any isSpace = false := by
  obtain ⟨present, all⟩ := isDigits
  cases digits with
  | nil => exact absurd rfl present
  | cons c digits => exact not_space_of_isDigit (all c List.mem_cons_self)

theorem gap?_eq_some {text rest : List Char} :
    gap? text = some rest ↔
      exists gap, text = gap ++ rest ∧ IsGap gap ∧ rest.head?.any isSpace = false := by
  unfold gap?
  constructor
  next =>
    intro found
    split at found
    next starts =>
      obtain ⟨gap, taken⟩ : exists gap, text.takeWhile isSpace = gap := ⟨_, rfl⟩
      obtain ⟨parts, all, ends⟩ := span_iff.1 ⟨taken, Option.some.inj found⟩
      refine ⟨gap, parts, ⟨?_, all⟩, ends⟩
      rintro rfl
      rw [parts, List.nil_append, ends] at starts
      cases starts
    next => cases found
  next =>
    rintro ⟨gap, rfl, ⟨present, all⟩, ends⟩
    have starts : (gap ++ rest).head?.any isSpace = true := by
      cases gap with
      | nil => exact absurd rfl present
      | cons c gap => exact all c List.mem_cons_self
    rw [if_pos starts]
    exact congrArg some (span_iff.2 ⟨rfl, all, ends⟩).2

theorem isDigits_scale (zeros : Nat) : IsDigits (scale zeros) := by
  refine ⟨by simp [scale], fun c member => ?_⟩
  rcases List.mem_cons.1 member with rfl | zero
  next => decide
  next =>
    obtain rfl := (List.mem_replicate.1 zero).2
    decide

def ScaledParts (zeros : Nat) (before : Option Char) (group parts : List Char) : Prop :=
  before.any isDigitOrPoint = false ∧ IsDigits group ∧
    exists gap, IsGap gap ∧ parts = group ++ (gap ++ scale zeros)

theorem scaled_eq_some {zeros : Nat} {before : Option Char} {text group behind : List Char} :
    scaled (scale zeros) before text = some (group, behind) ↔
      exists parts, text = parts ++ behind ∧ ScaledParts zeros before group parts ∧
        behind.head?.any isDigit = false := by
  unfold scaled Pattern.unlessBehind
  constructor
  next =>
    intro matched
    split at matched
    next => cases matched
    next free =>
      obtain ⟨⟨digits, rest⟩, found, matched⟩ := Option.bind_eq_some_iff.1 matched
      obtain ⟨next, gapFound, matched⟩ := Option.bind_eq_some_iff.1 matched
      obtain ⟨last, scaleFound, matched⟩ := Option.bind_eq_some_iff.1 matched
      split at matched
      next => cases matched
      next ends =>
        obtain ⟨rfl, rfl⟩ := Prod.mk.inj (Option.some.inj matched)
        obtain ⟨rfl, isDigits, _⟩ := digits?_eq_some.1 found
        obtain ⟨gap, parts, isGap, _⟩ := gap?_eq_some.1 gapFound
        obtain rfl := after?_eq_some.1 scaleFound
        refine ⟨_, ?_, ⟨by simpa using free, isDigits, gap, isGap, rfl⟩, by simpa using ends⟩
        rw [parts]
        simp
  next =>
    rintro ⟨parts, rfl, ⟨free, isDigits, gap, isGap, rfl⟩, ends⟩
    have first := digits?_eq_some.2 ⟨rfl, isDigits,
      isGap.head (fun c space => (space_cases space).1) (scale zeros ++ behind)⟩
    have second := gap?_eq_some.2 ⟨gap, rfl, isGap, IsDigits.noSpace (isDigits_scale zeros) behind⟩
    have third : after? (scale zeros) (scale zeros ++ behind) = some behind := after?_eq_some.2 rfl
    simp [free, first, second, third, ends, List.append_assoc]

def NeighbourParts (before : Option Char) (found : Neighbours) (parts : List Char) : Prop :=
  before.any isDigitOrPoint = false ∧ IsDigits found.high ∧ IsGap found.gap ∧ IsDigits found.low ∧
    2 <= found.high.length ∧ parts = found.high ++ (found.gap ++ found.low)

theorem neighbours_eq_some {before : Option Char} {text behind : List Char} {found : Neighbours} :
    neighbours before text = some (found, behind) ↔
      exists parts, text = parts ++ behind ∧ NeighbourParts before found parts ∧
        behind.head?.any isDigitOrPoint = false := by
  unfold neighbours Pattern.unlessBehind
  constructor
  next =>
    intro matched
    split at matched
    next => cases matched
    next free =>
      obtain ⟨⟨high, rest⟩, highFound, matched⟩ := Option.bind_eq_some_iff.1 matched
      obtain ⟨next, gapFound, matched⟩ := Option.bind_eq_some_iff.1 matched
      obtain ⟨⟨low, last⟩, lowFound, matched⟩ := Option.bind_eq_some_iff.1 matched
      dsimp only at gapFound lowFound matched
      split at matched
      next => cases matched
      next fits =>
        obtain ⟨rfl, rfl⟩ := Prod.mk.inj (Option.some.inj matched)
        obtain ⟨rfl, isHigh, _⟩ := digits?_eq_some.1 highFound
        obtain ⟨gap, rfl, isGap, ends⟩ := gap?_eq_some.1 gapFound
        obtain ⟨rfl, isLow, _⟩ := digits?_eq_some.1 lowFound
        have taken := (span_iff.2 ⟨rfl, isGap.2, ends⟩).1
        simp only [Bool.or_eq_true, decide_eq_true_eq, not_or, Nat.not_lt, Bool.not_eq_true] at fits
        refine ⟨_, ?_, ⟨by simpa using free, isHigh, ?_, isLow, fits.1, rfl⟩, fits.2⟩
        next => simp [taken]
        next => simpa only [taken] using isGap
  next =>
    rintro ⟨parts, rfl, ⟨free, isHigh, isGap, isLow, long, rfl⟩, ends⟩
    obtain ⟨high, gap, low⟩ := found
    have noDigit : behind.head?.any isDigit = false := by
      cases behind with
      | nil => rfl
      | cons c behind =>
        have other : isDigitOrPoint c = false := ends
        simp only [isDigitOrPoint, Bool.or_eq_false_iff] at other
        exact other.1
    have first := digits?_eq_some.2 ⟨rfl, isHigh,
      isGap.head (fun c space => (space_cases space).1) (low ++ behind)⟩
    have noSpace := IsDigits.noSpace isLow behind
    have second := gap?_eq_some.2 ⟨gap, rfl, isGap, noSpace⟩
    have third := digits?_eq_some.2 ⟨rfl, isLow, noDigit⟩
    have taken := (span_iff.2 ⟨rfl, isGap.2, noSpace⟩).1
    have enough : decide (high.length < 2) = false := decide_eq_false (Nat.not_lt.2 long)
    dsimp only at first second third taken
    simp only [List.append_assoc, free, Bool.false_eq_true, if_false, Option.bind_eq_bind, Option.bind_some,
      first, second, third, taken, enough, ends, Bool.or_self]

end Matches

section Lengths

theorem toDigits_scaled {group : List Char} (isDigits : IsDigits group) (zeros : Nat) :
    (toDigits (ofDigits group * tenTo zeros)).length <= group.length + zeros := by
  have some := List.length_pos_iff.2 isDigits.1
  have below : ofDigits group * tenTo zeros < 10 ^ (group.length + zeros) := by
    rw [Nat.pow_add]
    exact Nat.mul_lt_mul_of_pos_right (ofDigits_lt group) (Nat.pow_pos (by decide))
  exact (length_toDigits_le (by omega)).2 below

theorem toDigits_filled {found : Neighbours} (isDigits : IsDigits found.high) (fills : found.fills = true) :
    (toDigits found.sum).length <= found.high.length :=
  (length_toDigits_le (List.length_pos_iff.2 isDigits.1)).2 (sum_lt (by simpa [Neighbours.fills] using fills))

theorem shortens_scaled (zeros : Nat) :
    (scaled (scale zeros)).Shortens fun group => toDigits (ofDigits group * tenTo zeros) := by
  intro before c rest group behind matched
  obtain ⟨parts, same, ⟨_, isDigits, gap, ⟨gapPresent, _⟩, rfl⟩, _⟩ := scaled_eq_some.1 matched
  have lengths := congrArg List.length same
  simp only [List.length_cons, List.length_append, scale, List.length_replicate] at lengths
  have gapSome := List.length_pos_iff.2 gapPresent
  have short := toDigits_scaled isDigits zeros
  refine ⟨by omega, .inr ?_⟩
  dsimp only
  omega

theorem shortens_neighbours : neighbours.Shortens Neighbours.merged := by
  intro before c rest found behind matched
  obtain ⟨parts, same, ⟨_, isHigh, ⟨gapPresent, _⟩, ⟨lowPresent, _⟩, _, rfl⟩, _⟩ :=
    neighbours_eq_some.1 matched
  have lengths := congrArg List.length same
  simp only [List.length_cons, List.length_append] at lengths
  have some := List.length_pos_iff.2 isHigh.1
  have gapSome := List.length_pos_iff.2 gapPresent
  have lowSome := List.length_pos_iff.2 lowPresent
  refine ⟨by omega, ?_⟩
  unfold Neighbours.merged
  split
  next fills =>
    have short := toDigits_filled isHigh fills
    exact .inr (by omega)
  next =>
    split
    next =>
      refine .inr ?_
      rw [List.length_append]
      omega
    next =>
      refine .inl ?_
      rw [same]
      simp

theorem multiplyScale_length (zeros : Nat) (text : List Char) :
    (multiplyScale zeros text).length <= text.length := by
  rcases Pattern.replace_shortens (shortens_scaled zeros) text with same | shorter
  next => exact Nat.le_of_eq (congrArg List.length same)
  next => exact Nat.le_of_lt shorter

theorem mergeOnce_shortens (text : List Char) :
    mergeOnce text = text ∨ (mergeOnce text).length < text.length :=
  Pattern.replace_shortens shortens_neighbours text

theorem mergeOnce_length (text : List Char) : (mergeOnce text).length <= text.length := by
  rcases mergeOnce_shortens text with same | shorter
  next => exact Nat.le_of_eq (congrArg List.length same)
  next => exact Nat.le_of_lt shorter

theorem mergeAll_eq_iterate (rounds : Nat) (text : List Char) :
    mergeAll rounds text = mergeOnce^[rounds] text := by
  induction rounds generalizing text with
  | zero => rfl
  | succ rounds ih =>
    rw [mergeAll, Function.iterate_succ_apply]
    split
    next same => rw [same, Function.iterate_fixed same]
    next => exact ih (mergeOnce text)

theorem mergeOnce_iterate_stable {rounds : Nat} {text : List Char} (enough : text.length <= rounds) :
    mergeOnce^[rounds] text = mergeOnce^[text.length] text := by
  generalize bound : text.length = size at enough ⊢
  induction size using Nat.strongRecOn generalizing text rounds with
  | ind size ih =>
    subst bound
    rcases mergeOnce_shortens text with same | shorter
    next => rw [Function.iterate_fixed same, Function.iterate_fixed same]
    next =>
      obtain ⟨rounds, rfl⟩ : exists others, rounds = others + 1 := ⟨rounds - 1, by omega⟩
      obtain ⟨size, count⟩ : exists size, text.length = size + 1 := ⟨text.length - 1, by omega⟩
      have first := @ih _ shorter rounds _ rfl (by omega)
      have second := @ih _ shorter size _ rfl (by omega)
      rw [count, Function.iterate_succ_apply, Function.iterate_succ_apply, first, second]

theorem iterate_length (rounds : Nat) (text : List Char) :
    (mergeOnce^[rounds] text).length <= text.length := by
  induction rounds generalizing text with
  | zero => exact Nat.le_refl _
  | succ rounds ih => exact Nat.le_trans (ih (mergeOnce text)) (mergeOnce_length text)

theorem compound_length (text : List Char) : (compound text).length <= text.length := by
  unfold compound
  rw [mergeAll_eq_iterate]
  exact Nat.le_trans (iterate_length _ _)
    (Nat.le_trans (multiplyScale_length 3 _) (multiplyScale_length 2 text))

end Lengths

section Overlong

def digitCount (text : List Char) : Nat :=
  text.countP isDigit

theorem checkReading_none {digits : List Char} (short : digits.length <= maxDigits) :
    checkReading digits = none :=
  if_neg (Nat.not_lt.2 short)

theorem digitCount_digits {digits : List Char} (isDigits : IsDigits digits) : digitCount digits = digits.length :=
  List.countP_eq_length.2 isDigits.2

theorem digitCount_scale (zeros : Nat) : digitCount (scale zeros) = zeros + 1 :=
  (digitCount_digits (isDigits_scale zeros)).trans (by simp [scale])

theorem digitCount_length (text : List Char) : digitCount text <= text.length :=
  List.countP_le_length

theorem digitCount_suffix {text tail : List Char} (suffix : tail <:+ text) : digitCount tail <= digitCount text :=
  suffix.sublist.countP_le

theorem scaled_digits {zeros : Nat} {before : Option Char} {text group behind : List Char}
    (matched : scaled (scale zeros) before text = some (group, behind)) :
    group.length + zeros < digitCount text ∧
      ofDigits group * tenTo zeros < 10 ^ (group.length + zeros) := by
  obtain ⟨parts, rfl, ⟨_, isDigits, gap, _, rfl⟩, _⟩ := scaled_eq_some.1 matched
  constructor
  next =>
    have counted := digitCount_digits isDigits
    have scaleCounted := digitCount_scale zeros
    simp only [digitCount, List.countP_append] at counted scaleCounted ⊢
    omega
  next =>
    rw [Nat.pow_add]
    exact Nat.mul_lt_mul_of_pos_right (ofDigits_lt group) (Nat.pow_pos (by decide))

theorem neighbours_digits {before : Option Char} {text behind : List Char} {found : Neighbours}
    (matched : neighbours before text = some (found, behind)) :
    found.high.length + found.low.length <= digitCount text := by
  obtain ⟨parts, rfl, ⟨_, isHigh, _, isLow, _, rfl⟩, _⟩ := neighbours_eq_some.1 matched
  have high := digitCount_digits isHigh
  have low := digitCount_digits isLow
  simp only [digitCount, List.countP_append] at high low ⊢
  omega

theorem scaleOverlong?_none (zeros : Nat) {text : List Char} (few : digitCount text <= maxDigits) :
    scaleOverlong? zeros text = none := by
  rw [scaleOverlong?, Pattern.complaint?_eq, List.findSome?_eq_none_iff]
  intro group member
  obtain ⟨before, rest, behind, suffix, matched⟩ := Pattern.mem_matchesOf member
  obtain ⟨inside, below⟩ := scaled_digits matched
  have bound := digitCount_suffix suffix
  rw [checkReading_none (by omega), checkWriting_none below (by omega)]
  rfl

theorem neighboursOverlong?_none {text : List Char} (few : digitCount text <= maxDigits) :
    neighbours.complaint? Neighbours.overlong? text = none := by
  rw [Pattern.complaint?_eq, List.findSome?_eq_none_iff]
  intro found member
  obtain ⟨before, rest, behind, suffix, matched⟩ := Pattern.mem_matchesOf member
  have inside := neighbours_digits matched
  have bound := digitCount_suffix suffix
  unfold Neighbours.overlong?
  split
  next fills =>
    have below : found.sum < 10 ^ found.high.length := sum_lt (by simpa [Neighbours.fills] using fills)
    rw [checkReading_none (by omega), checkReading_none (by omega), checkWriting_none below (by omega)]
    rfl
  next => rfl

end Overlong

section Walls

structure Wall (wall : List Char) : Prop where
  noDigit : forall c, c ∈ wall -> isDigit c = false
  solid : exists c, c ∈ wall ∧ isSpace c = false
  starts : wall.head?.any isDigitOrPoint = false
  ends : wall.getLast?.any isDigitOrPoint = false

theorem Wall.present {wall : List Char} (isWall : Wall wall) : wall ≠ [] := by
  obtain ⟨c, member, _⟩ := isWall.solid
  exact List.ne_nil_of_mem member

theorem parts_before_wall {wall : List Char} (isWall : Wall wall) {parts behind stretch right : List Char}
    (chars : forall c, c ∈ parts -> isDigit c = true ∨ isSpace c = true)
    (last : parts.getLast?.any isDigit = true) (same : stretch ++ (wall ++ right) = parts ++ behind) :
    exists rest, stretch = parts ++ rest ∧ behind = rest ++ (wall ++ right) := by
  rcases List.append_eq_append_iff.1 same with ⟨cut, rfl, tail⟩ | ⟨rest, rfl, tail⟩
  next =>
    cases cut with
    | nil => exact ⟨[], by simp, tail.symm⟩
    | cons first cut =>
      -- The match would end inside the wall, or go beyond what is solid in it.
      have end_ : (first :: cut).getLast?.any isDigit = true := by
        rwa [List.getLast?_append, List.getLast?_eq_some_getLast (List.cons_ne_nil first cut)] at last
      rcases List.append_eq_append_iff.1 tail with ⟨rest, cutParts, _⟩ | ⟨rest, wallParts, _⟩
      next =>
        obtain ⟨c, member, noSpace⟩ := isWall.solid
        have noDigit := isWall.noDigit c member
        have kind := chars c (List.mem_append_right _ (by rw [cutParts]; exact List.mem_append_left _ member))
        simp [noDigit, noSpace] at kind
      next =>
        have member : (first :: cut).getLast (List.cons_ne_nil first cut) ∈ wall := by
          rw [wallParts]
          exact List.mem_append_left _ (List.getLast_mem _)
        rw [List.getLast?_eq_some_getLast (List.cons_ne_nil first cut), Option.any_some,
          isWall.noDigit _ member] at end_
        cases end_
  next => exact ⟨rest, rfl, tail⟩

structure Grouping {A : Type} (pattern : Pattern A) : Prop where
  other : forall before c tail, isDigit c = false -> pattern before (c :: tail) = none
  fresh : forall before text, before.any isDigitOrPoint = false -> pattern before text = pattern none text
  local_ : forall wall right, Wall wall -> pattern.Local (wall ++ right)

section Patterns

variable {A : Type} {pattern : Pattern A}

theorem local_of_parts {wall : List Char} (isWall : Wall wall)
    {fits : Option Char -> A -> List Char -> Prop} {ends : Char -> Bool}
    (stops : wall.head?.any ends = false)
    (iff : forall before text found behind, pattern before text = some (found, behind) ↔
      exists parts, text = parts ++ behind ∧ fits before found parts ∧ behind.head?.any ends = false)
    (inside : forall before found parts, fits before found parts ->
      (forall c, c ∈ parts -> isDigit c = true ∨ isSpace c = true) ∧ parts.getLast?.any isDigit = true)
    (right : List Char) : pattern.Local (wall ++ right) := by
  have head : (wall ++ right).head?.any ends = false := by
    obtain ⟨c, wall, rfl⟩ := List.exists_cons_of_ne_nil isWall.present
    exact stops
  intro before c rest
  cases alone : pattern before (c :: rest) with
  | some pair =>
    obtain ⟨parts, same, fit, stop⟩ := (iff _ _ _ _).1 alone
    refine (iff _ _ _ _).2 ⟨parts, by rw [same, List.append_assoc], fit, ?_⟩
    cases behind : pair.2 with
    | nil => exact head
    | cons d behind => rwa [behind] at stop
  | none =>
    cases together : pattern before (c :: rest ++ (wall ++ right)) with
    | none => rfl
    | some pair =>
      obtain ⟨parts, same, fit, stop⟩ := (iff _ _ _ _).1 together
      obtain ⟨chars, last⟩ := inside _ _ _ fit
      obtain ⟨behind, stretch, left⟩ := parts_before_wall isWall chars last same
      have found : pattern before (c :: rest) = some (pair.1, behind) := by
        refine (iff _ _ _ _).2 ⟨parts, stretch, fit, ?_⟩
        cases behind with
        | nil => rfl
        | cons d behind => rwa [left] at stop
      rw [alone] at found
      cases found

theorem Grouping.passes (grouping : Grouping pattern) {front : List Char}
    (noDigit : forall c, c ∈ front -> isDigit c = false) (before : Option Char) (rest : List Char) :
    pattern.Passes before front rest :=
  Pattern.passes_of_unmatched fun _ c tail member => grouping.other _ c tail (noDigit c member)

theorem lastBehind_free {front : List Char} (ends : front.getLast?.any isDigitOrPoint = false) :
    (lastBehind none front).any isDigitOrPoint = false := by
  rwa [lastBehind_none]

theorem Grouping.replace_lead (grouping : Grouping pattern) {render : A -> List Char} {front : List Char}
    (noDigit : forall c, c ∈ front -> isDigit c = false)
    (ends : front.getLast?.any isDigitOrPoint = false) (text : List Char) :
    pattern.replace render (front ++ text) = front ++ pattern.replace render text := by
  rw [Pattern.replace, Pattern.replaceFrom_passed (grouping.passes noDigit none text)]
  cases text with
  | nil => rfl
  | cons c text =>
    have fresh := grouping.fresh _ (c :: text) (lastBehind_free ends)
    rw [Pattern.replaceFrom, fresh]
    rfl

theorem Grouping.replace_wall (grouping : Grouping pattern) {render : A -> List Char} {wall : List Char}
    (isWall : Wall wall) (left right : List Char) :
    pattern.replace render (left ++ (wall ++ right)) =
      pattern.replace render left ++ (wall ++ pattern.replace render right) := by
  have lead := @Grouping.replace_lead _ _ grouping render _ isWall.noDigit isWall.ends right
  have passes (before : Option Char) : pattern.Passes before wall right :=
    grouping.passes isWall.noDigit before right
  rw [Pattern.replace, Pattern.replaceFrom_passed (passes none)] at lead
  unfold Pattern.replace
  rw [Pattern.replaceFrom_local (grouping.local_ wall right isWall) (Nat.zero_le _),
    Pattern.replaceFrom_passed (passes _), lastBehind_eq_getLast? isWall.present]
  rw [lastBehind_eq_getLast? isWall.present] at lead
  exact congrArg (_ ++ ·) lead

theorem Grouping.complaint?_lead {B : Type} (grouping : Grouping pattern) {complain : A -> Option B}
    {front : List Char} (noDigit : forall c, c ∈ front -> isDigit c = false)
    (ends : front.getLast?.any isDigitOrPoint = false) (text : List Char) :
    pattern.complaint? complain (front ++ text) = pattern.complaint? complain text := by
  rw [Pattern.complaint?, Pattern.complaintFrom_passed (grouping.passes noDigit none text)]
  cases text with
  | nil =>
    rw [Pattern.complaintFrom]
    rfl
  | cons c text =>
    have fresh := grouping.fresh _ (c :: text) (lastBehind_free ends)
    rw [Pattern.complaint?, Pattern.complaintFrom, Pattern.complaintFrom, fresh]

theorem Grouping.complaint?_wall {B : Type} (grouping : Grouping pattern) {complain : A -> Option B}
    {wall : List Char} (isWall : Wall wall) (left right : List Char) :
    pattern.complaint? complain (left ++ (wall ++ right)) =
      (pattern.complaint? complain left <|> pattern.complaint? complain right) := by
  have lead := @Grouping.complaint?_lead _ _ _ grouping complain _ isWall.noDigit isWall.ends right
  have passes (before : Option Char) : pattern.Passes before wall right :=
    grouping.passes isWall.noDigit before right
  rw [Pattern.complaint?, Pattern.complaintFrom_passed (passes none),
    lastBehind_eq_getLast? isWall.present] at lead
  unfold Pattern.complaint? at lead ⊢
  rw [Pattern.complaintFrom_local (grouping.local_ wall right isWall) (Nat.zero_le _),
    Pattern.complaintFrom_passed (passes _), lastBehind_eq_getLast? isWall.present, lead]

end Patterns

theorem getLast?_append_digits {front digits : List Char} (isDigits : IsDigits digits) :
    (front ++ digits).getLast?.any isDigit = true := by
  obtain ⟨present, all⟩ := isDigits
  rw [List.getLast?_append, List.getLast?_eq_some_getLast present]
  exact all _ (List.getLast_mem present)

theorem scaledParts_chars {zeros : Nat} {before : Option Char} {group parts : List Char}
    (fits : ScaledParts zeros before group parts) :
    (forall c, c ∈ parts -> isDigit c = true ∨ isSpace c = true) ∧ parts.getLast?.any isDigit = true := by
  obtain ⟨_, isDigits, gap, isGap, rfl⟩ := fits
  constructor
  next =>
    intro c member
    simp only [List.mem_append] at member
    rcases member with inGroup | inGap | inScale
    next => exact .inl (isDigits.2 c inGroup)
    next => exact .inr (isGap.2 c inGap)
    next => exact .inl ((isDigits_scale zeros).2 c inScale)
  next =>
    rw [← List.append_assoc]
    exact getLast?_append_digits (isDigits_scale zeros)

theorem neighbourParts_chars {before : Option Char} {found : Neighbours} {parts : List Char}
    (fits : NeighbourParts before found parts) :
    (forall c, c ∈ parts -> isDigit c = true ∨ isSpace c = true) ∧ parts.getLast?.any isDigit = true := by
  obtain ⟨_, isHigh, isGap, isLow, _, rfl⟩ := fits
  constructor
  next =>
    intro c member
    simp only [List.mem_append] at member
    rcases member with inHigh | inGap | inLow
    next => exact .inl (isHigh.2 c inHigh)
    next => exact .inr (isGap.2 c inGap)
    next => exact .inl (isLow.2 c inLow)
  next =>
    rw [← List.append_assoc]
    exact getLast?_append_digits isLow

theorem scaled_other {zeros : Nat} {before : Option Char} {c : Char} {tail : List Char}
    (other : isDigit c = false) : scaled (scale zeros) before (c :: tail) = none := by
  simp [scaled, Pattern.unlessBehind, digits?, other]

theorem neighbours_other {before : Option Char} {c : Char} {tail : List Char}
    (other : isDigit c = false) : neighbours before (c :: tail) = none := by
  simp [neighbours, Pattern.unlessBehind, digits?, other]

theorem digit_of_point {text : List Char} (other : text.head?.any isDigitOrPoint = false) :
    text.head?.any isDigit = false := by
  cases text with
  | nil => rfl
  | cons c text =>
    have both : isDigitOrPoint c = false := other
    simp only [isDigitOrPoint, Bool.or_eq_false_iff] at both
    exact both.1

theorem grouping_scaled (zeros : Nat) : Grouping (scaled (scale zeros)) where
  other _ _ _ other := scaled_other other
  fresh before text free := by
    unfold scaled Pattern.unlessBehind
    rw [free]
    rfl
  local_ _ right isWall :=
    @local_of_parts _ (scaled (scale zeros)) _ isWall (ScaledParts zeros) isDigit
      (digit_of_point isWall.starts) (fun _ _ _ _ => scaled_eq_some) (fun _ _ _ => scaledParts_chars) right

theorem grouping_neighbours : Grouping neighbours where
  other _ _ _ other := neighbours_other other
  fresh before text free := by
    unfold neighbours Pattern.unlessBehind
    rw [free]
    rfl
  local_ _ right isWall :=
    @local_of_parts _ neighbours _ isWall NeighbourParts isDigitOrPoint isWall.starts
      (fun _ _ _ _ => neighbours_eq_some) (fun _ _ _ => neighbourParts_chars) right

end Walls

section Compounding

variable {front wall : List Char}

theorem mergeOnce_iterate_lead (noDigit : forall c, c ∈ front -> isDigit c = false)
    (ends : front.getLast?.any isDigitOrPoint = false) (rounds : Nat) (text : List Char) :
    mergeOnce^[rounds] (front ++ text) = front ++ mergeOnce^[rounds] text := by
  induction rounds generalizing text with
  | zero => rfl
  | succ rounds ih =>
    have once : mergeOnce (front ++ text) = front ++ mergeOnce text :=
      grouping_neighbours.replace_lead noDigit ends text
    simp only [Function.iterate_succ_apply]
    rw [once, ih]

theorem mergeOnce_iterate_wall (isWall : Wall wall) (rounds : Nat) (left right : List Char) :
    mergeOnce^[rounds] (left ++ (wall ++ right)) =
      mergeOnce^[rounds] left ++ (wall ++ mergeOnce^[rounds] right) := by
  induction rounds generalizing left right with
  | zero => rfl
  | succ rounds ih =>
    have once : mergeOnce (left ++ (wall ++ right)) = mergeOnce left ++ (wall ++ mergeOnce right) :=
      grouping_neighbours.replace_wall isWall left right
    simp only [Function.iterate_succ_apply]
    rw [once, ih]

theorem multiplyScale_lead (noDigit : forall c, c ∈ front -> isDigit c = false)
    (ends : front.getLast?.any isDigitOrPoint = false) (zeros : Nat) (text : List Char) :
    multiplyScale zeros (front ++ text) = front ++ multiplyScale zeros text :=
  (grouping_scaled zeros).replace_lead noDigit ends text

theorem multiplyScale_wall (isWall : Wall wall) (zeros : Nat) (left right : List Char) :
    multiplyScale zeros (left ++ (wall ++ right)) =
      multiplyScale zeros left ++ (wall ++ multiplyScale zeros right) :=
  (grouping_scaled zeros).replace_wall isWall left right

theorem compound_lead (noDigit : forall c, c ∈ front -> isDigit c = false)
    (ends : front.getLast?.any isDigitOrPoint = false) (text : List Char) :
    compound (front ++ text) = front ++ compound text := by
  unfold compound
  dsimp only
  rw [multiplyScale_lead noDigit ends, multiplyScale_lead noDigit ends]
  generalize multiplyScale 3 (multiplyScale 2 text) = scaledUp
  simp only [mergeAll_eq_iterate, mergeOnce_iterate_lead noDigit ends]
  rw [@mergeOnce_iterate_stable _ scaledUp]
  simp only [List.length_append]
  omega

theorem compound_wall (isWall : Wall wall) (left right : List Char) :
    compound (left ++ (wall ++ right)) = compound left ++ (wall ++ compound right) := by
  unfold compound
  dsimp only
  rw [multiplyScale_wall isWall, multiplyScale_wall isWall]
  generalize multiplyScale 3 (multiplyScale 2 left) = first
  generalize multiplyScale 3 (multiplyScale 2 right) = second
  simp only [mergeAll_eq_iterate, mergeOnce_iterate_wall isWall]
  rw [@mergeOnce_iterate_stable _ first, @mergeOnce_iterate_stable _ second]
  next =>
    simp only [List.length_append]
    omega
  next =>
    simp only [List.length_append]
    omega

theorem scaled_needs {zeros : Nat} {before : Option Char} {text group behind : List Char}
    (matched : scaled (scale zeros) before text = some (group, behind)) :
    exists c, c ∈ text ∧ isSpace c = true := by
  obtain ⟨_, rfl, ⟨_, _, gap, ⟨present, all⟩, rfl⟩, _⟩ := scaled_eq_some.1 matched
  obtain ⟨c, gap, rfl⟩ := List.exists_cons_of_ne_nil present
  exact ⟨c, by simp, all c List.mem_cons_self⟩

theorem neighbours_needs {before : Option Char} {text behind : List Char} {found : Neighbours}
    (matched : neighbours before text = some (found, behind)) : exists c, c ∈ text ∧ isSpace c = true := by
  obtain ⟨_, rfl, ⟨_, _, ⟨present, all⟩, _, _, rfl⟩, _⟩ := neighbours_eq_some.1 matched
  obtain ⟨c, rest, gap⟩ := List.exists_cons_of_ne_nil present
  rw [gap] at all
  exact ⟨c, by simp [gap], all c List.mem_cons_self⟩

theorem multiplyScale_solid (zeros : Nat) {text : List Char}
    (solid : forall c, c ∈ text -> isSpace c = false) : multiplyScale zeros text = text :=
  Pattern.replace_of_needs (fun _ _ _ _ matched => scaled_needs matched) fun c member => by
    simp [solid c member]

theorem mergeOnce_solid {text : List Char} (solid : forall c, c ∈ text -> isSpace c = false) :
    mergeOnce text = text :=
  Pattern.replace_of_needs (fun _ _ _ _ matched => neighbours_needs matched) fun c member => by
    simp [solid c member]

theorem compound_solid {text : List Char} (solid : forall c, c ∈ text -> isSpace c = false) :
    compound text = text := by
  unfold compound
  rw [multiplyScale_solid 2 solid, multiplyScale_solid 3 solid]
  dsimp only
  rw [mergeAll_eq_iterate, Function.iterate_fixed (mergeOnce_solid solid)]

end Compounding

section Quiet

structure Quiet (text : List Char) : Prop where
  hundreds : scaleOverlong? 2 text = none
  thousands : scaleOverlong? 3 (multiplyScale 2 text) = none
  merging : forall rounds, neighbours.complaint? Neighbours.overlong?
    (mergeOnce^[rounds] (multiplyScale 3 (multiplyScale 2 text))) = none

theorem Quiet.overlong {text : List Char} (quiet : Quiet text) : compoundOverlong? text = none := by
  have merging : forall rounds text,
      (forall rounds, neighbours.complaint? Neighbours.overlong? (mergeOnce^[rounds] text) = none) ->
        mergeOverlong? rounds text = none := by
    intro rounds
    induction rounds with
    | zero => exact fun _ _ => rfl
    | succ rounds ih =>
      intro text each
      have rest := ih (mergeOnce text) fun rounds => each (rounds + 1)
      have now : neighbours.complaint? Neighbours.overlong? text = none := each 0
      rw [mergeOverlong?, now, rest]
      split <;> rfl
  unfold compoundOverlong?
  dsimp only
  rw [quiet.hundreds, quiet.thousands, merging _ _ quiet.merging]
  rfl

theorem merging_of_overlong {rounds : Nat} {text : List Char} (enough : text.length <= rounds)
    (none : mergeOverlong? rounds text = none) (round : Nat) :
    neighbours.complaint? Neighbours.overlong? (mergeOnce^[round] text) = Option.none := by
  induction rounds generalizing text round with
  | zero =>
    obtain rfl := List.length_eq_zero_iff.1 (Nat.le_zero.1 enough)
    have still : mergeOnce [] = [] := rfl
    rw [Function.iterate_fixed still]
    rfl
  | succ rounds ih =>
    rw [mergeOverlong?, Option.orElse_eq_orElse, Option.orElse_eq_or, Option.or_eq_none_iff] at none
    obtain ⟨now, later⟩ := none
    cases round with
    | zero => exact now
    | succ round =>
      rw [Function.iterate_succ_apply]
      split at later
      next same =>
        rw [same, Function.iterate_fixed same]
        exact now
      next changed =>
        rcases mergeOnce_shortens text with same | shorter
        next => exact absurd same changed
        next => exact ih (by omega) later round

theorem quiet_iff {text : List Char} : Quiet text ↔ compoundOverlong? text = none := by
  constructor
  next => exact Quiet.overlong
  next =>
    intro none
    simp only [compoundOverlong?, Option.orElse_eq_orElse, Option.orElse_eq_or, Option.or_eq_none_iff] at none
    obtain ⟨hundreds, thousands, merging⟩ := none
    exact ⟨hundreds, thousands, merging_of_overlong (Nat.le_refl _) merging⟩

theorem spares_scaled (zeros : Nat) :
    (scaled (scale zeros)).Spares (fun group => toDigits (ofDigits group * tenTo zeros)) isDigit := by
  intro before text group behind matched
  obtain ⟨parts, rfl, ⟨_, isDigits, gap, _, rfl⟩, _⟩ := scaled_eq_some.1 matched
  refine ⟨_, by simp [isDigits.1], rfl, ?_⟩
  have short := toDigits_scaled isDigits zeros
  have written := digitCount_length (toDigits (ofDigits group * tenTo zeros))
  have read := digitCount_digits isDigits
  have scaleRead := digitCount_scale zeros
  simp only [digitCount, List.countP_append] at written read scaleRead ⊢
  omega

theorem spares_neighbours : neighbours.Spares Neighbours.merged isDigit := by
  intro before text found behind matched
  obtain ⟨parts, rfl, ⟨_, isHigh, _, isLow, _, rfl⟩, _⟩ := neighbours_eq_some.1 matched
  refine ⟨_, by simp [isHigh.1], rfl, ?_⟩
  have high := digitCount_digits isHigh
  simp only [digitCount, List.countP_append] at high ⊢
  unfold Neighbours.merged
  split
  next fills =>
    have short := toDigits_filled isHigh fills
    have written := digitCount_length (toDigits found.sum)
    rw [digitCount] at written
    omega
  next =>
    split <;> simp only [List.countP_append] <;> omega

theorem digitCount_multiplyScale (zeros : Nat) (text : List Char) :
    digitCount (multiplyScale zeros text) <= digitCount text :=
  Pattern.replace_spares (spares_scaled zeros) text

theorem digitCount_iterate (rounds : Nat) (text : List Char) :
    digitCount (mergeOnce^[rounds] text) <= digitCount text := by
  induction rounds generalizing text with
  | zero => exact Nat.le_refl _
  | succ rounds ih => exact Nat.le_trans (ih (mergeOnce text)) (Pattern.replace_spares spares_neighbours text)

theorem digitCount_compound (text : List Char) : digitCount (compound text) <= digitCount text := by
  unfold compound
  rw [mergeAll_eq_iterate]
  exact Nat.le_trans (digitCount_iterate _ _)
    (Nat.le_trans (digitCount_multiplyScale 3 _) (digitCount_multiplyScale 2 text))

theorem quiet_few {text : List Char} (few : digitCount text <= maxDigits) : Quiet text := by
  have hundreds := Nat.le_trans (digitCount_multiplyScale 2 text) few
  have thousands := Nat.le_trans (digitCount_multiplyScale 3 _) hundreds
  exact {
    hundreds := scaleOverlong?_none 2 few
    thousands := scaleOverlong?_none 3 hundreds
    merging := fun rounds => neighboursOverlong?_none (Nat.le_trans (digitCount_iterate rounds _) thousands) }

theorem quiet_short {text : List Char} (short : text.length <= maxDigits) : Quiet text :=
  quiet_few (Nat.le_trans (digitCount_length text) short)

theorem compoundOverlong?_none {text : List Char} (short : text.length <= maxDigits) :
    compoundOverlong? text = none :=
  (quiet_short short).overlong

theorem quiet_solid {text : List Char} (solid : forall c, c ∈ text -> isSpace c = false) : Quiet text where
  hundreds := Pattern.complaint?_of_needs (fun _ _ _ _ matched => scaled_needs matched) fun c member => by
    simp [solid c member]
  thousands := by
    rw [multiplyScale_solid 2 solid]
    exact Pattern.complaint?_of_needs (fun _ _ _ _ matched => scaled_needs matched) fun c member => by
      simp [solid c member]
  merging rounds := by
    rw [multiplyScale_solid 2 solid, multiplyScale_solid 3 solid, Function.iterate_fixed (mergeOnce_solid solid)]
    exact Pattern.complaint?_of_needs (fun _ _ _ _ matched => neighbours_needs matched) fun c member => by
      simp [solid c member]

theorem Quiet.lead {front text : List Char} (quiet : Quiet text)
    (noDigit : forall c, c ∈ front -> isDigit c = false)
    (ends : front.getLast?.any isDigitOrPoint = false) : Quiet (front ++ text) where
  hundreds := ((grouping_scaled 2).complaint?_lead noDigit ends text).trans quiet.hundreds
  thousands := by
    rw [multiplyScale_lead noDigit ends]
    exact ((grouping_scaled 3).complaint?_lead noDigit ends _).trans quiet.thousands
  merging rounds := by
    rw [multiplyScale_lead noDigit ends, multiplyScale_lead noDigit ends, mergeOnce_iterate_lead noDigit ends]
    exact (grouping_neighbours.complaint?_lead noDigit ends _).trans (quiet.merging rounds)

theorem Quiet.wall {wall left right : List Char} (quiet : Quiet left) (other : Quiet right)
    (isWall : Wall wall) : Quiet (left ++ (wall ++ right)) where
  hundreds := by
    have both := @Grouping.complaint?_wall _ _ _ (grouping_scaled 2)
      (fun group => checkReading group <|> checkWriting (ofDigits group * tenTo 2)) _ isWall left right
    rw [scaleOverlong?, both]
    exact (congrArg₂ (· <|> ·) quiet.hundreds other.hundreds)
  thousands := by
    have both := @Grouping.complaint?_wall _ _ _ (grouping_scaled 3)
      (fun group => checkReading group <|> checkWriting (ofDigits group * tenTo 3)) _ isWall
      (multiplyScale 2 left) (multiplyScale 2 right)
    rw [multiplyScale_wall isWall, scaleOverlong?, both]
    exact (congrArg₂ (· <|> ·) quiet.thousands other.thousands)
  merging rounds := by
    rw [multiplyScale_wall isWall, multiplyScale_wall isWall, mergeOnce_iterate_wall isWall,
      grouping_neighbours.complaint?_wall isWall, quiet.merging rounds, other.merging rounds]
    rfl

end Quiet

section Dividing

def divider (symbol : Char) : List Char :=
  [' ', ' ', symbol, ' ', ' ']

variable {symbol : Char}

structure Divides (symbol : Char) : Prop where
  noDigit : isDigit symbol = false
  noSpace : isSpace symbol = false

theorem Divides.wall (divides : Divides symbol) : Wall (divider symbol) where
  noDigit := by
    have space : isDigit ' ' = false := by decide
    simp [divider, space, divides.noDigit]
  solid := ⟨symbol, by simp [divider], divides.noSpace⟩
  starts := (by decide : isDigitOrPoint ' ' = false)
  ends := (by decide : isDigitOrPoint ' ' = false)

theorem compound_divided (divides : Divides symbol) (left right : List Char) :
    compound (left ++ (divider symbol ++ right)) = compound left ++ (divider symbol ++ compound right) :=
  compound_wall divides.wall left right

end Dividing

end SpokenArithmetic.Phrase

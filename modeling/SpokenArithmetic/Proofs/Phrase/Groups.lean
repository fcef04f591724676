import SpokenArithmetic.Proofs.Phrase.Compounds
import SpokenArithmetic.Proofs.Phrase.Items

set_option autoImplicit false

/-!
Compounding groups of digits with one space between each two, group by group: what multiplying and
merging make of the list of groups, and which lists come down to one number.
-/

namespace SpokenArithmetic.Phrase

open Number Text

def scaleGroups (zeros : Nat) : List (List Char) -> List (List Char)
  | group :: power :: rest =>
    if power = scale zeros then toDigits (ofDigits group * tenTo zeros) :: scaleGroups zeros rest
    else group :: scaleGroups zeros (power :: rest)
  | groups => groups

def mergePair (high low : List Char) : List (List Char) :=
  if (Neighbours.mk high [' '] low).fills then [toDigits (ofDigits high + ofDigits low)]
  else if low.length <= 2 then [high ++ low]
  else [high, low]

def mergeGroups : List (List Char) -> List (List Char)
  | high :: low :: rest =>
    if high.length < 2 then high :: mergeGroups (low :: rest)
    else mergePair high low ++ mergeGroups rest
  | groups => groups

def AllDigits (groups : List (List Char)) : Prop :=
  forall group, group ∈ groups -> IsDigits group

theorem AllDigits.head {group : List Char} {rest : List (List Char)} (all : AllDigits (group :: rest)) :
    IsDigits group :=
  all group List.mem_cons_self

theorem AllDigits.tail {group : List Char} {rest : List (List Char)} (all : AllDigits (group :: rest)) :
    AllDigits rest :=
  fun other member => all other (List.mem_cons_of_mem _ member)

theorem AllDigits.cons {group : List Char} {rest : List (List Char)} (head : IsDigits group)
    (tail : AllDigits rest) : AllDigits (group :: rest) :=
  List.forall_mem_cons.2 ⟨head, tail⟩

theorem scaleGroups_digits (zeros : Nat) {groups : List (List Char)} (all : AllDigits groups) :
    AllDigits (scaleGroups zeros groups) := by
  induction groups using scaleGroups.induct zeros with
  | case1 group rest ih =>
    rw [scaleGroups, if_pos rfl]
    exact .cons (isDigits_toDigits _) (ih all.tail.tail)
  | case2 group power rest other ih =>
    rw [scaleGroups, if_neg other]
    exact .cons all.head (ih all.tail)
  | case3 groups single =>
    rcases groups with _ | ⟨group, _ | ⟨power, rest⟩⟩
    next => exact all
    next => exact all
    next => exact absurd rfl (single group power rest)

theorem mergePair_digits {high low : List Char} (isHigh : IsDigits high) (isLow : IsDigits low) :
    AllDigits (mergePair high low) := by
  have none : AllDigits [] := by simp [AllDigits]
  unfold mergePair
  split
  next => exact .cons (isDigits_toDigits _) none
  next =>
    split
    next =>
      refine .cons ⟨by simp [isHigh.1], fun c member => ?_⟩ none
      exact (List.mem_append.1 member).elim (isHigh.2 c) (isLow.2 c)
    next => exact .cons isHigh (.cons isLow none)

theorem mergeGroups_digits {groups : List (List Char)} (all : AllDigits groups) :
    AllDigits (mergeGroups groups) := by
  induction groups using mergeGroups.induct with
  | case1 high low rest short ih =>
    rw [mergeGroups, if_pos short]
    exact .cons all.head (ih all.tail)
  | case2 high low rest long ih =>
    rw [mergeGroups, if_neg long]
    intro group member
    rcases List.mem_append.1 member with inPair | inRest
    next => exact mergePair_digits all.head all.tail.head group inPair
    next => exact ih all.tail.tail group inRest
  | case3 groups single =>
    rcases groups with _ | ⟨group, _ | ⟨low, rest⟩⟩
    next => exact all
    next => exact all
    next => exact absurd rfl (single group low rest)

theorem following_eq {items : List (List Char)} (present : items ≠ []) :
    following items = ' ' :: spaced items := by
  obtain ⟨item, rest, rfl⟩ := List.exists_cons_of_ne_nil present
  rfl

theorem scaleGroups_ne_nil (zeros : Nat) {groups : List (List Char)} (present : groups ≠ []) :
    scaleGroups zeros groups ≠ [] := by
  unfold scaleGroups
  split
  next => split <;> simp
  next => exact present

theorem mergePair_ne_nil (high low : List Char) : mergePair high low ≠ [] := by
  unfold mergePair
  split
  next => simp
  next => split <;> simp

theorem mergeGroups_ne_nil {groups : List (List Char)} (present : groups ≠ []) :
    mergeGroups groups ≠ [] := by
  unfold mergeGroups
  split
  next => split <;> simp [mergePair_ne_nil]
  next => exact present

section Texts

structure AtGroups {A : Type} (pattern : Pattern A) : Prop where
  barred : forall before text, before.any isDigitOrPoint = true -> pattern before text = none
  other : forall before c tail, isDigit c = false -> pattern before (c :: tail) = none

theorem atGroups_scaled (zeros : Nat) : AtGroups (scaled (scale zeros)) where
  barred before text barred := by simp [scaled, Pattern.unlessBehind, barred]
  other _ _ _ other := scaled_other other

theorem atGroups_neighbours : AtGroups neighbours where
  barred before text barred := by simp [neighbours, Pattern.unlessBehind, barred]
  other _ _ _ other := neighbours_other other

theorem space_noDigit : isDigit ' ' = false := by decide

variable {A : Type} {pattern : Pattern A} {render : A -> List Char} {before : Option Char}
  {group other : List Char} {groups rest : List (List Char)}

theorem replaceFrom_group (atGroups : AtGroups pattern) (isDigits : IsDigits group)
    (none : pattern before (spaced (group :: rest)) = none) :
    pattern.replaceFrom render before 0 (spaced (group :: rest)) =
      group ++ pattern.replaceFrom render (lastBehind before group) 0 (following rest) := by
  refine Pattern.replaceFrom_passed ?_
  obtain ⟨present, all⟩ := isDigits
  cases group with
  | nil => exact absurd rfl present
  | cons c group =>
    refine ⟨none, Pattern.passes_of_places fun front tail same _ => ?_⟩
    refine atGroups.barred _ _ ?_
    cases front with
    | nil => simp [lastBehind, isDigitOrPoint, all c List.mem_cons_self]
    | cons d front =>
      have member : (d :: front).getLast (by simp) ∈ c :: group :=
        List.mem_cons_of_mem _ (by rw [same]; exact List.mem_append_left _ (List.getLast_mem _))
      rw [lastBehind_eq_getLast? (by simp), List.getLast?_eq_some_getLast (by simp)]
      simp only [Option.any_some, isDigitOrPoint, all _ member, Bool.true_or]

theorem replaceFrom_gap (atGroups : AtGroups pattern) (present : groups ≠ []) :
    pattern.replaceFrom render before 0 (following groups) =
      ' ' :: pattern.replaceFrom render (some ' ') 0 (spaced groups) := by
  rw [following_eq present, Pattern.replaceFrom, atGroups.other _ _ _ space_noDigit]

theorem replaceFrom_pair {found : A} (present : group ≠ [])
    (matched : pattern before (spaced (group :: other :: rest)) = some (found, following rest)) :
    pattern.replaceFrom render before 0 (spaced (group :: other :: rest)) =
      render found ++
        pattern.replaceFrom render (lastBehind before (group ++ ' ' :: other)) 0 (following rest) := by
  have parts : spaced (group :: other :: rest) = (group ++ ' ' :: other) ++ following rest := by
    simp [spaced, following]
  rw [parts] at matched ⊢
  exact Pattern.replaceFrom_matched (by simp [present]) matched

theorem first_group {gap behind : List Char} (isDigits : IsDigits group) (isOther : IsDigits other)
    (isGap : IsGap gap) (stops : behind.head?.any isSpace = false) (digits : AllDigits rest)
    (same : spaced (group :: rest) = other ++ (gap ++ behind)) :
    group = other ∧ exists next more, rest = next :: more ∧ behind = spaced rest := by
  have gapHead := isGap.head (fun c space => (space_cases space).1) behind
  obtain ⟨rfl, tail⟩ := span_unique same isDigits.2 isOther.2 (following_head space_noDigit rest) gapHead
  refine ⟨rfl, ?_⟩
  cases rest with
  | nil =>
    have empty : gap = [] := (List.append_eq_nil_iff.1 tail.symm).1
    exact absurd empty isGap.1
  | cons next more =>
    have one : forall c, c ∈ [' '] -> isSpace c = true := by simp [space_isSpace]
    have starts : (spaced (next :: more)).head?.any isSpace = false :=
      IsDigits.noSpace digits.head (following more)
    have unique := @span_unique isSpace [' '] gap _ behind tail one isGap.2 starts stops
    exact ⟨next, more, rfl, unique.2.symm⟩

theorem scaled_pair {zeros : Nat} (free : before.any isDigitOrPoint = false) (isDigits : IsDigits group) :
    scaled (scale zeros) before (spaced (group :: scale zeros :: rest)) = some (group, following rest) := by
  refine scaled_eq_some.2 ⟨group ++ ([' '] ++ scale zeros), ?_, ⟨free, isDigits, [' '], ⟨by simp, ?_⟩, rfl⟩,
    following_head space_noDigit rest⟩
  next => simp [spaced, following]
  next => simp [space_isSpace]

theorem scaled_none {zeros : Nat} (digits : AllDigits (group :: rest))
    (absent : rest.head? ≠ some (scale zeros)) :
    scaled (scale zeros) before (spaced (group :: rest)) = none := by
  cases matched : scaled (scale zeros) before (spaced (group :: rest)) with
  | none => rfl
  | some pair =>
    obtain ⟨parts, same, ⟨_, isDigits, gap, isGap, rfl⟩, ends⟩ := scaled_eq_some.1 matched
    have stops := IsDigits.noSpace (isDigits_scale zeros) pair.2
    simp only [List.append_assoc] at same
    obtain ⟨_, next, more, rfl, behind⟩ :=
      first_group digits.head isDigits isGap stops digits.tail same
    have power := span_unique behind (isDigits_scale zeros).2 digits.tail.head.2 ends
      (following_head space_noDigit more)
    exact absurd (congrArg some power.1.symm) absent

theorem neighbours_pair (free : before.any isDigitOrPoint = false) (isHigh : IsDigits group)
    (isLow : IsDigits other) (long : 2 <= group.length) :
    neighbours before (spaced (group :: other :: rest)) = some (⟨group, [' '], other⟩, following rest) := by
  have noPoint : isDigitOrPoint ' ' = false := by decide
  refine neighbours_eq_some.2 ⟨group ++ ([' '] ++ other), ?_,
    ⟨free, isHigh, ⟨by simp, ?_⟩, isLow, long, rfl⟩, following_head noPoint rest⟩
  next => simp [spaced, following]
  next => simp [space_isSpace]

theorem neighbours_none (digits : AllDigits (group :: rest)) (none : group.length < 2 ∨ rest = []) :
    neighbours before (spaced (group :: rest)) = .none := by
  cases matched : neighbours before (spaced (group :: rest)) with
  | none => rfl
  | some pair =>
    obtain ⟨parts, same, ⟨_, isHigh, isGap, isLow, long, rfl⟩, ends⟩ := neighbours_eq_some.1 matched
    have stops := IsDigits.noSpace isLow pair.2
    simp only [List.append_assoc] at same
    obtain ⟨rfl, next, more, rfl, _⟩ :=
      first_group digits.head isHigh isGap stops digits.tail same
    rcases none with short | empty
    next => omega
    next => cases empty

theorem multiplyScale_spaced (zeros : Nat) {groups : List (List Char)} (all : AllDigits groups) :
    multiplyScale zeros (spaced groups) = spaced (scaleGroups zeros groups) := by
  have atGroups := atGroups_scaled zeros
  have from_ (before : Option Char) (free : before.any isDigitOrPoint = false) :
      (scaled (scale zeros)).replaceFrom (fun group => toDigits (ofDigits group * tenTo zeros)) before 0
        (spaced groups) = spaced (scaleGroups zeros groups) := by
    have fresh : (some ' ').any isDigitOrPoint = false := by decide
    induction groups using scaleGroups.induct zeros generalizing before with
    | case1 group rest ih =>
      rw [scaleGroups, if_pos rfl, replaceFrom_pair all.head.1 (scaled_pair free all.head), spaced]
      cases rest with
      | nil => rfl
      | cons next rest =>
        rw [replaceFrom_gap atGroups (by simp), ih all.tail.tail _ fresh,
          following_eq (scaleGroups_ne_nil zeros (by simp))]
    | case2 group power rest other ih =>
      have none := @scaled_none before _ _ zeros all (by simpa using other)
      rw [scaleGroups, if_neg other, replaceFrom_group atGroups all.head none,
        replaceFrom_gap atGroups (by simp), ih all.tail _ fresh, spaced,
        following_eq (scaleGroups_ne_nil zeros (by simp))]
    | case3 groups single =>
      rcases groups with _ | ⟨group, _ | ⟨power, rest⟩⟩
      next => rfl
      next =>
        have none := @scaled_none before _ _ zeros all (by simp)
        rw [replaceFrom_group atGroups all.head none]
        rfl
      next => exact absurd rfl (single group power rest)
  exact from_ none rfl

theorem merged_pair (high low : List Char) :
    (Neighbours.mk high [' '] low).merged = spaced (mergePair high low) := by
  unfold Neighbours.merged mergePair
  split
  next => simp [spaced, following, Neighbours.sum]
  next => split <;> simp [spaced, following]

theorem mergeOnce_spaced {groups : List (List Char)} (all : AllDigits groups) :
    mergeOnce (spaced groups) = spaced (mergeGroups groups) := by
  have atGroups := atGroups_neighbours
  have from_ (before : Option Char) (free : before.any isDigitOrPoint = false) :
      neighbours.replaceFrom Neighbours.merged before 0 (spaced groups) = spaced (mergeGroups groups) := by
    have fresh : (some ' ').any isDigitOrPoint = false := by decide
    induction groups using mergeGroups.induct generalizing before with
    | case1 high low rest short ih =>
      have none := @neighbours_none before _ _ all (.inl short)
      rw [mergeGroups, if_pos short, replaceFrom_group atGroups all.head none,
        replaceFrom_gap atGroups (by simp), ih all.tail _ fresh, spaced,
        following_eq (mergeGroups_ne_nil (by simp))]
    | case2 high low rest long ih =>
      have pair := @neighbours_pair _ _ _ rest free all.head all.tail.head (Nat.not_lt.1 long)
      rw [mergeGroups, if_neg long, replaceFrom_pair all.head.1 pair, merged_pair]
      cases rest with
      | nil => simp [mergeGroups, following, Pattern.replaceFrom]
      | cons next rest =>
        rw [replaceFrom_gap atGroups (by simp), ih all.tail.tail _ fresh,
          spaced_append (mergePair_ne_nil high low) (mergeGroups_ne_nil (by simp))]
    | case3 groups single =>
      rcases groups with _ | ⟨group, _ | ⟨low, rest⟩⟩
      next => rfl
      next =>
        have none := @neighbours_none before _ _ all (.inr rfl)
        rw [replaceFrom_group atGroups all.head none]
        rfl
      next => exact absurd rfl (single group low rest)
  exact from_ none rfl

theorem mergeGroups_iterate_digits (rounds : Nat) {groups : List (List Char)} (all : AllDigits groups) :
    AllDigits (mergeGroups^[rounds] groups) := by
  induction rounds generalizing groups with
  | zero => exact all
  | succ rounds ih => exact ih (mergeGroups_digits all)

theorem mergeOnce_iterate_spaced (rounds : Nat) {groups : List (List Char)} (all : AllDigits groups) :
    mergeOnce^[rounds] (spaced groups) = spaced (mergeGroups^[rounds] groups) := by
  -- Merging keeps groups of digits, so each round is a round on groups.
  induction rounds generalizing groups with
  | zero => rfl
  | succ rounds ih =>
    rw [Function.iterate_succ_apply, Function.iterate_succ_apply, mergeOnce_spaced all,
      ih (mergeGroups_digits all)]

theorem length_le_spaced {groups : List (List Char)} (all : AllDigits groups) :
    groups.length <= (spaced groups).length := by
  have behind : forall groups, AllDigits groups -> groups.length <= (following groups).length := by
    intro groups all
    induction groups with
    | nil => exact Nat.zero_le _
    | cons group rest ih =>
      have shorter := ih all.tail
      simp only [following, List.flatMap_cons, List.length_append, List.length_cons] at shorter ⊢
      omega
  cases groups with
  | nil => exact Nat.zero_le _
  | cons group rest =>
    have shorter := behind rest all.tail
    have some := List.length_pos_iff.2 all.head.1
    simp only [spaced, List.length_append, List.length_cons]
    omega

def compoundGroups (groups : List (List Char)) : List (List Char) :=
  let scaledUp := scaleGroups 3 (scaleGroups 2 groups)
  mergeGroups^[(spaced scaledUp).length] scaledUp

theorem compound_spaced {groups : List (List Char)} (all : AllDigits groups) :
    compound (spaced groups) = spaced (compoundGroups groups) := by
  have hundreds := scaleGroups_digits 2 all
  have thousands := scaleGroups_digits 3 hundreds
  unfold compound compoundGroups
  rw [multiplyScale_spaced 2 all, multiplyScale_spaced 3 hundreds]
  dsimp only
  rw [mergeAll_eq_iterate, mergeOnce_iterate_spaced _ thousands]

theorem compoundGroups_digits {groups : List (List Char)} (all : AllDigits groups) :
    AllDigits (compoundGroups groups) :=
  mergeGroups_iterate_digits _ (scaleGroups_digits 3 (scaleGroups_digits 2 all))

theorem compoundGroups_ne_nil {groups : List (List Char)} (present : groups ≠ []) :
    compoundGroups groups ≠ [] := by
  have merged (rounds : Nat) : forall groups : List (List Char), groups ≠ [] ->
      mergeGroups^[rounds] groups ≠ [] := by
    induction rounds with
    | zero => exact fun _ present => present
    | succ rounds ih => exact fun groups present => ih _ (mergeGroups_ne_nil present)
  exact merged _ _ (scaleGroups_ne_nil 3 (scaleGroups_ne_nil 2 present))

theorem compoundGroups_eq {groups settled : List (List Char)} (all : AllDigits groups)
    (merges : forall rounds, (scaleGroups 3 (scaleGroups 2 groups)).length <= rounds ->
      mergeGroups^[rounds] (scaleGroups 3 (scaleGroups 2 groups)) = settled) :
    compoundGroups groups = settled :=
  merges _ (length_le_spaced (scaleGroups_digits 3 (scaleGroups_digits 2 all)))

end Texts

end SpokenArithmetic.Phrase

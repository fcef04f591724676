import SpokenArithmetic.Proofs.Phrase.FlatPhrase

set_option autoImplicit false

namespace SpokenArithmetic.Phrase

open Number Text

section Words

def tensWords (value : Nat) : List Nat :=
  if value = 0 then []
  else if value < 20 ∨ value % 10 = 0 then [value]
  else [value / 10 * 10, value % 10]

def hundredsWords (value : Nat) : List Nat :=
  (if value < 100 then [] else [value / 100, 100]) ++ tensWords (value % 100)

def cardinalWords (value : Nat) : List Nat :=
  if value = 0 then [0]
  else (if value < 1000 then [] else hundredsWords (value / 1000) ++ [1000]) ++ hundredsWords (value % 1000)

def cardinal (value : Nat) : String :=
  String.ofList (spaced ((cardinalWords value).map numberWord))

/-- The thousands of the number are one group once hundreds are multiplied. -/
def RoundThousands (value : Nat) : Prop :=
  value / 1000 < 20 ∨ value / 1000 < 100 ∧ value / 1000 % 10 = 0 ∨ value / 1000 % 100 = 0

instance (value : Nat) : Decidable (RoundThousands value) :=
  inferInstanceAs (Decidable (_ ∨ _ ∧ _ ∨ _))

theorem mem_tensWords {value word : Nat} (small : value < 100) (member : word ∈ tensWords value) :
    word ∈ wordValues ∧ 0 < word ∧ word < 100 := by
  have all : forall value, value < 100 -> forall word, word ∈ tensWords value ->
      word ∈ wordValues ∧ 0 < word ∧ word < 100 := by
    decide
  exact all value small word member

theorem tensWords_sum (value : Nat) : (tensWords value).sum = value := by
  unfold tensWords
  split
  next zero => simp [zero]
  next =>
    split
    next => simp
    next =>
      simp only [List.sum_cons, List.sum_nil]
      omega

theorem mem_hundredsWords {value word : Nat} (small : value < 1000) (member : word ∈ hundredsWords value) :
    word ∈ wordValues := by
  have units : forall digit, digit < 10 -> digit ∈ wordValues := by decide
  rcases List.mem_append.1 member with inHundreds | inTens
  next =>
    split at inHundreds
    next => cases inHundreds
    next =>
      simp only [List.mem_cons, List.not_mem_nil, or_false] at inHundreds
      rcases inHundreds with rfl | rfl
      next => exact units _ (by omega)
      next => decide
  next => exact (mem_tensWords (Nat.mod_lt _ (by decide)) inTens).1

theorem mem_cardinalWords {value word : Nat} (small : value < 1000000)
    (member : word ∈ cardinalWords value) : word ∈ wordValues := by
  unfold cardinalWords at member
  split at member
  next =>
    obtain rfl := List.mem_singleton.1 member
    decide
  next =>
    rcases List.mem_append.1 member with inThousands | inHundreds
    next =>
      split at inThousands
      next => cases inThousands
      next =>
        rcases List.mem_append.1 inThousands with inFront | scale
        next => exact mem_hundredsWords (by omega) inFront
        next =>
          obtain rfl := List.mem_singleton.1 scale
          decide
    next => exact mem_hundredsWords (Nat.mod_lt _ (by decide)) inHundreds

theorem cardinalWords_ne_nil (value : Nat) : cardinalWords value ≠ [] := by
  unfold cardinalWords
  split
  next => simp
  next present =>
    split
    next small =>
      unfold hundredsWords tensWords
      split
      next => grind
      next => simp
    next => simp

theorem tensWords_length (value : Nat) : (tensWords value).length <= 2 := by
  unfold tensWords
  split
  next => simp
  next => split <;> simp

theorem hundredsWords_length (value : Nat) : (hundredsWords value).length <= 4 := by
  have tens := tensWords_length (value % 100)
  rw [hundredsWords, List.length_append]
  split
  next =>
    rw [List.length_nil]
    omega
  next =>
    simp only [List.length_cons, List.length_nil]
    omega

theorem cardinalWords_length (value : Nat) : (cardinalWords value).length <= 9 := by
  have front := hundredsWords_length (value / 1000)
  have behind := hundredsWords_length (value % 1000)
  unfold cardinalWords
  split
  next => simp
  next =>
    rw [List.length_append]
    split
    next =>
      rw [List.length_nil]
      omega
    next =>
      rw [List.length_append, List.length_singleton]
      omega

end Words

section Scaled

def parts (value : Nat) : List Nat :=
  (if value < 100 then [] else [value / 100 * 100]) ++ tensWords (value % 100)

theorem mem_parts {value part : Nat} (small : value < 1000) (member : part ∈ parts value) :
    0 < part ∧ part < 1000 := by
  rcases List.mem_append.1 member with inHundreds | inTens
  next =>
    split at inHundreds
    next => cases inHundreds
    next =>
      obtain rfl := List.mem_singleton.1 inHundreds
      omega
  next =>
    have word := mem_tensWords (Nat.mod_lt value (by decide)) inTens
    omega

theorem parts_sum (value : Nat) : (parts value).sum = value := by
  rw [parts, List.sum_append, tensWords_sum]
  split
  next small =>
    rw [List.sum_nil]
    omega
  next =>
    rw [List.sum_singleton]
    omega

theorem parts_length (value : Nat) : (parts value).length <= 3 := by
  have tens := tensWords_length (value % 100)
  rw [parts, List.length_append]
  split
  next =>
    rw [List.length_nil]
    omega
  next =>
    rw [List.length_singleton]
    omega

theorem tower_tensWords {value : Nat} (small : value < 100) (positive : 0 < value) :
    Tower (tensWords value) := by
  unfold tensWords
  rw [if_neg (by omega)]
  split
  next => exact .last value
  next other =>
    have tens : 10 ^ 1 ∣ value / 10 * 10 := Nat.dvd_mul_left 10 _
    refine .more (by omega) (by decide : 0 < 1) tens ?_ (.last _)
    rw [List.sum_singleton]
    omega

theorem tower_parts {value : Nat} (positive : 0 < value) : Tower (parts value) := by
  have below : value % 100 < 100 := Nat.mod_lt _ (by decide)
  unfold parts
  split
  next small => exact tower_tensWords below (by omega)
  next large =>
    by_cases none : value % 100 = 0
    next =>
      rw [none]
      exact .last _
    next =>
      have hundreds : 10 ^ 2 ∣ value / 100 * 100 := Nat.dvd_mul_left 100 _
      have fits : (tensWords (value % 100)).sum < 10 ^ 2 := by
        rw [tensWords_sum]
        exact below
      exact .more (by omega) (by decide) hundreds fits (tower_tensWords below (by omega))

theorem parts_zero : parts 0 = [] := rfl

theorem scale_hundredsWords {value : Nat} {rest : List Nat}
    (starts : rest.head? ≠ some (10 ^ 2)) :
    scaleValues 2 (hundredsWords value ++ rest) = parts value ++ scaleValues 2 rest := by
  have absent : forall word, word ∈ tensWords (value % 100) -> word ≠ 10 ^ 2 := by
    intro word member
    have below := mem_tensWords (Nat.mod_lt value (by decide)) member
    omega
  have tens := scaleValues_append absent starts
  unfold hundredsWords parts
  split
  next => simpa using tens
  next =>
    have pair := scaleValues_pair 2 (value / 100) (tensWords (value % 100) ++ rest)
    rw [tens] at pair
    simpa using pair

theorem hundredsWords_head {value : Nat} (small : value < 1000) :
    (hundredsWords value).head? ≠ some (10 ^ 2) := by
  intro same
  unfold hundredsWords at same
  split at same
  next =>
    have member : 10 ^ 2 ∈ tensWords (value % 100) := List.mem_of_mem_head? same
    have below := mem_tensWords (Nat.mod_lt value (by decide)) member
    omega
  next =>
    simp only [List.cons_append, List.head?_cons, Option.some.injEq] at same
    omega

theorem scale_small {value : Nat} (small : value < 1000) (positive : 0 < value) :
    scaleValues 3 (scaleValues 2 (cardinalWords value)) = parts value := by
  have scaled := @scale_hundredsWords value [] (by simp)
  have absent : forall part, part ∈ parts value -> part ≠ 10 ^ 3 := by
    intro part member
    have below := mem_parts small member
    omega
  have words : cardinalWords value = hundredsWords value ++ [] := by
    rw [cardinalWords, if_neg (by omega), if_pos small, Nat.mod_eq_of_lt small, List.nil_append, List.append_nil]
  rw [words, scaled, scaleValues_nil, List.append_nil]
  exact scaleValues_absent absent

theorem scale_large {value last : Nat} {front : List Nat} (small : value < 1000000) (large : 1000 <= value)
    (thousands : parts (value / 1000) = front ++ [last]) :
    scaleValues 3 (scaleValues 2 (cardinalWords value)) =
      front ++ last * 1000 :: parts (value % 1000) := by
  have below : value % 1000 < 1000 := Nat.mod_lt _ (by decide)
  have words : cardinalWords value =
      hundredsWords (value / 1000) ++ ([1000] ++ (hundredsWords (value % 1000) ++ [])) := by
    rw [cardinalWords, if_neg (by omega), if_neg (by omega)]
    simp
  have one : forall word, word ∈ [1000] -> word ≠ 10 ^ 2 := by simp
  have head : (hundredsWords (value % 1000) ++ []).head? ≠ some (10 ^ 2) := by
    rw [List.append_nil]
    exact hundredsWords_head below
  have hundreds : scaleValues 2 (cardinalWords value) =
      front ++ ([last] ++ 1000 :: parts (value % 1000)) := by
    rw [words, scale_hundredsWords (by simp), scaleValues_append one head,
      scale_hundredsWords (by simp), scaleValues_nil, List.append_nil, thousands, List.append_assoc]
    rfl
  have inFront : forall part, part ∈ front ++ [last] -> part < 1000 := by
    intro part member
    rw [← thousands] at member
    exact (mem_parts (by omega) member).2
  have lastSmall := inFront last (by simp)
  have absent : forall part, part ∈ front -> part ≠ 10 ^ 3 := by
    intro part member
    have partSmall := inFront part (List.mem_append_left _ member)
    omega
  have rest : forall part, part ∈ parts (value % 1000) -> part ≠ 10 ^ 3 := by
    intro part member
    have partSmall := mem_parts below member
    omega
  have starts : ([last] ++ 1000 :: parts (value % 1000)).head? ≠ some (10 ^ 3) := by
    simp only [List.singleton_append, List.head?_cons, ne_eq, Option.some.injEq]
    omega
  have pair := scaleValues_pair 3 last (parts (value % 1000))
  rw [scaleValues_absent rest] at pair
  rw [hundreds, scaleValues_append absent starts]
  exact congrArg (front ++ ·) pair

end Scaled

section Readings

theorem parts_round {value : Nat} (positive : 0 < value)
    (round : value < 20 ∨ value < 100 ∧ value % 10 = 0 ∨ value % 100 = 0) : parts value = [value] := by
  unfold parts tensWords
  split
  next small =>
    rw [Nat.mod_eq_of_lt small, if_neg (by omega), if_pos (by omega), List.nil_append]
  next large =>
    have whole : value / 100 * 100 = value := by omega
    rw [if_pos (by omega), whole]
    rfl

theorem parts_other {value : Nat} (small : value < 1000)
    (other : ¬(value < 20 ∨ value < 100 ∧ value % 10 = 0 ∨ value % 100 = 0)) :
    (exists first last, parts value = [first, last] ∧ 10 <= first ∧ 0 < last ∧ first + last = value) ∨
      exists first second last, parts value = [first, second, last] ∧ 0 < first ∧ 10 ^ 2 ∣ first ∧
        0 < second ∧ second < 10 ^ 2 ∧ 0 < last ∧ first + second + last = value := by
  unfold parts tensWords
  split
  next below =>
    rw [Nat.mod_eq_of_lt below, if_neg (by omega), if_neg (by omega), List.nil_append]
    exact .inl ⟨value / 10 * 10, value % 10, rfl, by omega, by omega, by omega⟩
  next above =>
    rw [if_neg (by omega)]
    split
    next => exact .inl ⟨value / 100 * 100, value % 100, rfl, by omega, by omega, by omega⟩
    next =>
      have hundreds : 10 ^ 2 ∣ value / 100 * 100 := Nat.dvd_mul_left 100 _
      exact .inr ⟨value / 100 * 100, value % 100 / 10 * 10, value % 100 % 10, rfl, by omega, hundreds,
        by omega, by omega, by omega, by omega⟩

theorem compound_tower {values : List Nat} {value : Nat}
    (tower : Tower (scaleValues 3 (scaleValues 2 values)))
    (sum : (scaleValues 3 (scaleValues 2 values)).sum = value) :
    compoundGroups (values.map toDigits) = [toDigits value] := by
  refine compoundGroups_map values fun rounds enough => ?_
  rw [mergeGroups_iterate_tower tower (by omega), sum]

theorem compound_single (value : Nat) : compoundGroups [toDigits value] = [toDigits value] :=
  @compound_tower [value] value (.last value) List.sum_singleton

theorem compound_round {value : Nat} (small : value < 1000000) (round : RoundThousands value) :
    compoundGroups ((cardinalWords value).map toDigits) = [toDigits value] := by
  by_cases zero : value = 0
  next =>
    subst zero
    exact compound_single 0
  next =>
    by_cases below : value < 1000
    next =>
      have scaled := scale_small below (Nat.pos_of_ne_zero zero)
      apply compound_tower <;> rw [scaled]
      next => exact tower_parts (Nat.pos_of_ne_zero zero)
      next => exact parts_sum value
    next =>
      have one := @parts_round (value / 1000) (by omega) round
      have scaled := @scale_large value (value / 1000) [] small (by omega) one
      rw [List.nil_append] at scaled
      apply compound_tower <;> rw [scaled]
      next =>
        by_cases rest : value % 1000 = 0
        next =>
          rw [rest]
          exact .last _
        next =>
          have thousands : 10 ^ 3 ∣ value / 1000 * 1000 := Nat.dvd_mul_left 1000 _
          have fits : (parts (value % 1000)).sum < 10 ^ 3 := by
            rw [parts_sum]
            exact Nat.mod_lt _ (by decide)
          exact .more (by omega) (by decide) thousands fits (tower_parts (by omega))
      next =>
        rw [List.sum_cons, parts_sum]
        omega

theorem reading_round {value : Nat} (small : value < 1000000) (round : RoundThousands value) :
    reading (cardinalWords value) = [toDigits value] := by
  rw [reading, compound_round small round, compound_single]

structure Apart (value high low : Nat) (rest : List Nat) : Prop where
  two : 10 <= high
  three : high < 1000
  four : 1000 <= low
  below : high < value / 1000
  short : rest.length <= 1
  small : rest.sum < 1000

theorem tower_below (value : Nat) : parts (value % 1000) = [] ∨ Tower (parts (value % 1000)) := by
  by_cases rest : value % 1000 = 0
  next => exact .inl (by rw [rest, parts_zero])
  next => exact .inr (tower_parts (Nat.pos_of_ne_zero rest))

-- Two groups in front: the last is multiplied, and the first cannot take the thousands in.
theorem compound_two {value first last : Nat} (small : value < 1000000) (large : 1000 <= value)
    (thousands : parts (value / 1000) = [first, last]) (two : 10 <= first) (positive : 0 < last)
    (total : first + last = value / 1000) :
    exists high low rest, Apart value high low rest ∧
      compoundGroups ((cardinalWords value).map toDigits) = (high :: low :: rest).map toDigits := by
  have below : value % 1000 < 1000 := Nat.mod_lt _ (by decide)
  have length := parts_length (value % 1000)
  have sum := parts_sum (value % 1000)
  have scaled := @scale_large value last [first] small large thousands
  refine ⟨first, last * 1000, together (parts (value % 1000)),
    ⟨two, by omega, by omega, by omega, together_length _, by rwa [together_sum, sum]⟩,
    compoundGroups_map _ fun rounds enough => ?_⟩
  rw [scaled] at enough ⊢
  simp only [List.singleton_append, List.length_cons] at enough
  have rest := @mergeGroups_iterate_together _ (tower_below value) rounds (by omega)
  have apart := mergeGroups_iterate_apart two (by omega) (by omega : 1000 <= last * 1000) rounds
    ((parts (value % 1000)).map toDigits)
  rw [rest] at apart
  exact apart

-- Three groups in front: the first round joins the two that are not multiplied, and the thousands with
-- the group behind them; from then on nothing joins across.
theorem compound_three {value first second last : Nat} (small : value < 1000000) (large : 1000 <= value)
    (thousands : parts (value / 1000) = [first, second, last]) (positive : 0 < first) (hundreds : 10 ^ 2 ∣ first)
    (secondPositive : 0 < second) (fits : second < 10 ^ 2) (lastPositive : 0 < last)
    (total : first + second + last = value / 1000) :
    exists high low rest, Apart value high low rest ∧
      compoundGroups ((cardinalWords value).map toDigits) = (high :: low :: rest).map toDigits := by
  have below : value % 1000 < 1000 := Nat.mod_lt _ (by decide)
  have length := parts_length (value % 1000)
  have sum := parts_sum (value % 1000)
  have scaled := @scale_large value last [first, second] small large thousands
  have two : 10 <= first + second := by
    have least := Nat.le_of_dvd positive hundreds
    omega
  have merged (rest : List (List Char)) := mergeGroups_fills positive (by decide) hundreds fits rest
  cases behind : parts (value % 1000) with
  | nil =>
    refine ⟨first + second, last * 1000, [],
      ⟨two, by omega, by omega, by omega, by simp, by simp⟩, compoundGroups_map _ fun rounds enough => ?_⟩
    rw [scaled, behind] at enough ⊢
    simp only [List.cons_append, List.nil_append, List.length_cons] at enough
    obtain ⟨rounds, rfl⟩ : exists others, rounds = others + 1 := ⟨rounds - 1, by omega⟩
    have apart := mergeGroups_iterate_apart two (by omega) (by omega : 1000 <= last * 1000) rounds []
    have settled : mergeGroups^[rounds] [] = [] := Function.iterate_fixed rfl rounds
    rw [settled] at apart
    rw [Function.iterate_succ_apply]
    simp only [List.cons_append, List.nil_append, List.map_cons, List.map_nil, merged]
    exact apart
  | cons next others =>
    rw [behind, List.sum_cons] at sum
    rw [behind, List.length_cons] at length
    have tower := tower_below value
    rw [behind] at tower
    have others' : others = [] ∨ Tower others := (tower.resolve_left (by simp)).tail
    refine ⟨first + second, last * 1000 + next, together others,
      ⟨two, by omega, by omega, by omega, together_length _, by rw [together_sum]; omega⟩,
      compoundGroups_map _ fun rounds enough => ?_⟩
    rw [scaled, behind] at enough ⊢
    simp only [List.cons_append, List.nil_append, List.length_cons] at enough
    obtain ⟨rounds, rfl⟩ : exists others, rounds = others + 1 := ⟨rounds - 1, by omega⟩
    have thousand : 10 ^ 3 ∣ last * 1000 := Nat.dvd_mul_left 1000 _
    have joined := mergeGroups_fills (by omega : 0 < last * 1000) (by decide) thousand
      (by omega : next < 10 ^ 3) (others.map toDigits)
    have rest := @mergeGroups_iterate_together _ others' (rounds + 1) (by omega)
    rw [Function.iterate_succ_apply] at rest
    have apart := mergeGroups_iterate_apart two (by omega) (by omega : 1000 <= last * 1000 + next) rounds
      (mergeGroups (others.map toDigits))
    rw [rest] at apart
    rw [Function.iterate_succ_apply]
    simp only [List.cons_append, List.nil_append, List.map_cons, merged, joined]
    exact apart

theorem compound_apart {value : Nat} (small : value < 1000000) (other : ¬RoundThousands value) :
    exists high low rest, Apart value high low rest ∧
      compoundGroups ((cardinalWords value).map toDigits) = (high :: low :: rest).map toDigits := by
  have large : 1000 <= value := by
    unfold RoundThousands at other
    omega
  rcases parts_other (by omega) other with
    ⟨first, last, thousands, two, positive, total⟩ |
    ⟨first, second, last, thousands, positive, hundreds, secondPositive, fits, lastPositive, total⟩
  next => exact compound_two small large thousands two positive total
  next => exact compound_three small large thousands positive hundreds secondPositive fits lastPositive total

theorem scaleValues_apart {value high low : Nat} {rest : List Nat} (apart : Apart value high low rest) :
    (exists low' rest', 1000 <= low' ∧ scaleValues 3 (scaleValues 2 (high :: low :: rest)) = high :: low' :: rest') ∨
      scaleValues 3 (scaleValues 2 (high :: low :: rest)) = high * 1000 :: rest := by
  obtain ⟨two, three, four, below, short, small⟩ := apart
  have noHundred : low ≠ 10 ^ 2 := by omega
  rcases rest with _ | ⟨last, _ | ⟨_, _⟩⟩
  next =>
    have hundreds : scaleValues 2 [high, low] = [high, low] := by
      rw [scaleValues_other noHundred, scaleValues_single]
    rw [hundreds]
    by_cases thousand : low = 10 ^ 3
    next =>
      have pair : scaleValues 3 [high, 10 ^ 3] = [high * 10 ^ 3] := by rw [scaleValues_pair, scaleValues_nil]
      exact .inr (thousand ▸ pair)
    next => exact .inl ⟨low, [], four, by rw [scaleValues_other thousand, scaleValues_single]⟩
  next =>
    simp only [List.sum_singleton] at small
    by_cases hundred : last = 10 ^ 2
    next =>
      have noThousand : low * 10 ^ 2 ≠ 10 ^ 3 := by omega
      exact .inl ⟨low * 10 ^ 2, [], by omega, by
        rw [scaleValues_other noHundred, hundred, scaleValues_pair, scaleValues_nil,
          scaleValues_other noThousand, scaleValues_single]⟩
    next =>
      have lastSmall : last ≠ 10 ^ 3 := by omega
      have hundreds : scaleValues 2 [high, low, last] = [high, low, last] := by
        rw [scaleValues_other noHundred, scaleValues_other hundred, scaleValues_single]
      rw [hundreds]
      by_cases thousand : low = 10 ^ 3
      next =>
        have pair : scaleValues 3 [high, 10 ^ 3, last] = [high * 10 ^ 3, last] := by
          rw [scaleValues_pair, scaleValues_single]
        exact .inr (thousand ▸ pair)
      next =>
        exact .inl ⟨low, [last], four, by
          rw [scaleValues_other thousand, scaleValues_other lastSmall, scaleValues_single]⟩
  next => simp at short

theorem tower_apart {value high low : Nat} {rest : List Nat} (apart : Apart value high low rest) :
    Tower (high * 1000 :: rest) := by
  obtain ⟨_, _, _, _, short, small⟩ := apart
  have thousands : 10 ^ 3 ∣ high * 1000 := Nat.dvd_mul_left 1000 _
  rcases rest with _ | ⟨last, _ | ⟨_, _⟩⟩
  next => exact .last _
  next => exact .more (by omega) (by decide) thousands small (.last last)
  next => simp at short

theorem compound_again {value high low : Nat} {rest : List Nat} (apart : Apart value high low rest) :
    compoundGroups ((high :: low :: rest).map toDigits) ≠ [toDigits value] := by
  -- In the first case the groups cannot merge; in the second the value is too large.
  rcases scaleValues_apart apart with ⟨low', rest', large, scaled⟩ | scaled
  next =>
    have stays (rounds : Nat) := mergeGroups_iterate_apart apart.two apart.three large rounds (rest'.map toDigits)
    rw [compoundGroups, scaleGroups_map, scaleGroups_map, scaled]
    simp only [List.map_cons, stays]
    simp
  next =>
    have tower := tower_apart apart
    rw [← scaled] at tower
    rw [compound_tower tower rfl, scaled, List.sum_cons]
    intro same
    have values := toDigits_injective (List.cons.inj same).1
    have below := apart.below
    have small := apart.small
    omega

theorem reading_iff {value : Nat} (small : value < 1000000) :
    reading (cardinalWords value) = [toDigits value] ↔ RoundThousands value := by
  constructor
  next =>
    intro read
    by_cases round : RoundThousands value
    next => exact round
    next =>
      obtain ⟨high, low, rest, apart, compounded⟩ := compound_apart small round
      rw [reading, compounded] at read
      exact absurd read (compound_again apart)
  next => exact reading_round small

end Readings

end SpokenArithmetic.Phrase

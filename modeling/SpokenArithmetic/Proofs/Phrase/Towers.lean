import Mathlib.Algebra.GroupWithZero.Nat
import SpokenArithmetic.Proofs.Phrase.Groups

set_option autoImplicit false

namespace SpokenArithmetic.Phrase

open Number Text

theorem toDigits_eq_scale {value zeros : Nat} : toDigits value = scale zeros ↔ value = 10 ^ zeros := by
  have power : toDigits (10 ^ zeros) = scale zeros := by
    have one : toDigits 1 = ['1'] := rfl
    rw [← Nat.one_mul (10 ^ zeros), toDigits_mul_pow (by decide), one]
    rfl
  constructor
  next =>
    intro same
    exact toDigits_injective (same.trans power.symm)
  next =>
    rintro rfl
    exact power

theorem allDigits_map (values : List Nat) : AllDigits (values.map toDigits) := by
  intro group member
  obtain ⟨value, _, rfl⟩ := List.mem_map.1 member
  exact isDigits_toDigits value

def scaleValues (zeros : Nat) : List Nat -> List Nat
  | value :: power :: rest =>
    if power = 10 ^ zeros then value * 10 ^ zeros :: scaleValues zeros rest
    else value :: scaleValues zeros (power :: rest)
  | values => values

@[simp] theorem scaleValues_nil (zeros : Nat) : scaleValues zeros [] = [] := rfl

theorem scaleGroups_map (zeros : Nat) (values : List Nat) :
    scaleGroups zeros (values.map toDigits) = (scaleValues zeros values).map toDigits := by
  induction values using scaleValues.induct zeros with
  | case1 value rest ih =>
    have scaled : ofDigits (toDigits value) * tenTo zeros = value * 10 ^ zeros := by
      rw [ofDigits_toDigits]
      rfl
    rw [scaleValues, if_pos rfl, List.map_cons, List.map_cons, scaleGroups,
      if_pos (toDigits_eq_scale.2 rfl), ih, scaled]
    rfl
  | case2 value power rest other ih =>
    rw [scaleValues, if_neg other, List.map_cons, List.map_cons, scaleGroups,
      if_neg (mt toDigits_eq_scale.1 other), ← List.map_cons, ih]
    rfl
  | case3 values single =>
    rcases values with _ | ⟨value, _ | ⟨power, rest⟩⟩
    next => rfl
    next => rfl
    next => exact absurd rfl (single value power rest)

theorem scaleValues_pair (zeros value : Nat) (rest : List Nat) :
    scaleValues zeros (value :: 10 ^ zeros :: rest) = value * 10 ^ zeros :: scaleValues zeros rest := by
  rw [scaleValues, if_pos rfl]

theorem scaleValues_other {zeros value power : Nat} (other : power ≠ 10 ^ zeros) (rest : List Nat) :
    scaleValues zeros (value :: power :: rest) = value :: scaleValues zeros (power :: rest) := by
  rw [scaleValues, if_neg other]

theorem scaleValues_single (zeros value : Nat) : scaleValues zeros [value] = [value] := by
  rw [scaleValues.eq_def]

theorem scaleValues_append {zeros : Nat} {front rest : List Nat}
    (absent : forall value, value ∈ front -> value ≠ 10 ^ zeros) (starts : rest.head? ≠ some (10 ^ zeros)) :
    scaleValues zeros (front ++ rest) = front ++ scaleValues zeros rest := by
  induction front with
  | nil => rfl
  | cons value front ih =>
    have others := ih fun other member => absent other (List.mem_cons_of_mem _ member)
    cases front with
    | nil =>
      cases rest with
      | nil => rfl
      | cons power rest =>
        rw [List.singleton_append, scaleValues, if_neg (by simpa using starts)]
        rfl
    | cons power front =>
      have other := absent power (by simp)
      simp only [List.cons_append] at others ⊢
      rw [scaleValues, if_neg other, others]

theorem scaleValues_absent {zeros : Nat} {values : List Nat}
    (absent : forall value, value ∈ values -> value ≠ 10 ^ zeros) : scaleValues zeros values = values := by
  have appended := @scaleValues_append zeros values [] absent (by simp)
  simpa using appended

theorem mergeGroups_fills {high low places : Nat} (positive : 0 < high) (some : 0 < places)
    (divides : 10 ^ places ∣ high) (below : low < 10 ^ places) (rest : List (List Char)) :
    mergeGroups (toDigits high :: toDigits low :: rest) = toDigits (high + low) :: mergeGroups rest := by
  obtain ⟨front, rfl⟩ := divides
  have frontPositive : 0 < front := Nat.pos_of_mul_pos_left positive
  have digits := toDigits_mul_pow frontPositive places
  rw [Nat.mul_comm] at digits
  have zeros := le_trailingZeros (toDigits front) places
  rw [← digits] at zeros
  have short := (length_toDigits_le some).2 below
  have fills : (Neighbours.mk (toDigits (10 ^ places * front)) [' '] (toDigits low)).fills = true :=
    decide_eq_true (Nat.le_trans short zeros)
  have long : ¬(toDigits (10 ^ places * front)).length < 2 := by
    have frontSome := List.length_pos_iff.2 (isDigits_toDigits front).1
    rw [digits, List.length_append, List.length_replicate]
    omega
  rw [mergeGroups, if_neg long, mergePair, if_pos fills, ofDigits_toDigits, ofDigits_toDigits]
  rfl

theorem mergeGroups_apart {high low : Nat} (two : 10 <= high) (three : high < 1000) (four : 1000 <= low)
    (rest : List (List Char)) :
    mergeGroups (toDigits high :: toDigits low :: rest) =
      toDigits high :: toDigits low :: mergeGroups rest := by
  have long : ¬(toDigits high).length < 2 := by
    intro short
    have below := (@length_toDigits_le high 1 (by decide)).1 (by omega)
    omega
  have highShort := (@length_toDigits_le high 3 (by decide)).2 three
  have lowLong : ¬(toDigits low).length <= 3 := by
    intro short
    have below := (@length_toDigits_le low 3 (by decide)).1 short
    omega
  have zeros := trailingZeros_le (toDigits high)
  have apart : ¬(Neighbours.mk (toDigits high) [' '] (toDigits low)).fills = true := by
    simp only [Neighbours.fills, decide_eq_true_eq]
    omega
  rw [mergeGroups, if_neg long, mergePair, if_neg apart, if_neg (by omega)]
  rfl

theorem mergeGroups_iterate_apart {high low : Nat} (two : 10 <= high) (three : high < 1000)
    (four : 1000 <= low) (rounds : Nat) (rest : List (List Char)) :
    mergeGroups^[rounds] (toDigits high :: toDigits low :: rest) =
      toDigits high :: toDigits low :: mergeGroups^[rounds] rest := by
  induction rounds generalizing rest with
  | zero => rfl
  | succ rounds ih =>
    rw [Function.iterate_succ_apply, mergeGroups_apart two three four, ih, Function.iterate_succ_apply]

-- Each number ends in at least as many zeros as all that follow it need together.
inductive Tower : List Nat -> Prop where
  | last (value : Nat) : Tower [value]
  | more {value places : Nat} {rest : List Nat} (positive : 0 < value) (some : 0 < places)
    (divides : 10 ^ places ∣ value) (fits : rest.sum < 10 ^ places) (tower : Tower rest) :
    Tower (value :: rest)

theorem mergeGroups_tower {values : List Nat} (tower : Tower values) :
    exists fewer, Tower fewer ∧ fewer.sum = values.sum ∧ fewer.length <= max 1 (values.length - 1) ∧
      mergeGroups (values.map toDigits) = fewer.map toDigits := by
  generalize bound : values.length = size
  induction size using Nat.strongRecOn generalizing values with
  | ind size ih =>
    subst bound
    cases tower with
    | last value => exact ⟨[value], .last value, rfl, by simp, rfl⟩
    | @more high places others highPositive some divides fits tower =>
      cases tower with
      | last low =>
        have merged := mergeGroups_fills highPositive some divides (by simpa using fits) []
        exact ⟨[high + low], .last _, by simp, by simp, merged⟩
      | @more low lowPlaces rest lowPositive lowSome lowDivides lowFits tower =>
        rw [List.sum_cons] at fits
        have below : low < 10 ^ places := by omega
        have merged := mergeGroups_fills highPositive some divides below (rest.map toDigits)
        obtain ⟨fewer, fewerTower, sum, short, rest'⟩ := ih _ (by simp only [List.length_cons]; omega) tower rfl
        -- The second number is as round as it was, and the first one rounder than that.
        have fewerPlaces : lowPlaces <= places := by
          have least := Nat.le_of_dvd lowPositive lowDivides
          exact Nat.le_of_lt ((Nat.pow_lt_pow_iff_right (by decide : 1 < 10)).1 (by omega))
        have both : 10 ^ lowPlaces ∣ high + low :=
          Nat.dvd_add (Nat.dvd_trans (Nat.pow_dvd_pow 10 fewerPlaces) divides) lowDivides
        refine ⟨(high + low) :: fewer, .more (by omega) lowSome both (by omega) fewerTower, ?_, ?_, ?_⟩
        next =>
          simp only [List.sum_cons]
          omega
        next =>
          have restSome : 0 < rest.length := by cases tower <;> simp
          simp only [List.length_cons]
          omega
        next =>
          rw [List.map_cons, List.map_cons, merged, rest']
          rfl

theorem mergeGroups_iterate_tower {values : List Nat} (tower : Tower values) {rounds : Nat}
    (enough : values.length <= rounds + 1) :
    mergeGroups^[rounds] (values.map toDigits) = [toDigits values.sum] := by
  induction rounds generalizing values with
  | zero =>
    cases tower with
    | last value => simp
    | more positive some divides fits tower => cases tower <;> simp at enough
  | succ rounds ih =>
    obtain ⟨fewer, fewerTower, sum, short, merged⟩ := mergeGroups_tower tower
    rw [Function.iterate_succ_apply, merged, ih fewerTower (by omega), sum]

def together : List Nat -> List Nat
  | [] => []
  | value :: rest => [(value :: rest).sum]

theorem together_sum (values : List Nat) : (together values).sum = values.sum := by
  cases values <;> simp [together]

theorem together_length (values : List Nat) : (together values).length <= 1 := by
  cases values <;> simp [together]

theorem mergeGroups_iterate_together {values : List Nat} (tower : values = [] ∨ Tower values)
    {rounds : Nat} (enough : values.length <= rounds + 1) :
    mergeGroups^[rounds] (values.map toDigits) = (together values).map toDigits := by
  rcases tower with rfl | tower
  next => exact Function.iterate_fixed rfl rounds
  next =>
    rw [mergeGroups_iterate_tower tower enough]
    cases tower <;> rfl

theorem Tower.tail {value : Nat} {rest : List Nat} (tower : Tower (value :: rest)) :
    rest = [] ∨ Tower rest := by
  cases tower with
  | last => exact .inl rfl
  | more _ _ _ _ tower => exact .inr tower

theorem compoundGroups_map (values : List Nat) {settled : List (List Char)}
    (merges : forall rounds, (scaleValues 3 (scaleValues 2 values)).length <= rounds ->
      mergeGroups^[rounds] ((scaleValues 3 (scaleValues 2 values)).map toDigits) = settled) :
    compoundGroups (values.map toDigits) = settled := by
  refine compoundGroups_eq (allDigits_map values) ?_
  rw [scaleGroups_map, scaleGroups_map, List.length_map]
  exact merges

end SpokenArithmetic.Phrase

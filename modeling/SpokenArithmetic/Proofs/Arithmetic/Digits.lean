import Mathlib.Algebra.Group.Nat.Defs
import SpokenArithmetic.Number.Shortest
import SpokenArithmetic.Phrase.Number
import SpokenArithmetic.Proofs.Lexing.Lexemes

set_option autoImplicit false

namespace SpokenArithmetic.Number

open Text

theorem digitValue?_lt {c : Char} {value : Nat} (found : digitValue? c = some value) : value < 10 := by
  unfold digitValue? at found
  split at found
  next =>
    split at found
    next digit =>
      obtain rfl := Option.some.inj found
      simp only [Char.isDigit, Bool.and_eq_true, decide_eq_true_eq, ge_iff_le, UInt32.le_iff_toNat_le,
        Char.reduceVal, UInt32.reduceToNat] at digit
      have point : c.toNat = c.val.toNat := rfl
      omega
    next => cases found
  next =>
    obtain ⟨first, among, rfl⟩ := Option.map_eq_some_iff.1 found
    have range := List.find?_some among
    simp only [Bool.and_eq_true, decide_eq_true_eq] at range
    omega

theorem ofDigits_append (front rest : List Char) :
    ofDigits (front ++ rest) = ofDigits front * 10 ^ rest.length + ofDigits rest := by
  have behind (value : Nat) : forall digits : List Char,
      digits.foldl (fun value c => 10 * value + (digitValue? c).getD 0) value =
        value * 10 ^ digits.length + ofDigits digits := by
    intro digits
    induction digits generalizing value with
    | nil => simp [ofDigits]
    | cons c digits ih =>
      simp only [ofDigits, List.foldl_cons, List.length_cons, Nat.pow_succ]
      rw [ih (10 * value + _), ih (10 * 0 + _)]
      generalize (digitValue? c).getD 0 = digit
      rw [Nat.mul_zero, Nat.zero_add, Nat.add_mul, Nat.add_assoc, Nat.mul_comm 10 value, Nat.mul_assoc,
        Nat.mul_comm 10]
  rw [ofDigits, List.foldl_append, behind]
  rfl

theorem ofDigits_lt (digits : List Char) : ofDigits digits < 10 ^ digits.length := by
  induction digits with
  | nil => decide
  | cons c digits ih =>
    have parts := ofDigits_append [c] digits
    have below : ofDigits [c] < 10 := by
      simp only [ofDigits, List.foldl_cons, List.foldl_nil, Nat.mul_zero, Nat.zero_add]
      cases found : digitValue? c with
      | none => decide
      | some value => exact digitValue?_lt found
    rw [List.singleton_append] at parts
    rw [parts, List.length_cons, Nat.pow_succ]
    have leading : ofDigits [c] * 10 ^ digits.length <= 9 * 10 ^ digits.length :=
      Nat.mul_le_mul_right _ (by omega)
    omega

theorem digitValue?_digitChar {value : Nat} (small : value < 10) :
    digitValue? value.digitChar = some value := by
  have all : forall value : Fin 10, digitValue? value.val.digitChar = some value.val := by decide
  exact all ⟨value, small⟩

@[simp] theorem ofDigits_toDigits (value : Nat) : ofDigits (toDigits value) = value := by
  induction value using Nat.strongRecOn with
  | ind value ih =>
    unfold toDigits at ih ⊢
    rw [Nat.toDigits_eq_if (by decide)]
    split
    next small => simp [ofDigits, digitValue?_digitChar small]
    next large =>
      have last := digitValue?_digitChar (Nat.mod_lt value (by decide : 0 < 10))
      rw [ofDigits_append, ih (value / 10) (by omega)]
      simp only [ofDigits, List.foldl_cons, List.foldl_nil, last, Option.getD_some, List.length_singleton]
      omega

theorem toDigits_injective {left right : Nat} (same : toDigits left = toDigits right) : left = right := by
  rw [← ofDigits_toDigits left, same, ofDigits_toDigits]

theorem toDigits_ascii {value : Nat} {c : Char} (member : c ∈ toDigits value) : c.isDigit = true :=
  Nat.isDigit_of_mem_toDigits (by decide) (by decide) member

theorem shown_toDigits (value : Nat) : (toString value).toList = toDigits value := by
  rw [Nat.toString_eq_ofList_toDigits, String.toList_ofList, toDigits]

theorem isDigits_toDigits (value : Nat) : IsDigits (toDigits value) := by
  exact ⟨Nat.toDigits_ne_nil, fun c member => isDigit_of_asciiDigit (toDigits_ascii member)⟩

theorem length_toDigits_le {value places : Nat} (some : 0 < places) :
    (toDigits value).length <= places ↔ value < 10 ^ places :=
  Nat.length_toDigits_le_iff (by decide) some

theorem length_toDigits_pos (value : Nat) : 0 < (toDigits value).length :=
  List.length_pos_iff.2 Nat.toDigits_ne_nil

theorem checkWriting_none {value places : Nat} (below : value < 10 ^ places) (short : places <= maxDigits) :
    checkWriting value = none := by
  have power (exponent : Nat) : tenTo exponent = 10 ^ exponent := rfl
  rw [checkWriting, power]
  exact if_pos (Nat.lt_of_lt_of_le below (Nat.pow_le_pow_right (by decide) short))

theorem lt_pow_length (value : Nat) : value < 10 ^ (toDigits value).length :=
  (length_toDigits_le (length_toDigits_pos value)).1 (Nat.le_refl _)

theorem pow_length_le {value : Nat} (positive : 0 < value) : 10 ^ (toDigits value).length <= 10 * value := by
  obtain ⟨places, length⟩ := Nat.exists_eq_add_one.2 (length_toDigits_pos value)
  rw [length, Nat.pow_succ']
  apply Nat.mul_le_mul_left
  rcases Nat.eq_zero_or_pos places with rfl | some
  next => exact positive
  next =>
    refine Nat.le_of_not_lt fun less => ?_
    have shorter := (length_toDigits_le some).2 less
    omega

theorem toDigits_mul_pow {value : Nat} (positive : 0 < value) (zeros : Nat) :
    toDigits (value * 10 ^ zeros) = toDigits value ++ List.replicate zeros '0' := by
  induction zeros with
  | zero => simp
  | succ zeros ih =>
    have appended := Nat.toDigits_append_toDigits (by decide : 1 < 10)
      (Nat.mul_pos positive (Nat.pow_pos (by decide : 0 < 10) : 0 < 10 ^ zeros)) (by decide : 0 < 10)
    have same : value * 10 ^ (zeros + 1) = 10 * (value * 10 ^ zeros) + 0 := by
      rw [Nat.pow_succ, Nat.add_zero, ← Nat.mul_assoc, Nat.mul_comm]
    unfold toDigits at ih ⊢
    rw [same, ← appended, ih, List.append_assoc]
    congr 1
    simp [List.replicate_succ']

end SpokenArithmetic.Number

namespace SpokenArithmetic.Phrase

open Number Text

theorem trailingZeros_le (group : List Char) : trailingZeros group <= group.length := by
  have shorter := (List.takeWhile_sublist (p := (· == '0')) (l := group.reverse)).length_le
  rwa [List.length_reverse] at shorter

theorem dropTrailingZeros_append (group : List Char) :
    dropTrailingZeros group ++ List.replicate (trailingZeros group) '0' = group := by
  have zeros : group.reverse.takeWhile (· == '0') = List.replicate (trailingZeros group) '0' := by
    refine List.eq_replicate_iff.2 ⟨rfl, fun c member => ?_⟩
    have all := List.all_eq_true.1 (List.all_takeWhile (p := (· == '0')) (l := group.reverse)) c member
    simpa using all
  have parts := List.takeWhile_append_dropWhile (p := (· == '0')) (l := group.reverse)
  have reversed := congrArg List.reverse parts
  rwa [List.reverse_append, List.reverse_reverse, zeros, List.reverse_replicate] at reversed

theorem trailingZeros_parts (group : List Char) :
    exists front, group = front ++ List.replicate (trailingZeros group) '0' :=
  ⟨_, (dropTrailingZeros_append group).symm⟩

theorem le_trailingZeros (front : List Char) (zeros : Nat) :
    zeros <= trailingZeros (front ++ List.replicate zeros '0') := by
  have all : forall c, c ∈ List.replicate zeros '0' -> (c == '0') = true := by simp
  rw [trailingZeros, List.reverse_append, List.reverse_replicate, List.takeWhile_append_of_pos all]
  simp

theorem ofDigits_zeros (zeros : Nat) : ofDigits (List.replicate zeros '0') = 0 := by
  induction zeros with
  | zero => rfl
  | succ zeros ih =>
    have parts := ofDigits_append ['0'] (List.replicate zeros '0')
    have zero : ofDigits ['0'] = 0 := by decide
    rw [List.replicate_succ, ← List.singleton_append, parts, ih, zero, Nat.zero_mul]

theorem sum_lt {high low : List Char} (fills : low.length <= trailingZeros high) :
    ofDigits high + ofDigits low < 10 ^ high.length := by
  obtain ⟨front, parts⟩ := trailingZeros_parts high
  obtain ⟨zeros, count⟩ : exists zeros, trailingZeros high = zeros := ⟨_, rfl⟩
  rw [count] at parts fills
  have value : ofDigits high = ofDigits front * 10 ^ zeros := by
    rw [parts, ofDigits_append, ofDigits_zeros, List.length_replicate, Nat.add_zero]
  have length : high.length = front.length + zeros := by
    rw [parts, List.length_append, List.length_replicate]
  have below : ofDigits low < 10 ^ zeros :=
    Nat.lt_of_lt_of_le (ofDigits_lt low) (Nat.pow_le_pow_right (by decide) fills)
  have leading : (ofDigits front + 1) * 10 ^ zeros <= 10 ^ front.length * 10 ^ zeros :=
    Nat.mul_le_mul_right _ (ofDigits_lt front)
  rw [value, length, Nat.pow_add]
  rw [Nat.add_mul, Nat.one_mul] at leading
  omega

end SpokenArithmetic.Phrase

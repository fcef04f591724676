import SpokenArithmetic.Proofs.Phrase.Towers
import SpokenArithmetic.Proofs.Phrase.Heard

set_option autoImplicit false

namespace SpokenArithmetic.Phrase

open Number Text

section LowerCase

theorem lowerFrom_lower {text : List Char} (all : forall c, c ∈ text -> isLowerWord c = true)
    (before : List Char) : lowerFrom before text = text := by
  induction text generalizing before with
  | nil => rfl
  | cons c text ih =>
    have kind := all c List.mem_cons_self
    have letter : c.toNat < 128 ∧ c.toLower = c ∧ c ≠ '\u03A3' := by
      rw [isLowerWord] at kind
      delta Char.isLower at kind
      simp only [Bool.or_eq_true, Bool.and_eq_true, decide_eq_true_eq, beq_iff_eq, ge_iff_le,
        UInt32.le_iff_toNat_le, Char.reduceVal, UInt32.reduceToNat] at kind
      have point : c.toNat = c.val.toNat := rfl
      rcases kind with lower | rfl
      next =>
        have noUpper : ¬(c.val >= 'A'.val ∧ c.val <= 'Z'.val) := by
          simp only [ge_iff_le, UInt32.le_iff_toNat_le, Char.reduceVal, UInt32.reduceToNat]
          omega
        refine ⟨by omega, dif_neg noUpper, ?_⟩
        rintro rfl
        simp at lower
      next => decide
    have rest := ih (fun d member => all d (List.mem_cons_of_mem _ member)) (c :: before)
    rw [lowerFrom, if_neg letter.2.2, Case.lowerChar, if_pos letter.1, letter.2.1, rest]
    rfl

theorem lower_spaced {items : List (List Char)} (spoken : forall item, item ∈ items -> Spoken item) :
    lower (spaced items) = spaced items := by
  have chars : forall items : List (List Char), (forall item, item ∈ items -> Spoken item) ->
      forall c, c ∈ following items -> isLowerWord c = true := by
    intro items spoken c member
    obtain ⟨item, inItems, inText⟩ := List.mem_flatMap.1 member
    rcases List.mem_cons.1 inText with rfl | inItem
    next => decide
    next => exact (spoken item inItems).1 c inItem
  cases items with
  | nil => rfl
  | cons item items =>
    exact lowerFrom_lower (fun c member => chars (item :: items) spoken c (List.mem_cons_of_mem _ member)) []

end LowerCase

section Flat

abbrev Others :=
  List (Lexicon.Entry × List Nat)

variable {first second : List Nat} {others : Others}

def phraseItems (first : List Nat) (others : Others) : List (List Char) :=
  first.map numberWord ++ others.flatMap fun other => other.1.1.toList :: other.2.map numberWord

def digitItems (first : List Nat) (others : Others) : List (List Char) :=
  first.map toDigits ++
    others.flatMap fun other => (' ' :: other.1.2.toList ++ [' ']) :: other.2.map toDigits

structure FlatPhrase (first : List Nat) (others : Others) : Prop where
  present : first ≠ []
  words : forall value, value ∈ first -> value ∈ wordValues
  signs : forall other, other ∈ others -> other.1 ∈ signPhrases
  othersPresent : forall other, other ∈ others -> other.2 ≠ []
  othersWords : forall other, other ∈ others -> forall value, value ∈ other.2 -> value ∈ wordValues

theorem FlatPhrase.tail {entry : Lexicon.Entry} (flat : FlatPhrase first ((entry, second) :: others)) :
    FlatPhrase second others where
  present := flat.othersPresent _ List.mem_cons_self
  words := flat.othersWords _ List.mem_cons_self
  signs other member := flat.signs other (List.mem_cons_of_mem _ member)
  othersPresent other member := flat.othersPresent other (List.mem_cons_of_mem _ member)
  othersWords other member := flat.othersWords other (List.mem_cons_of_mem _ member)

theorem FlatPhrase.operands (flat : FlatPhrase first others) {settle : List Nat -> List (List Char)}
    (digits : forall values, AllDigits (settle values))
    (present : forall values, values ≠ [] -> settle values ≠ []) :
    Operands (settle first) (others.map fun other => (signOf other.1, settle other.2)) where
  present := present first flat.present
  digits := digits first
  signs other member := by
    obtain ⟨given, inOthers, rfl⟩ := List.mem_map.1 member
    exact (signs_of_phrase (flat.signs given inOthers)).2
  othersPresent other member := by
    obtain ⟨given, inOthers, rfl⟩ := List.mem_map.1 member
    exact present _ (flat.othersPresent given inOthers)
  othersDigits other member := by
    obtain ⟨given, _, rfl⟩ := List.mem_map.1 member
    exact digits given.2

theorem FlatPhrase.heard (flat : FlatPhrase first others) :
    List.Forall₂ Heard (phraseItems first others) (digitItems first others) := by
  apply List.rel_append (heard_numberWords flat.words)
  induction others generalizing first with
  | nil => exact .nil
  | cons other others ih =>
    have operand := heard_numberWords flat.tail.words
    exact .cons (heard_sign (flat.signs _ List.mem_cons_self)) (List.rel_append operand (ih flat.tail))

theorem FlatPhrase.words_eq (flat : FlatPhrase first others) (wholeWords : Bool) :
    replaceNumberWords (symbols wholeWords (spaced (phraseItems first others))) =
      spaced (digitItems first others) := by
  have spoken : forall item, item ∈ phraseItems first others -> Spoken item := by
    intro item member
    rcases List.mem_append.1 member with inFirst | inOthers
    next =>
      obtain ⟨value, inValues, rfl⟩ := List.mem_map.1 inFirst
      exact (translated_numberWord (flat.words value inValues)).spoken
    next =>
      obtain ⟨other, among, inItems⟩ := List.mem_flatMap.1 inOthers
      rcases List.mem_cons.1 inItems with rfl | inWords
      next => exact (translated_sign (flat.signs other among)).spoken
      next =>
        obtain ⟨value, inValues, rfl⟩ := List.mem_map.1 inWords
        exact (translated_numberWord (flat.othersWords other among value inValues)).spoken
  exact heard_items flat.heard (lower_spaced spoken) wholeWords

theorem FlatPhrase.digits_eq (flat : FlatPhrase first others) :
    spaced (digitItems first others) =
      operation divider (spaced (first.map toDigits))
        (spacedOperands (others.map fun other => (signOf other.1, other.2.map toDigits))) := by
  have items : digitItems first others = first.map toDigits ++
      (others.map fun other => (signOf other.1, other.2.map toDigits)).flatMap
        fun other => [' ', other.1, ' '] :: other.2 := by
    rw [digitItems, List.flatMap_map]
    simp only [List.flatMap_def]
    refine congrArg (first.map toDigits ++ ·) (congrArg List.flatten (List.map_congr_left fun other member => ?_))
    rw [(signs_of_phrase (flat.signs other member)).1]
    rfl
  rw [items]
  apply spaced_operation (by simp [flat.present])
  intro other member
  obtain ⟨given, inOthers, rfl⟩ := List.mem_map.1 member
  simp [flat.othersPresent given inOthers]

-- The groups of digits that an operand comes to: it is compounded twice.
def reading (values : List Nat) : List (List Char) :=
  compoundGroups (compoundGroups (values.map toDigits))

theorem reading_digits (values : List Nat) : AllDigits (reading values) :=
  compoundGroups_digits (compoundGroups_digits (allDigits_map values))

theorem joinPoints_operands {first : List (List Char)} {others : List (Char × List (List Char))}
    (operands : Operands first others) :
    joinPoints (operation divider (spaced first) (spacedOperands others)) =
      operation divider (spaced first) (spacedOperands others) :=
  joinPoints_tight (chain_of_forall fun c d inFirst inSecond =>
    ⟨fun point => absurd point (operands.chars c inFirst).2, fun point => absurd point (operands.chars d inSecond).2⟩)

theorem explicit_operands {first : List (List Char)} {others : List (Char × List (List Char))}
    (operands : Operands first others) :
    explicit (operation divider (spaced first) (spacedOperands others)) =
      operation divider (spaced first) (spacedOperands others) :=
  explicit_unstructured (unstructured_flat fun c member => (operands.chars c member).1)

theorem compound_operands {first : List (List Char)} {others : List (Char × List (List Char))}
    (operands : Operands first others) :
    compound (operation divider (spaced first) (spacedOperands others)) =
      operation divider (spaced (compoundGroups first))
        (spacedOperands (others.map fun other => (other.1, compoundGroups other.2))) := by
  have divides : forall other, other ∈ spacedOperands others -> Divides other.1 := by
    intro other member
    obtain ⟨given, inOthers, rfl⟩ := List.mem_map.1 member
    exact divides_of_arithmetic (operands.signs given inOthers).operator
  have rest : (spacedOperands others).map (fun other => (other.1, compound other.2)) =
      spacedOperands (others.map fun other => (other.1, compoundGroups other.2)) := by
    unfold spacedOperands
    rw [List.map_map, List.map_map]
    refine List.map_congr_left fun other member => ?_
    simp only [Function.comp_apply, compound_spaced (operands.othersDigits other member)]
  rw [compound_operation divides, compound_spaced operands.digits, rest]

section Expressions

variable (flat : FlatPhrase first others) (wholeWords : Bool)
include flat

theorem FlatPhrase.digitOperands :
    Operands (first.map toDigits) (others.map fun other => (signOf other.1, other.2.map toDigits)) :=
  @FlatPhrase.operands _ _ flat (fun values => values.map toDigits) allDigits_map
    (fun values present => by simp [present])

theorem FlatPhrase.compoundOperands :
    Operands (compoundGroups (first.map toDigits))
      (others.map fun other => (signOf other.1, compoundGroups (other.2.map toDigits))) :=
  @FlatPhrase.operands _ _ flat (fun values => compoundGroups (values.map toDigits))
    (fun values => compoundGroups_digits (allDigits_map values))
    (fun values present => compoundGroups_ne_nil (by simp [present]))

theorem FlatPhrase.readingOperands :
    Operands (reading first) (others.map fun other => (signOf other.1, reading other.2)) :=
  @FlatPhrase.operands _ _ flat reading reading_digits
    (fun values present => compoundGroups_ne_nil (compoundGroups_ne_nil (by simp [present])))

theorem FlatPhrase.numbers_eq :
    replaceNumbers (symbols wholeWords (spaced (phraseItems first others))) =
      operation divider (spaced (compoundGroups (first.map toDigits)))
        (spacedOperands (others.map fun other => (signOf other.1, compoundGroups (other.2.map toDigits)))) := by
  rw [replaceNumbers, flat.words_eq wholeWords, flat.digits_eq, compound_operands flat.digitOperands,
    List.map_map]
  exact joinPoints_operands flat.compoundOperands

theorem FlatPhrase.expression_eq :
    expression wholeWords (spaced (phraseItems first others)) =
      operation (fun symbol => [symbol]) (spaced (reading first))
        (spacedOperands (others.map fun other => (signOf other.1, reading other.2))) := by
  rw [expression, flat.numbers_eq wholeWords, structureSpecialCases,
    explicit_operands flat.compoundOperands, compound_operands flat.compoundOperands, List.map_map]
  exact clean_operands flat.readingOperands

theorem FlatPhrase.overlong?_eq_none (short : (spaced (digitItems first others)).length <= maxDigits) :
    overlong? wholeWords (spaced (phraseItems first others)) = none := by
  have numbers : replaceNumbers (symbols wholeWords (spaced (phraseItems first others))) =
      compound (spaced (digitItems first others)) := by
    rw [flat.numbers_eq wholeWords, flat.digits_eq, compound_operands flat.digitOperands, List.map_map]
    rfl
  have explicitNumbers : explicit (replaceNumbers (symbols wholeWords (spaced (phraseItems first others)))) =
      compound (spaced (digitItems first others)) := by
    rw [← numbers, flat.numbers_eq wholeWords]
    exact explicit_operands flat.compoundOperands
  unfold overlong?
  dsimp only
  rw [explicitNumbers, flat.words_eq wholeWords, compoundOverlong?_none short,
    compoundOverlong?_none (Nat.le_trans (compound_length _) short)]
  rfl

end Expressions

end Flat

end SpokenArithmetic.Phrase

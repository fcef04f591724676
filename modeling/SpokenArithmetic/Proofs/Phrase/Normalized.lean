import SpokenArithmetic.Proofs.Phrase.Cardinals

set_option autoImplicit false

namespace SpokenArithmetic.Phrase

open Number Text

section Texts

variable {first : List Nat} {others : Others}

theorem normalize_flat (flat : FlatPhrase first others) (wholeWords : Bool) {phrase : String}
    (spoken : phrase.toList = spaced (phraseItems first others))
    (short : (spaced (digitItems first others)).length <= maxDigits) :
    normalize phrase wholeWords = .ok (String.ofList (operation (fun symbol => [symbol])
      (spaced (reading first)) (spacedOperands (others.map fun other => (signOf other.1, reading other.2))))) := by
  have fits := flat.overlong?_eq_none wholeWords short
  have result := flat.expression_eq wholeWords
  unfold normalize
  rw [spoken, fits]
  exact congrArg (fun text => Except.ok (String.ofList text)) result

theorem spaced_eq_toDigits {groups : List (List Char)} (present : groups ≠ []) (value : Nat) :
    spaced groups = toDigits value ↔ groups = [toDigits value] := by
  constructor
  next =>
    intro same
    cases groups with
    | nil => exact absurd rfl present
    | cons group rest =>
      cases rest with
      | nil =>
        have one : spaced [group] = group := by simp [spaced, following]
        rw [← same, one]
      | cons other rest =>
        have space : ' ' ∈ toDigits value := by
          rw [← same]
          simp [spaced, following]
        have digit := (isDigits_toDigits value).2 ' ' space
        rw [space_noDigit] at digit
        cases digit
  next =>
    rintro rfl
    simp [spaced, following]

theorem spaced_reading {value : Nat} (small : value < 1000000) :
    spaced (reading (cardinalWords value)) = toDigits value ↔ RoundThousands value := by
  have present : reading (cardinalWords value) ≠ [] :=
    compoundGroups_ne_nil (compoundGroups_ne_nil (by simp [cardinalWords_ne_nil]))
  rw [spaced_eq_toDigits present, reading_iff small]

theorem operands_unique {symbol : Char} (signs : Signs symbol) (values others : List Nat) (left right : Nat) :
    spaced (reading values) ++ symbol :: spaced (reading others) = toDigits left ++ symbol :: toDigits right ↔
      spaced (reading values) = toDigits left ∧ spaced (reading others) = toDigits right := by
  constructor
  next =>
    intro same
    have ends (rest : List Char) : (symbol :: rest).head?.any (!isTight ·) = false := by simp [signs.tight]
    have groups : forall c, c ∈ spaced (reading values) -> (!isTight c) = true := by
      intro c member
      rcases chars_spaced (reading_digits values) c member with digit | rfl
      next => simp [digit_not_tight digit]
      next => decide
    have digits : forall c, c ∈ toDigits left -> (!isTight c) = true := by
      intro c member
      simp [digit_not_tight ((isDigits_toDigits left).2 c member)]
    obtain ⟨front, back⟩ := @span_unique (!isTight ·) _ _ _ _ same groups digits (ends _) (ends _)
    exact ⟨front, (List.cons.inj back).2⟩
  next =>
    rintro ⟨front, back⟩
    rw [front, back]

end Texts

section Cardinals

theorem flat_cardinal {value : Nat} (small : value < 1000000) : FlatPhrase (cardinalWords value) [] where
  present := cardinalWords_ne_nil value
  words _ member := mem_cardinalWords small member
  signs _ member := absurd member List.not_mem_nil
  othersPresent _ member := absurd member List.not_mem_nil
  othersWords _ member := absurd member List.not_mem_nil

theorem flat_operation_cardinals {left right : Nat} {entry : Lexicon.Entry} (first : left < 1000000)
    (second : right < 1000000) (sign : entry ∈ signPhrases) :
    FlatPhrase (cardinalWords left) [(entry, cardinalWords right)] where
  present := cardinalWords_ne_nil left
  words _ member := mem_cardinalWords first member
  signs other member := by
    obtain rfl := List.mem_singleton.1 member
    exact sign
  othersPresent other member := by
    obtain rfl := List.mem_singleton.1 member
    exact cardinalWords_ne_nil right
  othersWords other member value inWords := by
    obtain rfl := List.mem_singleton.1 member
    exact mem_cardinalWords second inWords

theorem length_cardinalDigits {value : Nat} (small : value < 1000000) :
    (spaced ((cardinalWords value).map toDigits)).length <= 45 := by
  have short : forall item, item ∈ (cardinalWords value).map toDigits -> item.length <= 4 := by
    intro item member
    obtain ⟨word, inWords, rfl⟩ := List.mem_map.1 member
    exact length_wordDigits (mem_cardinalWords small inWords)
  have text := length_spaced short
  have words := cardinalWords_length value
  rw [List.length_map] at text
  omega

theorem normalize_cardinal {value : Nat} (small : value < 1000000) (wholeWords : Bool) :
    normalize (cardinal value) wholeWords = .ok (String.ofList (spaced (reading (cardinalWords value)))) := by
  have spoken : (cardinal value).toList = spaced (phraseItems (cardinalWords value) []) := by
    simp [cardinal, phraseItems]
  have short : (spaced (digitItems (cardinalWords value) [])).length <= maxDigits := by
    have text := length_cardinalDigits small
    simp only [digitItems, List.flatMap_nil, List.append_nil]
    exact Nat.le_trans text (by decide)
  have result := normalize_flat (flat_cardinal small) wholeWords spoken short
  simpa [operation, spacedOperands] using result

theorem normalize_operation {left right : Nat} {entry : Lexicon.Entry} (first : left < 1000000)
    (second : right < 1000000) (sign : entry ∈ signPhrases) (wholeWords : Bool) :
    normalize (cardinal left ++ " " ++ entry.1 ++ " " ++ cardinal right) wholeWords =
      .ok (String.ofList (spaced (reading (cardinalWords left)) ++
        signOf entry :: spaced (reading (cardinalWords right)))) := by
  have flat := flat_operation_cardinals first second sign
  have one := (signs_of_phrase sign).1
  have spoken : (cardinal left ++ " " ++ entry.1 ++ " " ++ cardinal right).toList =
      spaced (phraseItems (cardinalWords left) [(entry, cardinalWords right)]) := by
    have parts : phraseItems (cardinalWords left) [(entry, cardinalWords right)] =
        (cardinalWords left).map numberWord ++ ([entry.1.toList] ++ (cardinalWords right).map numberWord) := by
      simp [phraseItems]
    rw [parts, spaced_append (by simp [cardinalWords_ne_nil]) (by simp),
      spaced_append (by simp) (by simp [cardinalWords_ne_nil])]
    simp [cardinal, spaced, following]
  -- Both operands and the divider between them.
  have short : (spaced (digitItems (cardinalWords left) [(entry, cardinalWords right)])).length <= maxDigits := by
    have front := length_cardinalDigits first
    have behind := length_cardinalDigits second
    have bound : 45 + (5 + 45) <= maxDigits := by decide
    rw [flat.digits_eq]
    simp only [operation, spacedOperands, divider, List.map_cons, List.map_nil, List.flatMap_cons,
      List.flatMap_nil, List.append_nil, List.length_append, List.length_cons, List.length_nil]
    omega
  have result := normalize_flat flat wholeWords spoken short
  simpa [operation, spacedOperands] using result

/-- Every cardinal below a million, and every operation on two of them, is normalized to some text.
It is the digits that were spoken exactly when the thousands of each number are one group. -/
theorem normalize_spoken (wholeWords : Bool) :
    (forall value, value < 1000000 ->
      (exists text, normalize (cardinal value) wholeWords = .ok text) ∧
        (normalize (cardinal value) wholeWords = .ok (toString value) ↔ RoundThousands value)) ∧
    forall left right entry, left < 1000000 -> right < 1000000 -> entry ∈ signPhrases ->
      (exists text, normalize (cardinal left ++ " " ++ entry.1 ++ " " ++ cardinal right) wholeWords = .ok text) ∧
        (normalize (cardinal left ++ " " ++ entry.1 ++ " " ++ cardinal right) wholeWords =
            .ok (toString left ++ entry.2 ++ toString right) ↔
          RoundThousands left ∧ RoundThousands right) := by
  have shown (value : Nat) : (toString value).toList = toDigits value := by
    rw [Nat.toString_eq_ofList_toDigits, String.toList_ofList, toDigits]
  constructor
  next =>
    intro value small
    have result := normalize_cardinal small wholeWords
    refine ⟨⟨_, result⟩, ?_⟩
    rw [result, ← spaced_reading small, Except.ok.injEq, ← String.toList_inj, String.toList_ofList, shown]
  next =>
    intro left right entry first second sign
    obtain ⟨one, signs⟩ := signs_of_phrase sign
    have result := normalize_operation first second sign wholeWords
    refine ⟨⟨_, result⟩, ?_⟩
    have expected : (toString left ++ entry.2 ++ toString right).toList =
        toDigits left ++ signOf entry :: toDigits right := by
      rw [String.toList_append, String.toList_append, shown, shown, one, List.append_assoc, List.singleton_append]
    rw [result, ← spaced_reading first, ← spaced_reading second, Except.ok.injEq, ← String.toList_inj,
      String.toList_ofList, expected]
    exact operands_unique signs _ _ left right

theorem normalize_spoken_thousands :
    cardinal 23000 = "twenty three thousand" ∧ normalize "twenty three thousand" true ≠ .ok "23000" ∧
      cardinal 12000 = "twelve thousand" ∧ cardinal 345 = "three hundred forty five" ∧
      normalize "twelve thousand take away three hundred forty five" true = .ok "12000-345" := by
  have apart : cardinal 23000 = "twenty three thousand" := by decide +kernel
  have round : cardinal 12000 = "twelve thousand" := by decide +kernel
  have other : cardinal 345 = "three hundred forty five" := by decide +kernel
  obtain ⟨numbers, operations⟩ := normalize_spoken true
  have misread := (numbers 23000 (by decide)).2
  have taken := (operations 12000 345 ("take away", "-") (by decide) (by decide) (by decide +kernel)).2
  rw [apart] at misread
  rw [round, other] at taken
  refine ⟨apart, fun same => ?_, round, other, taken.2 (by decide)⟩
  have thousands : ¬RoundThousands 23000 := by decide
  exact thousands (misread.1 same)

end Cardinals

end SpokenArithmetic.Phrase

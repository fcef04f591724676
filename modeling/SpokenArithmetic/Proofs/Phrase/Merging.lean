import SpokenArithmetic.Proofs.Phrase.Groups

set_option autoImplicit false

namespace SpokenArithmetic.Text.Pattern

variable {A : Type} {pattern : Pattern A} {render : A -> List Char} {before : Option Char}

theorem length_replaceFrom_le (shortens : pattern.Shortens render) {text : List Char} {skip : Nat}
    (inside : skip <= text.length) :
    (replaceFrom pattern render before skip text).length + skip <= text.length := by
  rcases @replaceFrom_shortens _ _ _ before shortens text skip inside with same | shorter
  next =>
    rw [same, List.length_drop]
    omega
  next => omega

theorem stays_of_unchanged (shortens : pattern.Shortens render) {c : Char} {text behind : List Char}
    {found : A} (matched : pattern before (c :: text) = some (found, behind))
    (unchanged : replaceFrom pattern render before 0 (c :: text) = c :: text) :
    behind.length <= text.length ∧ render found ++ behind = c :: text ∧
      replaceFrom pattern render (some c) (text.length - behind.length) text =
        text.drop (text.length - behind.length) := by
  obtain ⟨consumed, parts⟩ := shortens _ _ _ _ _ matched
  have rest := @length_replaceFrom_le _ _ _ (some c) shortens text (text.length - behind.length)
    (Nat.sub_le _ _)
  rw [replaceFrom, matched] at unchanged
  have lengths := congrArg List.length unchanged
  simp only [List.length_append, List.length_cons] at lengths
  rcases parts with same | shorter
  next =>
    refine ⟨consumed, same, ?_⟩
    rw [drop_behind same consumed]
    exact List.append_cancel_left (unchanged.trans same.symm)
  next => omega

/-- In a text that a replacement does not change, the search comes to a place, or it passes the place
inside a match that stays as it stands. -/
theorem reached_or_straddled (shortens : pattern.Shortens render) {front rest : List Char} {skip : Nat}
    (inside : skip <= front.length)
    (unchanged : replaceFrom pattern render before skip (front ++ rest) = (front ++ rest).drop skip) :
    replaceFrom pattern render (lastBehind before front) 0 rest = rest ∨
      exists start inner found behind, front = start ++ inner ∧ inner ≠ [] ∧
        pattern (lastBehind before start) (inner ++ rest) = some (found, behind) ∧
        render found ++ behind = inner ++ rest ∧ behind.length < rest.length := by
  induction front generalizing before skip with
  | nil =>
    obtain rfl : skip = 0 := Nat.le_zero.1 inside
    exact .inl unchanged
  | cons c front ih =>
    have later {skip : Nat} (inside : skip <= front.length)
        (unchanged : replaceFrom pattern render (some c) skip (front ++ rest) = (front ++ rest).drop skip) :
        replaceFrom pattern render (lastBehind before (c :: front)) 0 rest = rest ∨
          exists start inner found behind, c :: front = start ++ inner ∧ inner ≠ [] ∧
            pattern (lastBehind before start) (inner ++ rest) = some (found, behind) ∧
            render found ++ behind = inner ++ rest ∧ behind.length < rest.length := by
      rcases ih inside unchanged with reached | ⟨start, inner, found, behind, parts, straddled⟩
      next => exact .inl reached
      next => exact .inr ⟨c :: start, inner, found, behind, congrArg (c :: ·) parts, straddled⟩
    cases skip with
    | succ skip => exact later (Nat.le_of_succ_le_succ inside) unchanged
    | zero =>
      rw [List.drop_zero, List.cons_append] at unchanged
      cases matched : pattern before (c :: (front ++ rest)) with
      | none =>
        rw [replaceFrom, matched] at unchanged
        exact later (Nat.zero_le _) (List.cons.inj unchanged).2
      | some pair =>
        obtain ⟨consumed, same, behindIt⟩ := stays_of_unchanged shortens matched unchanged
        rw [List.length_append] at consumed behindIt
        rcases Nat.lt_or_ge pair.2.length rest.length with across | within
        next => exact .inr ⟨[], c :: front, pair.1, pair.2, rfl, by simp, matched, same, across⟩
        next => exact later (by omega) behindIt

end SpokenArithmetic.Text.Pattern

namespace SpokenArithmetic.Phrase

open Number Text

namespace Neighbours

def Belong (found : Neighbours) : Prop :=
  found.low.length <= 2 ∨ found.low.length <= trailingZeros found.high

def written (found : Neighbours) : List Char :=
  found.high ++ (found.gap ++ found.low)

theorem merged_shorter {found : Neighbours} (isHigh : IsDigits found.high) (isGap : IsGap found.gap)
    (isLow : IsDigits found.low) (belong : found.Belong) : found.merged.length < found.written.length := by
  have gapSome := List.length_pos_iff.2 isGap.1
  have lowSome := List.length_pos_iff.2 isLow.1
  simp only [written, List.length_append]
  unfold merged
  split
  next fills =>
    have short := toDigits_filled isHigh fills
    omega
  next full =>
    have short : found.low.length <= 2 := belong.resolve_right (by simpa [fills] using full)
    rw [if_pos short, List.length_append]
    omega

end Neighbours

/-- Two groups of digits stand in a text, the first of at least two digits, with white space between them
and no digit or point in front of the first or behind the second. -/
structure Stands (text front : List Char) (pair : Neighbours) (behind : List Char) : Prop where
  whole : text = front ++ (pair.written ++ behind)
  free : front.getLast?.any isDigitOrPoint = false
  high : IsDigits pair.high
  gap : IsGap pair.gap
  low : IsDigits pair.low
  long : 2 <= pair.high.length
  ends : behind.head?.any isDigitOrPoint = false

section Pairs

variable {text front behind : List Char} {pair : Neighbours}

theorem neighbours_eq_some_written {before : Option Char} :
    neighbours before text = some (pair, behind) ↔
      text = pair.written ++ behind ∧ NeighbourParts before pair pair.written ∧
        behind.head?.any isDigitOrPoint = false := by
  rw [neighbours_eq_some]
  constructor
  next =>
    rintro ⟨parts, rfl, ⟨free, isHigh, isGap, isLow, long, rfl⟩, ends⟩
    exact ⟨rfl, ⟨free, isHigh, isGap, isLow, long, rfl⟩, ends⟩
  next =>
    rintro ⟨same, parts, ends⟩
    exact ⟨_, same, parts, ends⟩

theorem Stands.matched (stands : Stands text front pair behind) :
    neighbours (lastBehind none front) (pair.written ++ behind) = some (pair, behind) := by
  refine neighbours_eq_some_written.2 ⟨rfl, ⟨?_, stands.high, stands.gap, stands.low, stands.long, rfl⟩, stands.ends⟩
  rw [lastBehind_none]
  exact stands.free

theorem Stands.written_ne_nil (stands : Stands text front pair behind) : pair.written ≠ [] := by
  simp [Neighbours.written, stands.high.1]

theorem Stands.merges (stands : Stands text front pair behind) (belong : pair.Belong) :
    neighbours.replaceFrom Neighbours.merged (lastBehind none front) 0 (pair.written ++ behind) ≠
      pair.written ++ behind := by
  intro unchanged
  rw [Pattern.replaceFrom_matched stands.written_ne_nil stands.matched] at unchanged
  have shorter := Neighbours.merged_shorter stands.high stands.gap stands.low belong
  have rest := @Pattern.length_replaceFrom_le _ _ _
    (lastBehind (lastBehind none front) pair.written) shortens_neighbours behind 0 (Nat.zero_le _)
  have lengths := congrArg List.length unchanged
  rw [List.length_append, List.length_append] at lengths
  omega

theorem getLast?_append_all {holds : Char -> Bool} {first second : List Char} (present : second ≠ [])
    (all : forall c, c ∈ second -> holds c = true) : (first ++ second).getLast?.any holds = true := by
  rw [List.getLast?_append, List.getLast?_eq_some_getLast present]
  exact all _ (List.getLast_mem present)

-- A pair that starts in front of a group and ends behind the start of the group ends with the group.
theorem cut_at_group {earlier : Neighbours} {inner group rest : List Char} (isHigh : IsDigits earlier.high)
    (isGap : IsGap earlier.gap) (isLow : IsDigits earlier.low) (present : inner ≠ [])
    (ends : inner.getLast?.any isDigit = false) (isGroup : IsDigits group)
    (stops : rest.head?.any isDigit = false) (stopsBehind : behind.head?.any isDigit = false)
    (same : inner ++ (group ++ rest) = earlier.written ++ behind)
    (across : behind.length < (group ++ rest).length) :
    inner = earlier.high ++ earlier.gap ∧ earlier.low = group ∧ behind = rest := by
  have lastDigit {first second : List Char} (some : second ≠ []) (all : forall c, c ∈ second -> isDigit c = true)
      (parts : inner = first ++ second) : False := by
    have digit := @getLast?_append_all isDigit first second some all
    rw [← parts, ends] at digit
    cases digit
  simp only [Neighbours.written, List.append_assoc] at same
  rcases List.append_eq_append_iff.1 same with ⟨cut, highParts, _⟩ | ⟨tail, parts, behindHigh⟩
  next =>
    have inHigh : forall c, c ∈ inner -> isDigit c = true := fun c member => isHigh.2 c (by simp [highParts, member])
    exact (lastDigit present inHigh (List.nil_append inner).symm).elim
  rcases List.append_eq_append_iff.1 behindHigh with ⟨more, rfl, behindGap⟩ | ⟨spaces, gapParts, groupParts⟩
  next =>
    -- What follows the gap inside the pair consists of digits, and the stretch does not end with one.
    have none : more = [] := by
      by_contra some
      rcases List.append_eq_append_iff.1 behindGap with ⟨cut, _, tail⟩ | ⟨cut, lowParts, _⟩
      next =>
        rw [tail, List.length_append] at across
        omega
      next =>
        have inLow : forall c, c ∈ more -> isDigit c = true := fun c member => isLow.2 c (by simp [lowParts, member])
        exact lastDigit some inLow (by rw [parts, List.append_assoc])
    rw [none, List.nil_append] at behindGap
    have unique := span_unique behindGap isLow.2 isGroup.2 stopsBehind stops
    exact ⟨by simp [parts, none], unique⟩
  next =>
    cases spaces with
    | nil =>
      rw [List.nil_append] at groupParts
      have unique := span_unique groupParts.symm isLow.2 isGroup.2 stopsBehind stops
      exact ⟨by simp [parts, gapParts], unique⟩
    | cons space spaces =>
      -- The group would start with white space.
      have digit := isGroup.head rest
      rw [groupParts, List.cons_append, List.head?_cons, Option.any_some,
        (space_cases (isGap.2 space (by simp [gapParts]))).1] at digit
      cases digit

theorem getLast?_of_point {text : List Char} (other : text.getLast?.any isDigitOrPoint = false) :
    text.getLast?.any isDigit = false := by
  rw [← List.head?_reverse] at other ⊢
  exact digit_of_point other

theorem Stands.reached_or_behind (stands : Stands text front pair behind) (unchanged : mergeOnce text = text) :
    neighbours.replaceFrom Neighbours.merged (lastBehind none front) 0 (pair.written ++ behind) =
        pair.written ++ behind ∨
      exists start earlier, front = start ++ (earlier.high ++ earlier.gap) ∧ earlier.low = pair.high ∧
        Stands text start earlier (pair.gap ++ (pair.low ++ behind)) ∧ earlier.merged = earlier.written := by
  have whole := stands.whole
  have still : neighbours.replaceFrom Neighbours.merged none 0 (front ++ (pair.written ++ behind)) =
      (front ++ (pair.written ++ behind)).drop 0 := by
    rw [← whole]
    exact unchanged
  rcases Pattern.reached_or_straddled shortens_neighbours (Nat.zero_le _) still with
    reached | ⟨start, inner, earlier, next, parts, present, matched, same, across⟩
  next => exact .inl reached
  refine .inr ⟨start, earlier, ?_⟩
  obtain ⟨together, ⟨free, isHigh, isGap, isLow, long, _⟩, ends⟩ := neighbours_eq_some_written.1 matched
  have lastInner : inner.getLast? = front.getLast? := by
    rw [parts, List.getLast?_append, List.getLast?_eq_some_getLast present]
    rfl
  have innerEnds : inner.getLast?.any isDigit = false := by
    rw [lastInner]
    exact getLast?_of_point stands.free
  have written : pair.written ++ behind = pair.high ++ (pair.gap ++ (pair.low ++ behind)) := by
    simp [Neighbours.written]
  rw [written] at together across
  obtain ⟨rfl, low, rfl⟩ := cut_at_group isHigh isGap isLow present innerEnds stands.high
    (stands.gap.head (fun c space => (space_cases space).1) _) (digit_of_point ends) together across
  refine ⟨parts, low, ⟨?_, ?_, isHigh, isGap, isLow, long, ends⟩, ?_⟩
  next => rw [whole, parts, List.append_assoc, written, together]
  next =>
    rw [← lastBehind_none]
    exact free
  next => exact List.append_cancel_right (same.trans (written ▸ together))

end Pairs

section Settled

variable {text front behind : List Char} {pair : Neighbours}

theorem mergeOnce_compound (text : List Char) : mergeOnce (compound text) = compound text := by
  unfold compound
  dsimp only
  generalize multiplyScale 3 (multiplyScale 2 text) = scaledUp
  rw [mergeAll_eq_iterate, ← Function.iterate_succ_apply' mergeOnce]
  exact mergeOnce_iterate_stable (Nat.le_succ _)

theorem Stands.apart_of_merged (stands : Stands text front pair behind) (same : pair.merged = pair.written) :
    ¬pair.Belong := by
  intro belong
  have shorter := Neighbours.merged_shorter stands.high stands.gap stands.low belong
  rw [same] at shorter
  exact Nat.lt_irrefl _ shorter

/-- Compounding ends where merging changes nothing, and a pair of groups that belong together is left
in its result only behind a pair that stays as it is and has the first group of the pair as its second. -/
theorem compound_settles (text : List Char) :
    mergeOnce (compound text) = compound text ∧
      forall front pair behind, Stands (compound text) front pair behind -> pair.Belong ->
        exists start earlier, front = start ++ (earlier.high ++ earlier.gap) ∧ earlier.low = pair.high ∧
          Stands (compound text) start earlier (pair.gap ++ (pair.low ++ behind)) ∧ ¬earlier.Belong := by
  refine ⟨mergeOnce_compound text, fun front pair behind stands belong => ?_⟩
  rcases stands.reached_or_behind (mergeOnce_compound text) with reached | ⟨start, earlier, parts, low, first, same⟩
  next => exact absurd reached (stands.merges belong)
  next => exact ⟨start, earlier, parts, low, first, first.apart_of_merged same⟩

theorem compound_settles_hidden :
    Stands (compound "123 456 78".toList) "123 ".toList ⟨"456".toList, [' '], "78".toList⟩ [] ∧
      (Neighbours.mk "456".toList [' '] "78".toList).Belong ∧
      exists start earlier, "123 ".toList = start ++ (earlier.high ++ earlier.gap) ∧
        earlier.low = "456".toList ∧
        Stands (compound "123 456 78".toList) start earlier ([' '] ++ ("78".toList ++ [])) ∧
        ¬earlier.Belong := by
  have stands : Stands (compound "123 456 78".toList) "123 ".toList ⟨"456".toList, [' '], "78".toList⟩ [] :=
    { whole := by decide +kernel
      free := by decide +kernel
      high := ⟨by decide, by decide +kernel⟩
      gap := ⟨by decide, by decide +kernel⟩
      low := ⟨by decide, by decide +kernel⟩
      long := by decide
      ends := rfl }
  have belong : (Neighbours.mk "456".toList [' '] "78".toList).Belong := .inl (by decide)
  exact ⟨stands, belong, (compound_settles "123 456 78".toList).2 _ _ _ stands belong⟩

theorem compound_hidden {first second third : List Char} (isFirst : IsDigits first) (isSecond : IsDigits second)
    (isThird : IsDigits third) (long : 2 <= first.length) (apart : ¬(Neighbours.mk first [' '] second).Belong)
    (noHundred : scale 2 ∉ [second, third]) (noThousand : scale 3 ∉ [second, third]) :
    compound (spaced [first, second, third]) = spaced [first, second, third] := by
  have all : AllDigits [first, second, third] :=
    .cons isFirst (.cons isSecond (.cons isThird (by simp [AllDigits])))
  have unscaled {zeros : Nat} (absent : scale zeros ∉ [second, third]) :
      scaleGroups zeros [first, second, third] = [first, second, third] := by
    simp only [List.mem_cons, List.not_mem_nil, or_false, not_or] at absent
    rw [scaleGroups, if_neg (Ne.symm absent.1), scaleGroups, if_neg (Ne.symm absent.2), scaleGroups]
    simp
  have pair : mergePair first second = [first, second] := by
    obtain ⟨more, full⟩ := not_or.1 apart
    rw [mergePair, if_neg (by simpa [Neighbours.fills] using full), if_neg more]
  have settled : mergeGroups [first, second, third] = [first, second, third] := by
    rw [mergeGroups, if_neg (Nat.not_lt.2 long), pair, mergeGroups]
    next => rfl
    next => simp
  rw [compound_spaced all]
  refine congrArg spaced (compoundGroups_eq all fun rounds _ => ?_)
  rw [unscaled noHundred, unscaled noThousand, Function.iterate_fixed settled]

end Settled

end SpokenArithmetic.Phrase

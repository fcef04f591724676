import SpokenArithmetic.Proofs.Phrase.Cleaned

set_option autoImplicit false

namespace SpokenArithmetic.Phrase

open Text

section Runs

variable {text rest : List Char} {c : Char}

theorem gapInduction {holds : List Char -> Prop} (nil : holds [])
    (solid : forall c rest, isSpace c = false -> holds rest -> holds (c :: rest))
    (gap : forall gap rest, IsGap gap -> rest.head?.any isSpace = false -> holds rest -> holds (gap ++ rest))
    (text : List Char) : holds text := by
  generalize size : text.length = count
  induction count using Nat.strongRecOn generalizing text with
  | ind count ih =>
    cases text with
    | nil => exact nil
    | cons c rest =>
      rw [List.length_cons] at size
      cases space : isSpace c with
      | false => exact solid c rest space (ih _ (by omega) rest rfl)
      | true =>
        obtain ⟨parts, all, stops⟩ := (@span_iff isSpace rest _ _).1 ⟨rfl, rfl⟩
        have shorter := (List.dropWhile_sublist isSpace (l := rest)).length_le
        have whole := gap (c :: rest.takeWhile isSpace) (rest.dropWhile isSpace)
          ⟨by simp, List.forall_mem_cons.2 ⟨space, all⟩⟩ stops (ih _ (by omega) _ rfl)
        rwa [List.cons_append, ← parts] at whole

theorem squeeze_space (space : isSpace c = true) : squeeze (c :: rest) = ' ' :: squeeze (skipSpace rest) := by
  obtain ⟨parts, all, stops⟩ := (@span_iff isSpace rest _ _).1 ⟨rfl, rfl⟩
  have whole := @squeeze_gap (c :: rest.takeWhile isSpace) (rest.dropWhile isSpace)
    ⟨by simp, List.forall_mem_cons.2 ⟨space, all⟩⟩ stops
  rwa [List.cons_append, ← parts] at whole

theorem head?_squeeze (text : List Char) :
    (squeeze text).head? = text.head?.map fun c => if isSpace c then ' ' else c := by
  cases text with
  | nil => rfl
  | cons c rest =>
    cases space : isSpace c with
    | false => simp [squeeze_other space, space]
    | true => simp [squeeze_space space, space]

theorem head_squeeze {holds : Char -> Bool} (blind : forall c, isSpace c = true -> holds c = false)
    (text : List Char) : (squeeze text).head?.any holds = text.head?.any holds := by
  rw [head?_squeeze]
  cases text with
  | nil => rfl
  | cons c rest =>
    cases space : isSpace c with
    | false => simp [space]
    | true => simp [space, blind c space, blind ' ' (by decide)]

theorem head_squeeze_space (text : List Char) : (squeeze text).head?.any isSpace = text.head?.any isSpace := by
  rw [head?_squeeze]
  cases text with
  | nil => rfl
  | cons c rest => cases space : isSpace c <;> simp [space, show isSpace ' ' = true by decide]

theorem skipSpace_append {gap : List Char} (spaces : forall c, c ∈ gap -> isSpace c = true) (rest : List Char) :
    skipSpace (gap ++ rest) = skipSpace rest :=
  List.dropWhile_append_of_pos spaces

theorem skipSpace_squeeze (text : List Char) : skipSpace (squeeze text) = squeeze (skipSpace text) := by
  have stops {rest : List Char} (other : rest.head?.any isSpace = false) :
      skipSpace (squeeze rest) = squeeze (skipSpace rest) := by
    rw [skipSpace_of_head other]
    exact skipSpace_of_head ((head_squeeze_space rest).trans other)
  induction text using gapInduction with
  | nil => rfl
  | solid c rest other => exact stops other
  | gap gap rest isGap other =>
    rw [squeeze_gap isGap other, skipSpace_space ((head_squeeze_space rest).trans other), skipSpace_append isGap.2,
      skipSpace_of_head other]

theorem squeeze_squeeze (text : List Char) : squeeze (squeeze text) = squeeze text := by
  induction text using gapInduction with
  | nil => rfl
  | solid c rest other ih => rw [squeeze_other other, squeeze_other other, ih]
  | gap gap rest isGap other ih =>
    rw [squeeze_gap isGap other, squeeze_space (by decide), skipSpace_squeeze, skipSpace_of_head other, ih]

theorem squeeze_gap_append {gap : List Char} (isGap : IsGap gap) (rest : List Char) :
    squeeze (gap ++ rest) = ' ' :: squeeze (skipSpace rest) := by
  obtain ⟨c, gap, rfl⟩ := List.exists_cons_of_ne_nil isGap.1
  rw [List.cons_append, squeeze_space (isGap.2 c List.mem_cons_self),
    skipSpace_append fun d member => isGap.2 d (List.mem_cons_of_mem c member)]

theorem squeeze_of_gap {gap : List Char} (isGap : IsGap gap) : squeeze gap = [' '] := by
  have alone := squeeze_gap_append isGap []
  rw [List.append_nil] at alone
  exact alone

theorem squeeze_append (first second : List Char) :
    squeeze (squeeze first ++ squeeze second) = squeeze (first ++ second) := by
  induction first using gapInduction with
  | nil => exact squeeze_squeeze second
  | solid c rest other ih => rw [squeeze_other other, List.cons_append, List.cons_append, squeeze_other other,
      squeeze_other other, ih]
  | gap gap rest isGap other ih =>
    rw [squeeze_gap isGap other, List.append_assoc, squeeze_gap_append isGap, List.cons_append,
      squeeze_space (by decide), ← skipSpace_squeeze, ih, skipSpace_squeeze]

theorem squeeze_congr {first second first' second' : List Char} (one : squeeze first = squeeze first')
    (two : squeeze second = squeeze second') : squeeze (first ++ second) = squeeze (first' ++ second') := by
  rw [← squeeze_append, one, two, squeeze_append]

theorem squeeze_solid (solid : forall c, c ∈ text -> isSpace c = false) :
    squeeze (text ++ rest) = text ++ squeeze rest := by
  induction text with
  | nil => rfl
  | cons c text ih =>
    rw [List.cons_append, squeeze_other (solid c List.mem_cons_self),
      ih fun d member => solid d (List.mem_cons_of_mem c member)]
    rfl

theorem squeeze_parted (front : List Char) (other : isSpace c = false) (rest : List Char) :
    squeeze (front ++ c :: rest) = squeeze front ++ c :: squeeze rest := by
  induction front using gapInduction with
  | nil => exact squeeze_other other
  | solid d front solid ih => rw [List.cons_append, squeeze_other solid, squeeze_other solid, ih, List.cons_append]
  | gap gap front isGap stops ih =>
    have next : (front ++ c :: rest).head?.any isSpace = false := by
      cases front with
      | nil => exact other
      | cons d front => exact stops
    rw [List.append_assoc, squeeze_gap isGap next, squeeze_gap isGap stops, ih, List.cons_append]

end Runs

section Blind

variable {A B : Type} {pattern : Pattern A} {render : A -> List Char} {lift : A -> A}
  {before before' : Option Char} {text : List Char}

def SameSide (first second : Option Char) : Prop :=
  first = second ∨ (first.any isSpace = true ∧ second.any isSpace = true)

theorem SameSide.any (sides : SameSide before before') {holds : Char -> Bool}
    (blind : forall c, isSpace c = true -> holds c = false) : before.any holds = before'.any holds := by
  have unheld {side : Option Char} (space : side.any isSpace = true) : side.any holds = false := by
    obtain ⟨c, rfl, isSpace⟩ := (Option.any_eq_true _ _).1 space
    exact blind c isSpace
  rcases sides with rfl | ⟨one, two⟩
  next => rfl
  next => rw [unheld one, unheld two]

/-- The pattern does not see how wide white space is. In the squeezed text it finds the same, but for what
`lift` changes, and its matches start and end with solid characters. -/
structure Blind (pattern : Pattern A) (render : A -> List Char) (lift : A -> A) : Prop where
  starts : forall before c rest, isSpace c = true -> pattern before (c :: rest) = none
  ends : forall before text found behind, pattern before text = some (found, behind) ->
    exists front c, text = front ++ c :: behind ∧ isSpace c = false
  squeezed : forall before before' text, SameSide before before' ->
    pattern before' (squeeze text) = (pattern before text).map fun pair => (lift pair.1, squeeze pair.2)
  rendered : forall before text found behind, pattern before text = some (found, behind) ->
    squeeze (render (lift found)) = squeeze (render found)

section Sides

variable {gap front behind : List Char} {c : Char} {found : A}

theorem Blind.passes (blind : Blind pattern render lift) (isGap : IsGap gap) (rest : List Char) :
    pattern.Passes before gap rest :=
  Pattern.passes_of_unmatched fun before c tail member => blind.starts before c tail (isGap.2 c member)

theorem IsGap.sameSide (isGap : IsGap gap) (before before' : Option Char) :
    SameSide (lastBehind before gap) (lastBehind before' [' ']) := by
  rw [lastBehind_eq_getLast? isGap.1, List.getLast?_eq_some_getLast isGap.1]
  exact .inr ⟨isGap.2 _ (List.getLast_mem isGap.1), show isSpace ' ' = true by decide⟩

end Sides

theorem Blind.from_squeeze (blind : Blind pattern render lift) (sides : SameSide before before') (text : List Char) :
    squeeze (pattern.replaceFrom render before' 0 (squeeze text)) =
        squeeze (pattern.replaceFrom render before 0 text) ∧
      pattern.matchesFrom before' 0 (squeeze text) = (pattern.matchesFrom before 0 text).map lift := by
  generalize size : text.length = count
  induction count using Nat.strongRecOn generalizing before before' text with
  | ind count ih =>
    subst size
    cases text with
    | nil => exact ⟨rfl, rfl⟩
    | cons c rest =>
      cases space : isSpace c with
      | true =>
        -- The whole gap is copied.
        obtain ⟨parts, all, stops⟩ := (@span_iff isSpace (c :: rest) _ _).1 ⟨rfl, rfl⟩
        have isGap : IsGap ((c :: rest).takeWhile isSpace) := ⟨by simp [space], all⟩
        have single : IsGap [' '] := ⟨by simp, by decide⟩
        have shorter : ((c :: rest).dropWhile isSpace).length < (c :: rest).length := by
          have some := List.length_pos_iff.2 isGap.1
          have lengths := congrArg List.length parts
          rw [List.length_append] at lengths
          omega
        obtain ⟨replaced, found⟩ := ih _ shorter (isGap.sameSide before before') _ rfl
        rw [parts, squeeze_gap isGap stops, ← List.singleton_append,
          Pattern.replaceFrom_passed (blind.passes isGap _), Pattern.replaceFrom_passed (blind.passes single _),
          Pattern.matchesFrom_passed (blind.passes isGap _), Pattern.matchesFrom_passed (blind.passes single _)]
        exact ⟨squeeze_congr (squeeze_of_gap isGap).symm replaced, found⟩
      | false =>
        have same := blind.squeezed before before' (c :: rest) sides
        cases matched : pattern before (c :: rest) with
        | none =>
          obtain ⟨replaced, found⟩ := ih rest.length (by simp) (.inl (Eq.refl (some c))) rest rfl
          rw [matched, Option.map_none, squeeze_other space] at same
          rw [squeeze_other space, Pattern.replaceFrom, Pattern.replaceFrom, Pattern.matchesFrom, Pattern.matchesFrom,
            same, matched]
          dsimp only
          rw [squeeze_other space, squeeze_other space, replaced]
          exact ⟨rfl, found⟩
        | some pair =>
          obtain ⟨found, behind⟩ := pair
          obtain ⟨front, d, parts, other⟩ := blind.ends _ _ _ _ matched
          have shorter : behind.length < (c :: rest).length := by
            rw [parts, List.length_append, List.length_cons]
            omega
          obtain ⟨replaced, later⟩ := ih _ shorter (.inl (Eq.refl (some d))) behind rfl
          have rendered := blind.rendered _ _ _ _ matched
          have whole : c :: rest = (front ++ [d]) ++ behind := by simp [parts]
          have squeezed : squeeze (c :: rest) = (squeeze front ++ [d]) ++ squeeze behind := by
            rw [parts, squeeze_parted front other]
            simp
          rw [matched, squeezed] at same
          rw [whole] at matched
          rw [squeezed, whole, Pattern.replaceFrom_matched (by simp) matched, Pattern.replaceFrom_matched (by simp) same,
            Pattern.matchesFrom_matched (by simp) matched, Pattern.matchesFrom_matched (by simp) same,
            lastBehind_concat, lastBehind_concat]
          exact ⟨squeeze_congr rendered replaced, congrArg (lift found :: ·) later⟩

theorem Blind.replace_squeeze (blind : Blind pattern render lift) (text : List Char) :
    squeeze (pattern.replace render (squeeze text)) = squeeze (pattern.replace render text) :=
  (blind.from_squeeze (.inl rfl) text).1

theorem Blind.complaint?_squeeze (blind : Blind pattern render lift) {complain : A -> Option B}
    (alike : forall found, complain (lift found) = complain found) (text : List Char) :
    pattern.complaint? complain (squeeze text) = pattern.complaint? complain text := by
  rw [Pattern.complaint?_eq, Pattern.complaint?_eq, Pattern.matchesOf, Pattern.matchesOf,
    (blind.from_squeeze (.inl rfl) text).2, List.findSome?_map]
  congr 1
  funext found
  exact alike found

end Blind

end SpokenArithmetic.Phrase

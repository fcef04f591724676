import SpokenArithmetic.Phrase.Tidy
import SpokenArithmetic.Proofs.Phrase.Compounds

set_option autoImplicit false

namespace SpokenArithmetic.Phrase

open Text

section Trimming

def trim : (before : Option Char) -> List Char -> List Char
  | _, [] => []
  | before, c :: rest =>
    if isSpace c then
      if before.any isTight || rest.head?.any (fun d => isSpace d || isTight d) then trim before rest
      else ' ' :: trim before rest
    else c :: trim (some c) rest

def squeeze (text : List Char) : List Char :=
  spaces.replace (fun _ => [' ']) text

def tighten (text : List Char) : List Char :=
  spacedSymbol.replace (fun symbol => [symbol]) text

variable {before : Option Char} {c : Char} {gap rest word : List Char}

theorem trim_other (other : isSpace c = false) : trim before (c :: rest) = c :: trim (some c) rest := by
  simp [trim, other]

theorem trim_gap (isGap : IsGap gap) (stops : rest.head?.any isSpace = false) :
    trim before (gap ++ rest) =
      if before.any isTight || rest.head?.any isTight then trim before rest else ' ' :: trim before rest := by
  induction gap with
  | nil => exact absurd rfl isGap.1
  | cons c gap ih =>
    have space : isSpace c = true := isGap.2 c List.mem_cons_self
    cases gap with
    | nil =>
      have heads : rest.head?.any (fun d => isSpace d || isTight d) = rest.head?.any isTight := by
        cases rest with
        | nil => rfl
        | cons d rest =>
          have other : isSpace d = false := stops
          simp [other]
      simp [trim, space, heads]
    | cons d gap =>
      have next : isSpace d = true := isGap.2 d (by simp)
      have inner := ih ⟨by simp, fun e member => isGap.2 e (List.mem_cons_of_mem _ member)⟩
      rw [← inner]
      simp [trim, space, next]

theorem trim_word (solid : forall c, c ∈ word -> isSpace c = false) :
    trim before (word ++ rest) = word ++ trim (lastBehind before word) rest := by
  induction word generalizing before with
  | nil => rfl
  | cons c word ih =>
    rw [List.cons_append, trim_other (solid c List.mem_cons_self),
      ih fun d member => solid d (List.mem_cons_of_mem _ member)]
    rfl

theorem trim_dropped (isGap : IsGap gap) (stops : rest.head?.any isSpace = false)
    (tight : before.any isTight = true ∨ rest.head?.any isTight = true) :
    trim before (gap ++ rest) = trim before rest := by
  rw [trim_gap isGap stops, if_pos]
  simpa using tight

theorem squeeze_other (other : isSpace c = false) : squeeze (c :: rest) = c :: squeeze rest := by
  have unmatched : spaces none (c :: rest) = none := by simp [spaces, gap?, other]
  unfold squeeze Pattern.replace
  rw [Pattern.replaceFrom, unmatched]
  exact congrArg (c :: ·) (Pattern.replaceFrom_everywhere fun _ _ => rfl)

theorem squeeze_gap (isGap : IsGap gap) (stops : rest.head?.any isSpace = false) :
    squeeze (gap ++ rest) = ' ' :: squeeze rest := by
  have matched : spaces none (gap ++ rest) = some ((), rest) := by
    simp [spaces, gap?_eq_some.2 ⟨gap, rfl, isGap, stops⟩]
  unfold squeeze Pattern.replace
  rw [Pattern.replaceFrom_matched isGap.1 matched]
  exact congrArg (' ' :: ·) (Pattern.replaceFrom_everywhere fun _ _ => rfl)

theorem squeeze_head (stops : rest.head?.any isSpace = false) : (squeeze rest).head? = rest.head? := by
  cases rest with
  | nil => rfl
  | cons c rest =>
    rw [squeeze_other stops]
    rfl

theorem skipSpace_of_head (stops : rest.head?.any isSpace = false) : skipSpace rest = rest :=
  dropWhile_of_head stops

theorem skipSpace_space (stops : rest.head?.any isSpace = false) : skipSpace (' ' :: rest) = rest := by
  have space : isSpace ' ' = true := by decide
  rw [skipSpace, List.dropWhile_cons_of_pos space]
  exact skipSpace_of_head stops

theorem tighten_symbol (tight : isTight c = true) (other : isSpace c = false) :
    tighten (c :: rest) = c :: tighten (skipSpace rest) := by
  have skipped : skipSpace (c :: rest) = c :: rest := skipSpace_of_head other
  have parts : c :: rest = (c :: rest.takeWhile isSpace) ++ skipSpace rest := by
    rw [List.cons_append, skipSpace, List.takeWhile_append_dropWhile]
  have matched : spacedSymbol none ((c :: rest.takeWhile isSpace) ++ skipSpace rest) = some (c, skipSpace rest) := by
    rw [← parts]
    simp [spacedSymbol, skipped, tight]
  unfold tighten Pattern.replace
  rw [parts, Pattern.replaceFrom_matched (by simp) matched]
  exact congrArg (c :: ·) (Pattern.replaceFrom_everywhere fun _ _ => rfl)

theorem tighten_space_symbol (tight : isTight c = true) (other : isSpace c = false) :
    tighten (' ' :: c :: rest) = c :: tighten (skipSpace rest) := by
  have skipped : skipSpace (' ' :: c :: rest) = c :: rest := skipSpace_space other
  have parts : ' ' :: c :: rest = (' ' :: c :: rest.takeWhile isSpace) ++ skipSpace rest := by
    rw [List.cons_append, List.cons_append, skipSpace, List.takeWhile_append_dropWhile]
  have matched : spacedSymbol none ((' ' :: c :: rest.takeWhile isSpace) ++ skipSpace rest) =
      some (c, skipSpace rest) := by
    rw [← parts]
    simp [spacedSymbol, skipped, tight]
  unfold tighten Pattern.replace
  rw [parts, Pattern.replaceFrom_matched (by simp) matched]
  exact congrArg (c :: ·) (Pattern.replaceFrom_everywhere fun _ _ => rfl)

theorem tighten_unmatched (unmatched : spacedSymbol none (c :: rest) = none) :
    tighten (c :: rest) = c :: tighten rest := by
  unfold tighten Pattern.replace
  rw [Pattern.replaceFrom, unmatched]
  exact congrArg (c :: ·) (Pattern.replaceFrom_everywhere fun _ _ => rfl)

theorem tighten_other (loose : isTight c = false) (other : isSpace c = false) :
    tighten (c :: rest) = c :: tighten rest := by
  apply tighten_unmatched
  have skipped : skipSpace (c :: rest) = c :: rest := skipSpace_of_head other
  simp [spacedSymbol, skipped, loose]

theorem tighten_space (stops : rest.head?.any isSpace = false) (loose : rest.head?.any isTight = false) :
    tighten (' ' :: rest) = ' ' :: tighten rest := by
  apply tighten_unmatched
  have skipped : skipSpace (' ' :: rest) = rest := skipSpace_space stops
  cases rest with
  | nil => simp [spacedSymbol, skipped]
  | cons c rest =>
    have other : isTight c = false := loose
    simp [spacedSymbol, skipped, other]

theorem gap_cases (text : List Char) :
    text.head?.any isSpace = false ∨
      exists gap rest, text = gap ++ rest ∧ IsGap gap ∧ rest.head?.any isSpace = false := by
  cases starts : text.head?.any isSpace with
  | false => exact .inl rfl
  | true =>
    have found : gap? text = some (skipSpace text) := if_pos starts
    have parts := gap?_eq_some.1 found
    exact .inr (parts.imp fun gap same => ⟨_, same⟩)

theorem tighten_squeeze (text : List Char) :
    tighten (if before.any isTight then skipSpace (squeeze text) else squeeze text) = trim before text := by
  generalize size : text.length = length
  induction length using Nat.strongRecOn generalizing text before with
  | ind length ih =>
    subst size
    rcases gap_cases text with stops | ⟨gap, rest, rfl, isGap, stops⟩
    next =>
      have unskipped : skipSpace (squeeze text) = squeeze text :=
        skipSpace_of_head (by rw [squeeze_head stops]; exact stops)
      rw [unskipped, ite_self]
      cases text with
      | nil => rfl
      | cons c rest =>
        have behind := @ih rest.length (by simp) (some c) rest rfl
        rw [squeeze_other stops, trim_other stops, ← behind]
        by_cases tight : isTight c = true
        next => rw [tighten_symbol tight stops, Option.any_some, if_pos tight]
        next => rw [tighten_other (by simpa using tight) stops, Option.any_some, if_neg tight]
    next =>
      have shorter : rest.length < (gap ++ rest).length := by
        have some := List.length_pos_iff.2 isGap.1
        rw [List.length_append]
        omega
      have behind := @ih rest.length shorter before rest rfl
      have head := squeeze_head stops
      have stopped : (squeeze rest).head?.any isSpace = false := by rw [head]; exact stops
      rw [skipSpace_of_head stopped, ite_self] at behind
      rw [squeeze_gap isGap stops, trim_gap isGap stops, skipSpace_space stopped]
      cases beside : before.any isTight with
      | true => simpa using behind
      | false =>
        cases next : rest.head?.any isTight with
        | true =>
          cases rest with
          | nil => cases next
          | cons c rest =>
            rw [squeeze_other stops] at behind ⊢
            have written := @tighten_space_symbol c (squeeze rest) next stops
            rw [tighten_symbol next stops] at behind
            simpa [written] using behind
        | false =>
          have written := @tighten_space (squeeze rest) stopped (by rw [head]; exact next)
          simp [written, behind]

end Trimming

section Collapsing

def collapse : (before : Option Char) -> List Char -> List Char
  | _, [] => []
  | before, c :: rest =>
    if isArithmetic c && before == some c then collapse before rest else c :: collapse (some c) rest

variable {before : Option Char} {c : Char} {rest word : List Char}

theorem collapse_new (new : isArithmetic c = false ∨ before ≠ some c) :
    collapse before (c :: rest) = c :: collapse (some c) rest := by
  rcases new with other | different
  next => simp [collapse, other]
  next => simp [collapse, different]

theorem collapse_again (operator : isArithmetic c = true) :
    collapse (some c) (c :: rest) = collapse (some c) rest := by
  simp [collapse, operator]

theorem collapse_word (other : forall c, c ∈ word -> isArithmetic c = false) :
    collapse before (word ++ rest) = word ++ collapse (lastBehind before word) rest := by
  induction word generalizing before with
  | nil => rfl
  | cons c word ih =>
    rw [List.cons_append, collapse_new (.inl (other c List.mem_cons_self)),
      ih fun d member => other d (List.mem_cons_of_mem _ member)]
    rfl

theorem collapse_behind (operator : isArithmetic c = true) :
    collapse (some c) rest = collapse none (rest.dropWhile (· == c)) := by
  induction rest with
  | nil => rfl
  | cons d rest ih =>
    by_cases same : d = c
    next =>
      subst same
      rw [collapse_again operator, ih, List.dropWhile_cons_of_pos (by simp)]
    next =>
      have different : some c ≠ some d := fun equal => same (Option.some.inj equal).symm
      rw [List.dropWhile_cons_of_neg (by simpa using same), collapse_new (.inr different),
        collapse_new (.inr (by simp))]

theorem collapse_free (other : isArithmetic c = false) : collapse (some c) rest = collapse none rest := by
  cases rest with
  | nil => rfl
  | cons d rest =>
    have new : isArithmetic d = false ∨ some c ≠ some d := by
      by_cases same : c = d
      next => exact .inl (same ▸ other)
      next => exact .inr fun equal => same (Option.some.inj equal)
    rw [collapse_new new, collapse_new (.inr (by simp))]

theorem replace_repeatedOperator (text : List Char) :
    repeatedOperator.replace (fun operator => [operator]) text = collapse none text := by
  generalize size : text.length = length
  induction length using Nat.strongRecOn generalizing text with
  | ind length ih =>
    subst size
    have anywhere (before : Option Char) (text : List Char) :
        repeatedOperator.replaceFrom (fun operator => [operator]) before 0 text =
          repeatedOperator.replace (fun operator => [operator]) text :=
      Pattern.replaceFrom_everywhere fun _ _ => rfl
    cases text with
    | nil => rfl
    | cons c rest =>
      have unmatched (other : repeatedOperator none (c :: rest) = none) :
          repeatedOperator.replace (fun operator => [operator]) (c :: rest) = c :: collapse none rest := by
        rw [Pattern.replace, Pattern.replaceFrom, other]
        exact congrArg (c :: ·) ((anywhere _ _).trans (ih rest.length (by simp) rest rfl))
      rw [collapse_new (.inr (by simp))]
      by_cases operator : isArithmetic c = true
      next =>
        rw [collapse_behind operator]
        cases rest with
        | nil => rfl
        | cons d rest =>
          by_cases same : d = c
          next =>
            subst same
            have parts : d :: d :: rest = (d :: d :: rest.takeWhile (· == d)) ++ rest.dropWhile (· == d) := by
              simp
            have matched : repeatedOperator none ((d :: d :: rest.takeWhile (· == d)) ++ rest.dropWhile (· == d)) =
                some (d, rest.dropWhile (· == d)) := by
              rw [← parts]
              simp [repeatedOperator, operator]
            have shorter : (rest.dropWhile (· == d)).length < (d :: d :: rest).length := by
              have bound := (List.dropWhile_sublist (l := rest) (· == d)).length_le
              simp only [List.length_cons]
              omega
            rw [Pattern.replace, parts, Pattern.replaceFrom_matched (by simp) matched, anywhere,
              ih _ shorter _ rfl, List.dropWhile_cons_of_pos (by simp)]
            rfl
          next =>
            rw [List.dropWhile_cons_of_neg (by simpa using same)]
            apply unmatched
            simp [repeatedOperator, Ne.symm same]
      next =>
        have other : isArithmetic c = false := by simpa using operator
        rw [collapse_free other]
        apply unmatched
        cases rest with
        | nil => rfl
        | cons d rest => simp [repeatedOperator, other]

end Collapsing

theorem clean_eq (text : List Char) :
    clean text = strip (dropTrailingEquals (collapse none (strip (trim none text)))) := by
  have trimmed : tighten (squeeze text) = trim none text := @tighten_squeeze none text
  have collapsed := replace_repeatedOperator (strip (trim none text))
  rw [← trimmed] at collapsed ⊢
  rw [← collapsed]
  rfl

end SpokenArithmetic.Phrase

import SpokenArithmetic.Proofs.Phrase.DigitCounts
import SpokenArithmetic.Proofs.Phrase.Shapes

set_option autoImplicit false

namespace SpokenArithmetic.Phrase

open Number Text

section Places

def IsSpaces (text : List Char) : Prop :=
  forall c, c ∈ text -> isSpace c = true

def spacedName : Shape where
  stretch := fun stretch =>
    exists (spaces : List Char) (function : Function), IsSpaces spaces ∧ stretch = spaces ++ function.name.toList
  next := fun next => next.any isWord = false

def spacedOpen : Shape where
  stretch := fun stretch => exists spaces, IsSpaces spaces ∧ stretch = spaces ++ ['(']
  next := fun _ => True

def spacedDigit : Shape where
  stretch := IsSpaces
  next := fun next => next.any isDigit = true

def BehindFactor (left : List Char) : Prop :=
  left.getLast?.any isDigitOrClose = true

def BehindClose (left : List Char) : Prop :=
  left.getLast? = some ')'

variable {text rest : List Char}

theorem space_noFactor {c : Char} (space : isSpace c = true) : isDigitOrClose c = false := by
  have other : c ≠ ')' := by
    rintro rfl
    cases (show isSpace ')' = false by decide).symm.trans space
  simp [isDigitOrClose, (space_cases space).1, other]

theorem initial_cases {c : Char} (initial : c ∈ initials) :
    isDigitOrClose c = false ∧ isSpace c = false ∧ isWord c = true ∧ c ≠ '*' ∧ c ≠ '(' := by
  have all : forall c, c ∈ initials ->
      isDigitOrClose c = false ∧ isSpace c = false ∧ isWord c = true ∧ c ≠ '*' ∧ c ≠ '(' := by
    decide +kernel
  exact all c initial

theorem name_chars (function : Function) : forall c, c ∈ function.name.toList ->
    isWord c = true ∧ isDigitOrClose c = false := by
  cases function <;> decide +kernel

theorem name_head (function : Function) : exists c rest, c ∈ initials ∧ function.name.toList = c :: rest := by
  cases function <;> exact ⟨_, _, by decide, rfl⟩

theorem skipSpace_spaces {spaces : List Char} (all : IsSpaces spaces) (stops : rest.head?.any isSpace = false) :
    skipSpace (spaces ++ rest) = rest :=
  (span_iff.2 ⟨rfl, all, stops⟩).2

theorem spacedName_starts (starts : spacedName.Starts text) :
    exists (function : Function) (rest : List Char),
      skipSpace text = function.name.toList ++ rest ∧ rest.head?.any isWord = false := by
  obtain ⟨_, rest, rfl, ⟨spaces, function, all, rfl⟩, ends⟩ := starts
  obtain ⟨c, tail, initial, name⟩ := name_head function
  refine ⟨function, rest, ?_, ends⟩
  rw [List.append_assoc]
  refine skipSpace_spaces all ?_
  rw [name]
  exact (initial_cases initial).2.1

theorem spacedOpen_starts (starts : spacedOpen.Starts text) : exists rest, skipSpace text = '(' :: rest := by
  obtain ⟨_, rest, rfl, ⟨spaces, all, rfl⟩, _⟩ := starts
  rw [List.append_assoc]
  exact ⟨rest, skipSpace_spaces all (show isSpace '(' = false by decide)⟩

theorem spacedDigit_starts (starts : spacedDigit.Starts text) :
    exists digit rest, skipSpace text = digit :: rest ∧ isDigit digit = true := by
  obtain ⟨_, rest, rfl, all, first⟩ := starts
  obtain ⟨digit, found, isDigit⟩ := (Option.any_eq_true _ _).1 first
  obtain ⟨tail, rfl⟩ := List.head?_eq_some_iff.1 found
  exact ⟨digit, tail, skipSpace_spaces all (not_space_of_isDigit isDigit), isDigit⟩

theorem initial_noSeam {c : Char} (initial : c ∈ initials) (last : Option Char) : ¬Seam last (some c) := by
  obtain ⟨factor, _, _, star, opening⟩ := initial_cases initial
  simp only [isDigitOrClose, Bool.or_eq_false_iff] at factor
  simp [Seam, star, opening, factor.1]

end Places

section Seams

theorem spliced_marked {first last : Char} {spaces : List Char} (factor : isDigitOrClose first = true)
    (ends : last = '(' ∨ isDigit last = true) :
    Spliced (first :: (spaces ++ [last])) [first, '*', last] where
  head := .inl rfl
  starts := factor
  last := .inl (by
    rw [← List.cons_append, List.getLast?_append_of_ne_nil _ (by simp)]
    rfl)
  ends := by simpa [or_comm] using ends
  inner := by
    intro one two same present more
    have solid : (skipSpace [last]).head? = some last := by
      refine congrArg List.head? (dropWhile_of_head ?_)
      rcases ends with rfl | digit
      next => decide
      next => exact not_space_of_isDigit digit
    rcases one with _ | ⟨c, _ | ⟨d, _ | ⟨e, one⟩⟩⟩
    next => exact absurd rfl present
    next =>
      obtain ⟨rfl, rfl⟩ := List.cons.inj same
      exact .inl rfl
    next =>
      obtain ⟨_, same⟩ := List.cons.inj same
      obtain ⟨rfl, rfl⟩ := List.cons.inj same
      rw [solid]
      rcases ends with rfl | digit
      next => exact .inr (.inr ⟨rfl, rfl⟩)
      next => exact .inr (.inl ⟨digit, by simp⟩)
    next =>
      have empty : one ++ two = [] := by simpa using congrArg (List.drop 3) same.symm
      exact absurd (List.append_eq_nil_iff.1 empty).2 more

theorem spliced_digits {stretch shown : List Char} (first : stretch.head?.any isDigit = true)
    (last : stretch.getLast?.any isDigit = true) (starts : shown.head?.any isDigit = true)
    (ends : shown.getLast?.any isDigit = true)
    (all : forall c, c ∈ shown -> isDigit c = true ∨ isSpace c = true) : Spliced stretch shown where
  head := .inr ⟨first, starts⟩
  starts := by
    obtain ⟨c, found, digit⟩ := (Option.any_eq_true _ _).1 starts
    simp [found, isDigitOrClose, digit]
  last := .inr ⟨last, ends⟩
  ends := by
    obtain ⟨c, found, digit⟩ := (Option.any_eq_true _ _).1 ends
    simp [found, digit]
  inner := by
    rintro one two rfl present more
    refine .inr (.inl ⟨?_, fun close => ?_⟩)
    next =>
      -- The digit at the end keeps the second part from being white space alone.
      rw [List.getLast?_append_of_ne_nil _ more] at ends
      obtain ⟨parts, spaces, stops⟩ := (@span_iff isSpace two _ _).1 ⟨rfl, rfl⟩
      cases left : skipSpace two with
      | nil =>
        rw [show two.dropWhile isSpace = [] from left, List.append_nil] at parts
        obtain ⟨c, found, digit⟩ := (Option.any_eq_true _ _).1 ends
        have space := spaces c (parts ▸ List.mem_of_getLast? found)
        rw [not_space_of_isDigit digit] at space
        cases space
      | cons c rest =>
        have member : c ∈ one ++ two :=
          List.mem_append_right _ ((skipSpace_suffix two).subset (left ▸ List.mem_cons_self))
        rw [show two.dropWhile isSpace = c :: rest from left] at stops
        rcases all c member with digit | space
        next => exact digit
        next => cases stops.symm.trans space
    next =>
      have member : ')' ∈ one ++ two := List.mem_append_left _ (List.mem_of_getLast? close)
      rcases all _ member with digit | space
      next => cases (show isDigit ')' = false by decide).symm.trans digit
      next => cases (show isSpace ')' = false by decide).symm.trans space

end Seams

section Matches

variable {before : Option Char} {text behind : List Char}

theorem factorBeforeOpen_eq_some {factor : Char} :
    factorBeforeOpen before text = some (factor, behind) ↔
      exists rest, text = factor :: rest ∧ skipSpace rest = '(' :: behind ∧ isDigitOrClose factor = true := by
  unfold factorBeforeOpen
  cases text with
  | nil => simp
  | cons c rest =>
    simp only [Option.bind_eq_bind, Option.bind_eq_some_iff, after?_eq_some]
    constructor
    next =>
      rintro ⟨tail, skipped, found⟩
      split at found
      next kind =>
        obtain ⟨rfl, rfl⟩ := Prod.mk.inj (Option.some.inj found)
        exact ⟨rest, rfl, skipped, kind⟩
      next => cases found
    next =>
      rintro ⟨_, same, skipped, kind⟩
      obtain ⟨rfl, rfl⟩ := List.cons.inj same
      exact ⟨behind, skipped, by rw [if_pos kind]⟩

theorem closeBeforeDigit_eq_some {digit : Char} :
    closeBeforeDigit before text = some (digit, behind) ↔
      exists rest, text = ')' :: rest ∧ skipSpace rest = digit :: behind ∧ isDigit digit = true := by
  unfold closeBeforeDigit
  constructor
  next =>
    intro found
    split at found
    next rest =>
      split at found
      next c tail skipped =>
        split at found
        next kind =>
          obtain ⟨rfl, rfl⟩ := Prod.mk.inj (Option.some.inj found)
          exact ⟨rest, rfl, skipped, kind⟩
        next => cases found
      next => cases found
    next => cases found
  next =>
    rintro ⟨rest, rfl, skipped, kind⟩
    simp [skipped, kind]

theorem wholeFunctionName?_eq_some {function : Function}
    (found : wholeFunctionName? text = some (function, behind)) :
    text = function.name.toList ++ behind ∧ behind.head?.any isWord = false := by
  obtain ⟨other, _, found⟩ := List.exists_of_findSome?_eq_some found
  obtain ⟨rest, named, found⟩ := Option.bind_eq_some_iff.1 found
  split at found
  next => cases found
  next ends =>
    obtain ⟨rfl, rfl⟩ := Prod.mk.inj (Option.some.inj found)
    exact ⟨after?_eq_some.1 named, by simpa using ends⟩

theorem wholeFunctionName?_name (function : Function) (ends : behind.head?.any isWord = false) :
    wholeFunctionName? (function.name.toList ++ behind) ≠ none := by
  intro missed
  have member : function ∈ Function.all := by cases function <;> decide
  have found := List.findSome?_eq_none_iff.1 missed function member
  simp [after?_eq_some.2, ends] at found

theorem factorBeforeFunction_eq_some {found : Char × Function}
    (matched : factorBeforeFunction before text = some (found, behind)) :
    exists rest, text = found.1 :: rest ∧ skipSpace rest = found.2.name.toList ++ behind ∧
      behind.head?.any isWord = false ∧ isDigitOrClose found.1 = true := by
  cases text with
  | nil => cases matched
  | cons factor rest =>
    obtain ⟨⟨function, last⟩, named, matched⟩ := Option.bind_eq_some_iff.1 matched
    obtain ⟨whole, ends⟩ := wholeFunctionName?_eq_some named
    dsimp only at matched
    split at matched
    next kind =>
      obtain ⟨rfl, rfl⟩ := Prod.mk.inj (Option.some.inj matched)
      exact ⟨rest, rfl, whole, ends, kind⟩
    next => cases matched

theorem splices_factorBeforeOpen : Splices factorBeforeOpen (fun factor => [factor, '*', '(']) := by
  intro before text factor behind matched
  obtain ⟨rest, rfl, skipped, kind⟩ := factorBeforeOpen_eq_some.1 matched
  obtain ⟨spaces, rfl, _⟩ := skipSpace_parts skipped
  exact ⟨factor :: (spaces ++ ['(']), by simp, spliced_marked kind (.inl rfl)⟩

theorem splices_closeBeforeDigit : Splices closeBeforeDigit (fun digit => [')', '*', digit]) := by
  intro before text digit behind matched
  obtain ⟨rest, rfl, skipped, kind⟩ := closeBeforeDigit_eq_some.1 matched
  obtain ⟨spaces, rfl, _⟩ := skipSpace_parts skipped
  exact ⟨')' :: (spaces ++ [digit]), by simp, spliced_marked (by decide) (.inr kind)⟩

theorem splices_scaled (zeros : Nat) :
    Splices (scaled (scale zeros)) (fun group => toDigits (ofDigits group * tenTo zeros)) := by
  intro before text group behind matched
  obtain ⟨parts, rfl, fits, _⟩ := scaled_eq_some.1 matched
  have ends := (scaledParts_chars fits).2
  obtain ⟨_, isGroup, gap, _, rfl⟩ := fits
  have written := isDigits_toDigits (ofDigits group * tenTo zeros)
  refine ⟨_, rfl, spliced_digits (isGroup.head _) ends ?_ ?_ fun c member => .inl (written.2 c member)⟩
  next => simpa using written.head []
  next => exact @getLast?_append_digits [] _ written

theorem splices_neighbours : Splices neighbours Neighbours.merged := by
  intro before text found behind matched
  obtain ⟨parts, rfl, fits, _⟩ := neighbours_eq_some.1 matched
  obtain ⟨chars, ends⟩ := neighbourParts_chars fits
  obtain ⟨_, isHigh, _, isLow, _, rfl⟩ := fits
  refine ⟨_, rfl, ?_⟩
  unfold Neighbours.merged
  split
  next =>
    have written := isDigits_toDigits found.sum
    refine spliced_digits (isHigh.head _) ends ?_ ?_ fun c member => .inl (written.2 c member)
    next => simpa using written.head []
    next => exact @getLast?_append_digits [] _ written
  next =>
    split
    next =>
      refine spliced_digits (isHigh.head _) ends (isHigh.head _) (getLast?_append_digits isLow) fun c member => ?_
      exact .inl ((List.mem_append.1 member).elim (isHigh.2 c) (isLow.2 c))
    next =>
      rw [List.append_assoc]
      exact spliced_digits (isHigh.head _) ends (isHigh.head _) ends chars

theorem beginsAlike_factorBeforeFunction :
    BeginsAlike factorBeforeFunction (fun found => found.1 :: '*' :: found.2.name.toList) := by
  intro before text found behind matched
  obtain ⟨rest, rfl, skipped, _, kind⟩ := factorBeforeFunction_eq_some matched
  obtain ⟨spaces, rfl, _⟩ := skipSpace_parts skipped
  exact ⟨found.1 :: (spaces ++ found.2.name.toList), by simp, .inl rfl, kind⟩

end Matches

section Settled

variable {A : Type} {pattern : Pattern A} {render : A -> List Char} {shape : Shape}

theorem not_behind_of_found (alike : BeginsAlike pattern render) (kept : shape.Kept pattern render)
    {front : Option Char -> Prop} (noStart : ¬front none)
    (finds : forall before c right, front (some c) -> shape.Starts right -> pattern before (c :: right) ≠ none)
    (ends : forall before text result behind, pattern before text = some (result, behind) ->
      ¬front (render result).getLast?)
    (insides : forall before text result behind one two rest, pattern before text = some (result, behind) ->
      render result = one ++ two -> one ≠ [] -> two ≠ [] -> front one.getLast? -> ¬shape.Starts (two ++ rest))
    (text : List Char) : ¬shape.Behind (fun left => front left.getLast?) (pattern.replace render text) := by
  intro stands
  have back : shape.Behind (fun _ => False) text := by
    refine Shape.behind_of_replaced (Pattern.replaced_replace alike.consumes text) kept ?_ ?_ stands
    next =>
      intro left shown right rest replaced last starts _ _
      rcases replaced.snoc_cases with ⟨rfl, rfl⟩ | ⟨_, _, c, rfl, rfl, unmatched, _⟩ |
        ⟨_, _, shown, result, rfl, rfl, _, matched, _⟩
      next => exact noStart last
      next =>
        rw [List.getLast?_concat] at last
        exact finds _ c right last starts unmatched
      next =>
        obtain ⟨_, _, _, starts⟩ := alike _ _ _ _ matched
        have present : render result ≠ [] := by
          intro empty
          rw [empty] at starts
          cases starts
        rw [List.getLast?_append_of_ne_nil _ present] at last
        exact ends _ _ _ _ matched last
    next =>
      intro left stretch right shown one two behind before result _ matched rendered present more _ last starts
      rw [List.getLast?_append_of_ne_nil _ present] at last
      exact absurd starts (insides _ _ _ _ _ _ _ matched rendered present more last)
  obtain ⟨_, _, _, never, _⟩ := back
  exact never

theorem kept_spacedName (alike : BeginsAlike pattern render) : spacedName.Kept pattern render := by
  refine alike.kept ?_ fun first second kind ends => kind.word.trans ends
  rintro _ ⟨spaces, function, all, rfl⟩ c member
  rcases List.mem_append.1 member with space | letter
  next => exact space_noFactor (all c space)
  next => exact (name_chars function c letter).2

theorem kept_spacedOpen (alike : BeginsAlike pattern render) : spacedOpen.Kept pattern render := by
  refine alike.kept ?_ fun _ _ _ _ => trivial
  rintro _ ⟨spaces, all, rfl⟩ c member
  rcases List.mem_append.1 member with space | mark
  next => exact space_noFactor (all c space)
  next =>
    obtain rfl := List.mem_singleton.1 mark
    decide

theorem kept_spacedDigit (alike : BeginsAlike pattern render) : spacedDigit.Kept pattern render :=
  alike.kept (fun _ all c member => space_noFactor (all c member)) fun _ _ kind digit => kind.digit.trans digit

theorem spacedName_noSeam {right : List Char} (starts : spacedName.Starts right) (last : Option Char) :
    ¬Seam last (skipSpace right).head? := by
  obtain ⟨function, rest, named, _⟩ := spacedName_starts starts
  obtain ⟨c, tail, initial, name⟩ := name_head function
  rw [named, name]
  exact initial_noSeam initial last

theorem spacedOpen_noSeam {last : Option Char} {right : List Char} (factor : last.any isDigitOrClose = true)
    (starts : spacedOpen.Starts right) : ¬Seam last (skipSpace right).head? := by
  obtain ⟨rest, opened⟩ := spacedOpen_starts starts
  rw [opened]
  rintro (star | ⟨digit, _⟩ | ⟨_, rfl⟩)
  next => cases star
  next => cases digit
  next => cases factor

theorem spacedDigit_noSeam {last : Option Char} {right : List Char} (close : last = some ')')
    (starts : spacedDigit.Starts right) : ¬Seam last (skipSpace right).head? := by
  obtain ⟨digit, rest, first, isDigit⟩ := spacedDigit_starts starts
  rw [first]
  rintro (star | ⟨_, other⟩ | ⟨opening, _⟩)
  next =>
    obtain rfl := Option.some.inj star
    cases isDigit
  next => exact other close
  next =>
    obtain rfl := Option.some.inj opening
    cases isDigit

variable {text : List Char}

theorem Splices.behind_name (splices : Splices pattern render)
    (stands : spacedName.Behind BehindFactor (pattern.replace render text)) : spacedName.Behind BehindFactor text :=
  splices.behind (kept_spacedName splices.beginsAlike)
    (fun replaced factor _ => (splices.last replaced).factor.trans factor)
    (fun _ starts => spacedName_noSeam starts _) stands

theorem Splices.behind_open (splices : Splices pattern render)
    (stands : spacedOpen.Behind BehindFactor (pattern.replace render text)) : spacedOpen.Behind BehindFactor text :=
  splices.behind (kept_spacedOpen splices.beginsAlike)
    (fun replaced factor _ => (splices.last replaced).factor.trans factor)
    (fun factor starts => spacedOpen_noSeam factor starts) stands

theorem Splices.behind_digit (splices : Splices pattern render)
    (stands : spacedDigit.Behind BehindClose (pattern.replace render text)) : spacedDigit.Behind BehindClose text :=
  splices.behind (kept_spacedDigit splices.beginsAlike)
    (fun replaced close _ => (splices.last replaced).eq_of_other (by decide) close)
    (fun close starts => spacedDigit_noSeam close starts) stands

theorem name_last (function : Function) (front : List Char) :
    exists c, c ∈ function.name.toList ∧ (front ++ function.name.toList).getLast? = some c := by
  obtain ⟨first, rest, _, name⟩ := name_head function
  have present : function.name.toList ≠ [] := by simp [name]
  refine ⟨_, List.getLast_mem present, ?_⟩
  rw [List.getLast?_append_of_ne_nil _ present, List.getLast?_eq_some_getLast present]

theorem product_cut {factor : Char} {function : Function} {one two : List Char}
    (same : factor :: '*' :: function.name.toList = one ++ two) (present : one ≠ []) :
    (one = [factor] ∧ two = '*' :: function.name.toList) ∨ (one = [factor, '*'] ∧ two = function.name.toList) ∨
      exists c, c ∈ function.name.toList ∧ one.getLast? = some c := by
  rcases one with _ | ⟨c, _ | ⟨d, one⟩⟩
  next => exact absurd rfl present
  next =>
    obtain ⟨rfl, rfl⟩ := List.cons.inj same
    exact .inl ⟨rfl, rfl⟩
  next =>
    obtain ⟨rfl, behind⟩ := List.cons.inj same
    obtain ⟨rfl, name⟩ := List.cons.inj behind
    cases one with
    | nil => exact .inr (.inl ⟨rfl, name.symm⟩)
    | cons e one =>
      have some : e :: one ≠ [] := by simp
      have member : (e :: one).getLast some ∈ function.name.toList := by
        rw [name]
        exact List.mem_append_left two (List.getLast_mem some)
      refine .inr (.inr ⟨_, member, ?_⟩)
      rw [List.getLast?_cons_cons, List.getLast?_cons_cons, List.getLast?_eq_some_getLast some]

theorem factorBeforeFunction_found {before : Option Char} {factor : Char} {right : List Char}
    (kind : isDigitOrClose factor = true) (starts : spacedName.Starts right) :
    factorBeforeFunction before (factor :: right) ≠ none := by
  obtain ⟨function, rest, named, ends⟩ := spacedName_starts starts
  obtain ⟨pair, found⟩ := Option.ne_none_iff_exists'.1 (wholeFunctionName?_name function ends)
  simp [factorBeforeFunction, named, found, kind]

theorem not_spacedName (text : List Char) : ¬spacedName.Behind BehindFactor
    (factorBeforeFunction.replace (fun found => found.1 :: '*' :: found.2.name.toList) text) := by
  refine @not_behind_of_found _ _ _ _
    beginsAlike_factorBeforeFunction (kept_spacedName beginsAlike_factorBeforeFunction)
    (fun last => last.any isDigitOrClose = true) (by simp) ?_ ?_ ?_ text
  next =>
    intro before factor right kind starts
    exact factorBeforeFunction_found kind starts
  next =>
    intro _ _ found _ _ factor
    obtain ⟨c, member, last⟩ := name_last found.2 [found.1, '*']
    rw [List.cons_append, List.cons_append, List.nil_append] at last
    rw [last] at factor
    simp [(name_chars _ c member).2] at factor
  next =>
    intro _ _ found _ one two rest _ same present more factor starts
    rcases product_cut same present with ⟨rfl, rfl⟩ | ⟨rfl, rfl⟩ | ⟨c, member, last⟩
    next => exact spacedName_noSeam starts none (.inl rfl)
    next => cases factor
    next =>
      rw [last] at factor
      simp [(name_chars _ c member).2] at factor

theorem not_spacedOpen (text : List Char) : ¬spacedOpen.Behind BehindFactor
    (factorBeforeOpen.replace (fun factor => [factor, '*', '(']) text) := by
  refine @not_behind_of_found _ _ _ _
    splices_factorBeforeOpen.beginsAlike (kept_spacedOpen splices_factorBeforeOpen.beginsAlike)
    (fun last => last.any isDigitOrClose = true) (by simp) ?_ ?_ ?_ text
  next =>
    intro before factor right kind starts unmatched
    obtain ⟨rest, opened⟩ := spacedOpen_starts starts
    have found := (@factorBeforeOpen_eq_some before (factor :: right) rest factor).2 ⟨right, rfl, opened, kind⟩
    cases unmatched.symm.trans found
  next =>
    intro _ _ _ _ _ factor
    cases factor
  next =>
    intro _ _ _ _ one two rest matched same present more factor starts
    exact spacedOpen_noSeam factor starts (splices_factorBeforeOpen.seam matched same present more rest)

theorem not_spacedDigit (text : List Char) : ¬spacedDigit.Behind BehindClose
    (closeBeforeDigit.replace (fun digit => [')', '*', digit]) text) := by
  refine @not_behind_of_found _ _ _ _
    splices_closeBeforeDigit.beginsAlike (kept_spacedDigit splices_closeBeforeDigit.beginsAlike)
    (fun last => last = some ')') (by simp) ?_ ?_ ?_ text
  next =>
    rintro before _ right close starts unmatched
    obtain rfl := Option.some.inj close
    obtain ⟨digit, rest, first, isDigit⟩ := spacedDigit_starts starts
    have found := (@closeBeforeDigit_eq_some before (')' :: right) rest digit).2 ⟨right, rfl, first, isDigit⟩
    cases unmatched.symm.trans found
  next =>
    intro _ _ digit _ matched close
    obtain ⟨_, _, _, isDigit⟩ := closeBeforeDigit_eq_some.1 matched
    obtain rfl := Option.some.inj close
    cases isDigit
  next =>
    intro _ _ _ _ one two rest matched same present more close starts
    exact spacedDigit_noSeam close starts (splices_closeBeforeDigit.seam matched same present more rest)

end Settled

end SpokenArithmetic.Phrase

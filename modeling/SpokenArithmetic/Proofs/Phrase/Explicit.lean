import SpokenArithmetic.Proofs.Phrase.LooseCalls

set_option autoImplicit false

namespace SpokenArithmetic.Phrase

open Number Text Token

section Strays

def EndsProduct (left : List Char) : Prop :=
  exists start factor, left = start ++ [factor, '*'] ∧ isDigitOrClose factor = true

def Unbound (glued : Prop) (last : Option Char) : Prop :=
  (last.any isWord = false ∧ last ≠ some ')') ∨ (¬glued ∧ last.any isDigitOrClose = true)

def Stray (glued : Prop) (left : List Char) : Prop :=
  left.getLast?.any isWord = false ∧ ¬(glued ∧ EndsProduct left)

variable {A : Type} {pattern : Pattern A} {render : A -> List Char} {function : Function} {glued : Prop}
  {before : Option Char} {text out after : List Char}

theorem closing_unbound : Closing (Unbound glued) := by
  rintro (⟨_, other⟩ | ⟨unglued, _⟩) c ends
  next => exact absurd rfl other
  next =>
    rcases Bool.or_eq_true_iff.1 ends with numeral | close
    next =>
      rcases Bool.or_eq_true_iff.1 numeral with digit | point
      next => exact .inr ⟨unglued, by simp [isDigitOrClose, digit]⟩
      next =>
        obtain rfl := beq_iff_eq.1 point
        exact .inl ⟨by decide, by decide⟩
    next => exact .inr ⟨unglued, by simp [isDigitOrClose, close]⟩

theorem BeginsAlike.kept_call (alike : BeginsAlike pattern render) (function : Function) :
    (spacedCall function).Kept pattern render := by
  refine alike.kept ?_ fun first second kind digit => kind.digit.trans digit
  rintro _ ⟨stretch, argument, rfl⟩ c member
  rcases List.mem_append.1 member with letter | inside
  next => exact (name_chars function c letter).2
  next => exact argument_noFactor argument c inside

theorem unbound_spaces {left spaces : List Char} {c : Char} (unglued : ¬glued) (kind : isDigitOrClose c = true)
    (all : IsSpaces spaces) : Unbound glued (left ++ c :: spaces).getLast? := by
  rw [List.getLast?_append_of_ne_nil _ (by simp)]
  by_cases apart : spaces = []
  next =>
    subst apart
    exact .inr ⟨unglued, kind⟩
  next =>
    have space := all _ (List.getLast_mem apart)
    rw [← List.singleton_append, List.getLast?_append_of_ne_nil _ apart, List.getLast?_eq_some_getLast apart]
    refine .inl ⟨space_not_word space, fun close => ?_⟩
    rw [Option.some.inj close] at space
    cases space

def multiplied (found : Char × Function) : List Char :=
  found.1 :: '*' :: found.2.name.toList

theorem unbound_factorBeforeFunction {left shown right : List Char}
    (replaced : factorBeforeFunction.Replaced multiplied none left shown right)
    (free : shown.getLast?.any isWord = false) (starts : (spacedCall function).Starts right) :
    Unbound glued left.getLast? := by
  rcases replaced.snoc_cases with ⟨rfl, rfl⟩ | ⟨_, _, c, rfl, rfl, unmatched, _⟩ |
    ⟨_, _, shown, result, rfl, rfl, _, matched, _⟩
  next => exact .inl ⟨rfl, by simp⟩
  next =>
    rw [List.getLast?_concat] at free ⊢
    refine .inl ⟨free, fun close => ?_⟩
    obtain rfl := Option.some.inj close
    exact factorBeforeFunction_found (by decide) (spacedName_of_call starts) unmatched
  next =>
    obtain ⟨c, member, last⟩ := name_last result.2 (shown ++ [result.1, '*'])
    rw [List.append_assoc] at last
    rw [multiplied, show shown ++ (result.1 :: '*' :: result.2.name.toList) =
      shown ++ ([result.1, '*'] ++ result.2.name.toList) from rfl, last] at free
    cases free.symm.trans (name_chars _ c member).1

-- The call begins with the name that was found.
theorem call_factorBeforeFunction {before behindFactor : Option Char} {found right behind : List Char}
    {result : Char × Function} (matched : factorBeforeFunction before found = some (result, right))
    (blocks : factorBeforeFunction.Replaced multiplied behindFactor right behind [])
    (starts : (spacedCall function).Starts (result.2.name.toList ++ behind)) :
    exists spaces, found = result.1 :: spaces ++ (result.2.name.toList ++ right) ∧ IsSpaces spaces ∧
      isDigitOrClose result.1 = true ∧ (spacedCall function).Starts (result.2.name.toList ++ right) := by
  have alike := beginsAlike_factorBeforeFunction
  obtain ⟨rest, rfl, skipped, ends, kind⟩ := factorBeforeFunction_eq_some matched
  obtain ⟨parts, all, _⟩ := (@span_iff isSpace rest _ _).1 ⟨rfl, skipped⟩
  obtain ⟨name, argument⟩ := spacedCall_word starts (fun c member => (name_chars _ c member).1)
    ((alike.head blocks).word.symm.trans ends)
  refine ⟨_, congrArg (result.1 :: ·) parts, all, kind, spacedCall_starts.2 ⟨right, by rw [name], ?_⟩⟩
  exact alike.kept (fun _ => argument_noFactor) (fun _ _ kind digit => kind.digit.trans digit) _ _ _ blocks argument

theorem behind_factorBeforeFunction
    (stands : (spacedCall function).Behind (Stray glued)
      (factorBeforeFunction.replace (fun found => found.1 :: '*' :: found.2.name.toList) text)) :
    (spacedCall function).Behind (fun left => Unbound glued left.getLast?) text := by
  have alike := beginsAlike_factorBeforeFunction
  refine Shape.behind_of_replaced (Pattern.replaced_replace alike.consumes text) (alike.kept_call function) ?_ ?_ stands
  next =>
    rintro left shown right rest replaced ⟨free, _⟩ starts _ _
    exact unbound_factorBeforeFunction replaced free starts
  next =>
    rintro left stretch right shown one two behind before result rfl matched rendered present _ blocks
      ⟨free, marked⟩ starts
    rcases product_cut rendered present with ⟨rfl, rfl⟩ | ⟨rfl, rfl⟩ | ⟨c, member, last⟩
    next =>
      obtain ⟨c, rest, same, initial⟩ := spacedCall_head starts
      obtain ⟨rfl, _⟩ := List.cons.inj same
      cases (initial_cases initial).2.2.2.1 rfl
    next =>
      obtain ⟨spaces, parts, all, kind, begins⟩ := call_factorBeforeFunction matched blocks starts
      have unglued : ¬glued := fun holds => marked ⟨holds, shown, result.1, rfl, kind⟩
      exact ⟨left ++ result.1 :: spaces, result.2.name.toList ++ right, by rw [parts, List.append_assoc],
        unbound_spaces unglued kind all, begins⟩
    next =>
      rw [List.getLast?_append_of_ne_nil _ present, last] at free
      cases free.symm.trans (name_chars _ c member).1

theorem Splices.endsProduct (splices : Splices pattern render)
    (replaced : pattern.Replaced render before text out after) (ends : EndsProduct text) : EndsProduct out := by
  obtain ⟨start, factor, parts, kind⟩ := ends
  rcases replaced.snoc_cases with ⟨rfl, rfl⟩ | ⟨front, shown, c, rfl, rfl, _, blocks⟩ |
    ⟨front, stretch, shown, result, rfl, rfl, present, matched, _⟩
  next => simp at parts
  next =>
    obtain ⟨rfl, star⟩ : front = start ++ [factor] ∧ [c] = ['*'] :=
      List.append_inj' (by simpa using parts) rfl
    obtain rfl := (List.cons.inj star).1
    have last := splices.last blocks
    rw [List.getLast?_concat] at last
    obtain ⟨d, found, factor'⟩ := (Option.any_eq_true _ _).1 (last.factor.symm.trans kind)
    obtain ⟨begin_, rfl⟩ := List.getLast?_eq_some_iff.1 found
    exact ⟨begin_, d, by simp, factor'⟩
  next =>
    obtain ⟨other, same, spliced⟩ := splices _ _ _ _ matched
    obtain rfl := List.append_cancel_right same
    have star : stretch.getLast? = some '*' := by
      have last := congrArg List.getLast? parts
      rw [List.getLast?_append_of_ne_nil _ present] at last
      simpa using last
    have ends := spliced.ends
    rcases spliced.last with equal | ⟨digit, _⟩
    next =>
      rw [← equal, star] at ends
      cases ends
    next =>
      rw [star] at digit
      cases digit

theorem Splices.behind_call (splices : Splices pattern render)
    (stands : (spacedCall function).Behind (Stray glued) (pattern.replace render text)) :
    (spacedCall function).Behind (Stray glued) text := by
  refine splices.behind (splices.beginsAlike.kept_call function) ?_ ?_ stands
  next =>
    rintro left shown right replaced ⟨free, marked⟩ _
    exact ⟨(splices.last replaced).word.trans free, fun ends => marked (ends.imp_right (splices.endsProduct replaced))⟩
  next =>
    intro left right _ starts
    obtain ⟨c, rest, rfl, initial⟩ := spacedCall_head starts
    rw [skipSpace, List.dropWhile_cons_of_neg (by simp [(initial_cases initial).2.1])]
    exact initial_noSeam initial _

end Strays

section Calls

def GluedCall (text : List Char) : Prop :=
  exists function, (spacedCall function).Behind (fun left => left.getLast?.any isDigit = true) text

variable {function : Function} {front : Option Char -> Prop} {glued : Prop} {text : List Char}

theorem closing_digit : Closing fun last => last.any isDigit = true :=
  fun close => nomatch close

theorem parenthesizePowers_behind (closing : Closing front)
    (stands : (spacedCall function).Behind (fun left => front left.getLast?) (parenthesizePowers text)) :
    (spacedCall function).Behind (fun left => front left.getLast?) text := by
  have cubes := encloses_barePower.behind closing stands
  have squares := (encloses_raisedTo (show isDigit '3' = true by decide)).behind closing cubes
  exact (encloses_raisedTo (show isDigit '2' = true by decide)).behind closing squares

theorem writeCalls_behind (closing : Closing front) {other : Function}
    (stands : (spacedCall function).Behind (fun left => front left.getLast?) (writeCalls text other)) :
    (spacedCall function).Behind (fun left => front left.getLast?) text :=
  (encloses_parenthesizedCall other).behind closing ((encloses_bareCall other).behind closing stands)

theorem foldl_writeCalls_behind (closing : Closing front) (functions : List Function)
    (stands : (spacedCall function).Behind (fun left => front left.getLast?) (functions.foldl writeCalls text)) :
    (spacedCall function).Behind (fun left => front left.getLast?) text := by
  induction functions generalizing text with
  | nil => exact stands
  | cons other functions ih => exact writeCalls_behind closing (ih stands)

theorem writeCalls_settles (unglued : ¬glued -> ¬GluedCall text) :
    ¬(spacedCall function).Behind (fun left => Unbound glued left.getLast?) (writeCalls text function) := by
  intro stands
  obtain ⟨left, right, parts, ⟨loose, word⟩, starts⟩ := behind_bareCall closing_unbound stands
  rcases loose with ⟨free, _⟩ | ⟨none, factor⟩
  next => cases free.symm.trans word
  next =>
    obtain ⟨c, last, letter⟩ := (Option.any_eq_true _ _).1 word
    rw [last] at factor
    have digit : isDigit c = true := by
      rcases Bool.or_eq_true_iff.1 factor with digit | close
      next => exact digit
      next =>
        obtain rfl := beq_iff_eq.1 close
        cases letter
    refine unglued none ⟨function, (encloses_parenthesizedCall function).behind closing_digit ?_⟩
    exact ⟨left, right, parts, by simpa [last] using digit, starts⟩

theorem foldl_writeCalls_settles (functions : List Function) (unglued : ¬glued -> ¬GluedCall text)
    (member : function ∈ functions) :
    ¬(spacedCall function).Behind (fun left => Unbound glued left.getLast?) (functions.foldl writeCalls text) := by
  induction functions generalizing text with
  | nil => cases member
  | cons other functions ih =>
    rcases List.mem_cons.1 member with rfl | later
    next => exact fun stands => writeCalls_settles unglued (foldl_writeCalls_behind closing_unbound functions stands)
    next =>
      refine ih (fun none => ?_) later
      rintro ⟨glued, stands⟩
      exact unglued none ⟨glued, writeCalls_behind closing_digit stands⟩

end Calls

section Explicit

/-- No product without a sign is left, and no call without parentheses but one behind the sign of a
product that was written at a digit glued to a call. -/
structure IsExplicit (glued : Prop) (text : List Char) : Prop where
  names : ¬spacedName.Behind BehindFactor text
  openings : ¬spacedOpen.Behind BehindFactor text
  digits : ¬spacedDigit.Behind BehindClose text
  calls : forall function, ¬(spacedCall function).Behind (Stray glued) text

variable {glued : Prop} {text : List Char}

theorem Splices.isExplicit {A : Type} {pattern : Pattern A} {render : A -> List Char}
    (splices : Splices pattern render) (isExplicit : IsExplicit glued text) :
    IsExplicit glued (pattern.replace render text) where
  names := fun stands => isExplicit.names (splices.behind_name stands)
  openings := fun stands => isExplicit.openings (splices.behind_open stands)
  digits := fun stands => isExplicit.digits (splices.behind_digit stands)
  calls := fun function stands => isExplicit.calls function (splices.behind_call stands)

theorem writeProducts_isExplicit
    (loose : forall function, ¬(spacedCall function).Behind (fun left => Unbound glued left.getLast?) text) :
    IsExplicit glued (writeProducts text) where
  names := fun stands => not_spacedName text
    (splices_factorBeforeOpen.behind_name (splices_closeBeforeDigit.behind_name stands))
  openings := fun stands => not_spacedOpen _ (splices_closeBeforeDigit.behind_open stands)
  digits := not_spacedDigit _
  calls := fun function stands => loose function (behind_factorBeforeFunction
    (splices_factorBeforeOpen.behind_call (splices_closeBeforeDigit.behind_call stands)))

theorem explicit_isExplicit (text : List Char) : IsExplicit (GluedCall text) (explicit text) := by
  refine writeProducts_isExplicit fun function => ?_
  refine foldl_writeCalls_settles Function.all (fun unglued => ?_) (by cases function <;> decide)
  rintro ⟨glued, stands⟩
  exact unglued ⟨glued, parenthesizePowers_behind closing_digit stands⟩

theorem compound_isExplicit (isExplicit : IsExplicit glued text) : IsExplicit glued (compound text) := by
  have merged (rounds : Nat) {text : List Char} (isExplicit : IsExplicit glued text) :
      IsExplicit glued (mergeOnce^[rounds] text) := by
    induction rounds generalizing text with
    | zero => exact isExplicit
    | succ rounds ih => exact ih (splices_neighbours.isExplicit isExplicit)
  unfold compound
  dsimp only
  rw [mergeAll_eq_iterate]
  exact merged _ ((splices_scaled 3).isExplicit ((splices_scaled 2).isExplicit isExplicit))

/-- A structured text has no product without a sign: behind a digit or `)` come, white space aside, no
`(` and no whole name of a function, and behind `)` comes no digit. A function's name with its argument
behind white space is left only behind the sign of a product, and only where the text had a digit
directly in front of such a call. -/
theorem structured_isExplicit (text : List Char) :
    (forall front factor rest, structureSpecialCases text = front ++ factor :: rest -> isDigitOrClose factor = true ->
      (skipSpace rest).head? ≠ some '(' ∧
        forall (function : Function) (behind : List Char), skipSpace rest = function.name.toList ++ behind ->
          behind.head?.any isWord = true) ∧
    (forall front rest, structureSpecialCases text = front ++ ')' :: rest ->
      (skipSpace rest).head?.any isDigit = false) ∧
    (forall front function rest, structureSpecialCases text = front ++ rest -> front.getLast?.any isWord = false ->
      (spacedCall function).Starts rest -> EndsProduct front ∧ GluedCall text) := by
  have isExplicit := compound_isExplicit (explicit_isExplicit text)
  have spaces (rest : List Char) : exists spaces, rest = spaces ++ skipSpace rest ∧ IsSpaces spaces := by
    obtain ⟨parts, all, _⟩ := (@span_iff isSpace rest _ _).1 ⟨rfl, rfl⟩
    exact ⟨_, parts, all⟩
  have cut (front rest : List Char) (c : Char) : front ++ c :: rest = (front ++ [c]) ++ rest := by simp
  refine ⟨fun front factor rest parts kind => ⟨fun opening => ?_, fun function behind name => ?_⟩,
    fun front rest parts => ?_, fun front function rest parts free starts => ?_⟩
  next =>
    obtain ⟨tail, first⟩ := List.head?_eq_some_iff.1 opening
    obtain ⟨gap, whole, all⟩ := spaces rest
    refine isExplicit.openings ⟨front ++ [factor], rest, parts.trans (cut _ _ _), by simpa [BehindFactor] using kind,
      gap ++ ['('], tail, ?_, ⟨gap, all, rfl⟩, trivial⟩
    rw [whole, first, List.append_assoc]
    rfl
  next =>
    by_contra ends
    obtain ⟨gap, whole, all⟩ := spaces rest
    refine isExplicit.names ⟨front ++ [factor], rest, parts.trans (cut _ _ _), by simpa [BehindFactor] using kind,
      gap ++ function.name.toList, behind, ?_, ⟨gap, function, all, rfl⟩, eq_false_of_ne_true ends⟩
    rw [whole, name, List.append_assoc]
  next =>
    by_contra digit
    obtain ⟨gap, whole, all⟩ := spaces rest
    exact isExplicit.digits ⟨front ++ [')'], rest, parts.trans (cut _ _ _), by simp [BehindClose],
      gap, skipSpace rest, whole, all, eq_true_of_ne_false digit⟩
  next =>
    by_contra other
    exact isExplicit.calls function ⟨front, rest, parts, ⟨free, fun both => other both.symm⟩, starts⟩

theorem structured_isExplicit_glued :
    structureSpecialCases "4sqrt 2".toList = "4*".toList ++ "sqrt 2".toList ∧
      (spacedCall .sqrt).Starts "sqrt 2".toList ∧ EndsProduct "4*".toList ∧ GluedCall "4sqrt 2".toList := by
  have written : structureSpecialCases "4sqrt 2".toList = "4*".toList ++ "sqrt 2".toList := by decide +kernel
  have starts : (spacedCall .sqrt).Starts "sqrt 2".toList := by
    have digit : ['2'].head?.any isDigit = true := by decide
    exact ⟨"sqrt ".toList, ['2'], by decide, ⟨[' '], ⟨[' '], [], ⟨by simp, by decide⟩, .inl rfl, rfl⟩, by decide⟩, digit⟩
  exact ⟨written, starts, (structured_isExplicit "4sqrt 2".toList).2.2 _ .sqrt _ written (by decide) starts⟩

end Explicit

end SpokenArithmetic.Phrase

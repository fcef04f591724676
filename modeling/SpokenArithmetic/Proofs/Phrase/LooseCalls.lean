import SpokenArithmetic.Proofs.Phrase.Products

set_option autoImplicit false

namespace SpokenArithmetic.Phrase

open Number Text Token

section Places

def IsSign (sign : List Char) : Prop :=
  sign = [] ∨ exists spaces, sign = '-' :: spaces ∧ IsSpaces spaces

def spacedArgument : Shape where
  stretch := fun stretch => exists gap sign, IsGap gap ∧ IsSign sign ∧ stretch = gap ++ sign
  next := fun next => next.any isDigit = true

def spacedCall (function : Function) : Shape where
  stretch := fun stretch => exists rest, spacedArgument.stretch rest ∧ stretch = function.name.toList ++ rest
  next := spacedArgument.next

variable {function : Function} {text rest : List Char} {before : Option Char}

theorem spacedCall_starts :
    (spacedCall function).Starts text ↔ exists rest, text = function.name.toList ++ rest ∧ spacedArgument.Starts rest := by
  constructor
  next =>
    rintro ⟨_, rest, rfl, ⟨stretch, argument, rfl⟩, digit⟩
    exact ⟨stretch ++ rest, by rw [List.append_assoc], stretch, rest, rfl, argument, digit⟩
  next =>
    rintro ⟨_, rfl, stretch, rest, rfl, argument, digit⟩
    exact ⟨_, rest, (List.append_assoc _ _ _).symm, ⟨stretch, argument, rfl⟩, digit⟩

theorem spacedArgument_head (starts : spacedArgument.Starts text) :
    exists c rest, text = c :: rest ∧ isSpace c = true := by
  obtain ⟨_, rest, rfl, ⟨gap, sign, ⟨present, all⟩, _, rfl⟩, _⟩ := starts
  obtain ⟨c, gap, rfl⟩ := List.exists_cons_of_ne_nil present
  exact ⟨c, gap ++ sign ++ rest, rfl, all c List.mem_cons_self⟩

theorem spacedCall_head (starts : (spacedCall function).Starts text) :
    exists c rest, text = c :: rest ∧ c ∈ initials := by
  obtain ⟨rest, rfl, _⟩ := spacedCall_starts.1 starts
  obtain ⟨c, tail, initial, name⟩ := name_head function
  exact ⟨c, tail ++ rest, by rw [name]; rfl, initial⟩

theorem spacedCall_word {word : List Char} (starts : (spacedCall function).Starts (word ++ rest))
    (letters : forall c, c ∈ word -> isWord c = true) (ends : rest.head?.any isWord = false) :
    word = function.name.toList ∧ spacedArgument.Starts rest := by
  obtain ⟨rest', same, argument⟩ := spacedCall_starts.1 starts
  obtain ⟨c, tail, rfl, space⟩ := spacedArgument_head argument
  obtain ⟨rfl, rfl⟩ := span_unique same letters (fun d member => (name_chars function d member).1) ends
    (space_not_word space)
  exact ⟨rfl, argument⟩

theorem spacedCall_noOpen {word : List Char} (letters : forall c, c ∈ word -> isWord c = true) :
    ¬(spacedCall function).Starts (word ++ '(' :: rest) := by
  intro starts
  obtain ⟨_, c, _, same, space⟩ :=
    (spacedCall_word starts letters (show isWord '(' = false by decide)).imp_right spacedArgument_head
  obtain ⟨rfl, _⟩ := List.cons.inj same
  cases space

theorem spacedName_of_call (starts : (spacedCall function).Starts text) : spacedName.Starts text := by
  obtain ⟨rest, rfl, argument⟩ := spacedCall_starts.1 starts
  obtain ⟨c, tail, rfl, space⟩ := spacedArgument_head argument
  exact ⟨function.name.toList, c :: tail, rfl, ⟨[], function, by simp [IsSpaces], rfl⟩, space_not_word space⟩

theorem argument_chars {stretch : List Char} (argument : spacedArgument.stretch stretch) :
    forall c, c ∈ stretch -> isSpace c = true ∨ c = '-' := by
  obtain ⟨gap, sign, ⟨_, all⟩, isSign, rfl⟩ := argument
  intro c member
  rcases List.mem_append.1 member with inGap | inSign
  next => exact .inl (all c inGap)
  next =>
    rcases isSign with rfl | ⟨spaces, rfl, blank⟩
    next => cases inSign
    next => exact (List.mem_cons.1 inSign).symm.imp_left (blank c)

theorem argument_noFactor {stretch : List Char} (argument : spacedArgument.stretch stretch) :
    forall c, c ∈ stretch -> isDigitOrClose c = false := by
  intro c member
  rcases argument_chars argument c member with space | rfl
  next => exact space_noFactor space
  next => decide

theorem numeral?_digit {text : List Char} (digit : text.head?.any isDigit = true) : numeral? text ≠ none := by
  simp only [numeral?, digits?, if_pos digit, Option.bind_eq_bind, Option.bind_some]
  split <;> simp

theorem bareCall_found (starts : (spacedCall function).Starts text) (free : before.any isWord = false) :
    bareCall function before text ≠ none := by
  obtain ⟨_, rfl, stretch, rest, rfl, ⟨gap, sign, isGap, isSign, rfl⟩, digit⟩ := spacedCall_starts.1 starts
  have noSpace {text : List Char} (digit : text.head?.any isDigit = true) : text.head?.any isSpace = false := by
    obtain ⟨c, first, isDigit⟩ := (Option.any_eq_true _ _).1 digit
    rw [first]
    exact not_space_of_isDigit isDigit
  have named : functionName function before (function.name.toList ++ ((gap ++ sign) ++ rest)) =
      some ((), (gap ++ sign) ++ rest) := by
    simp [functionName, Pattern.unlessBehind, free, literally, after?_eq_some.2]
  have spaced : gap? ((gap ++ sign) ++ rest) = some (sign ++ rest) := by
    refine gap?_eq_some.2 ⟨gap, List.append_assoc _ _ _, isGap, ?_⟩
    rcases isSign with rfl | ⟨spaces, rfl, _⟩
    next => exact noSpace digit
    next => exact show isSpace '-' = false by decide
  have read : signedNumeral? (sign ++ rest) ≠ none := by
    rcases isSign with rfl | ⟨spaces, rfl, all⟩
    next =>
      obtain ⟨c, first, isDigit⟩ := (Option.any_eq_true _ _).1 digit
      obtain ⟨tail, rfl⟩ := List.head?_eq_some_iff.1 first
      have other : c ≠ '-' := by
        rintro rfl
        cases isDigit
      simpa [signedNumeral?, other] using numeral?_digit digit
    next =>
      simp only [List.cons_append, signedNumeral?, skipSpace_spaces all (noSpace digit)]
      simpa using numeral?_digit digit
  simp only [bareCall, named, spaced, Option.bind_eq_bind, Option.bind_some]
  exact read

end Places

section Enclosing

def isNumeralEnd (c : Char) : Bool :=
  isDigitOrPoint c || c == ')'

/-- A stretch that a numeral or `)` ends becomes parentheses around something without a name, and a
function's name may stand in front of them. -/
structure Enclosed (stretch shown : List Char) : Prop where
  ends : stretch.getLast?.any isNumeralEnd = true
  parts : exists name inner, shown = name ++ ('(' :: (inner ++ [')'])) ∧
    (name = [] ∨ exists function : Function, name = function.name.toList) ∧ forall c, c ∈ inner -> c ∉ initials

def Encloses {A : Type} (pattern : Pattern A) (render : A -> List Char) : Prop :=
  forall (before : Option Char) (text : List Char) (result : A) (behind : List Char),
    pattern before text = some (result, behind) ->
      exists stretch, text = stretch ++ behind ∧ Enclosed stretch (render result)

variable {A : Type} {pattern : Pattern A} {render : A -> List Char} {function : Function} {before : Option Char}
  {text out after stretch shown : List Char}

theorem Enclosed.opens (enclosed : Enclosed stretch shown) :
    exists word rest, shown = word ++ '(' :: rest ∧ forall c, c ∈ word -> isWord c = true := by
  obtain ⟨name, inner, rfl, named, _⟩ := enclosed.parts
  refine ⟨name, inner ++ [')'], rfl, ?_⟩
  rcases named with rfl | ⟨function, rfl⟩
  next => simp
  next => exact fun c member => (name_chars function c member).1

theorem Enclosed.head (enclosed : Enclosed stretch shown) : exists c rest, c ∈ '(' :: initials ∧ shown = c :: rest := by
  obtain ⟨name, inner, rfl, named, _⟩ := enclosed.parts
  rcases named with rfl | ⟨function, rfl⟩
  next => exact ⟨'(', _, List.mem_cons_self, rfl⟩
  next =>
    obtain ⟨c, tail, initial, name⟩ := name_head function
    exact ⟨c, _, List.mem_cons_of_mem _ initial, by rw [name]; rfl⟩

theorem Enclosed.last (enclosed : Enclosed stretch shown) (front : List Char) :
    (front ++ shown).getLast? = some ')' := by
  obtain ⟨name, inner, rfl, _⟩ := enclosed.parts
  rw [← List.cons_append, ← List.append_assoc, ← List.append_assoc, List.getLast?_concat]

theorem Encloses.consumes (encloses : Encloses pattern render) : pattern.Consumes := by
  intro before text result behind matched
  obtain ⟨stretch, same, enclosed⟩ := encloses _ _ _ _ matched
  refine ⟨stretch, ?_, same⟩
  rintro rfl
  cases enclosed.ends

-- A word that white space ends has been copied, for the words of renderings end with `(`.
theorem Encloses.copied_word (encloses : Encloses pattern render) {word : List Char} {c : Char}
    (letters : forall d, d ∈ word -> isWord d = true) (space : isSpace c = true)
    (replaced : pattern.Replaced render before text (word ++ c :: out) after) :
    exists rest, text = word ++ rest ∧ pattern.Replaced render (lastBehind before word) rest (c :: out) after := by
  induction word generalizing before text with
  | nil => exact ⟨text, rfl, replaced⟩
  | cons d word ih =>
    rcases replaced.cons_cases with ⟨rest, rfl, _, blocks⟩ | ⟨_, _, result, shown, _, same, _, matched, _⟩
    next =>
      obtain ⟨tail, rfl, later⟩ := ih (fun e member => letters e (List.mem_cons_of_mem d member)) blocks
      exact ⟨tail, rfl, later⟩
    next =>
      obtain ⟨_, _, enclosed⟩ := encloses _ _ _ _ matched
      obtain ⟨other, rest, opened, others⟩ := enclosed.opens
      rw [opened, List.append_assoc] at same
      obtain ⟨_, open_⟩ := @span_unique isWord (d :: word) _ (c :: out) _ same letters others (space_not_word space)
        (show isWord '(' = false by decide)
      obtain ⟨rfl, _⟩ := List.cons.inj open_
      cases space

theorem Encloses.kept (encloses : Encloses pattern render) (function : Function) :
    (spacedCall function).Kept pattern render := by
  intro before text out replaced starts
  obtain ⟨rest, rfl, argument⟩ := spacedCall_starts.1 starts
  obtain ⟨c, tail, rfl, space⟩ := spacedArgument_head argument
  obtain ⟨rest, rfl, blocks⟩ :=
    encloses.copied_word (fun d member => (name_chars function d member).1) space replaced
  refine spacedCall_starts.2 ⟨rest, rfl, ?_⟩
  obtain ⟨stretch, left, parts, isStretch, digit⟩ := argument
  obtain ⟨d, first, isDigit⟩ := (Option.any_eq_true _ _).1 digit
  obtain ⟨left, rfl⟩ := List.head?_eq_some_iff.1 first
  -- White space, a sign and a digit start no rendering.
  have others : forall e, e ∈ stretch ++ [d] -> e ∉ '(' :: initials := by
    intro e member start
    have none : isDigitOrClose e = false ∧ isSpace e = false ∧ e ≠ '-' := by
      have all : forall e, e ∈ '(' :: initials -> isDigitOrClose e = false ∧ isSpace e = false ∧ e ≠ '-' := by
        decide +kernel
      exact all e start
    rcases List.mem_append.1 member with inside | last
    next =>
      rcases argument_chars isStretch e inside with space | minus
      next => cases none.2.1.symm.trans space
      next => exact none.2.2 minus
    next =>
      obtain rfl := List.mem_singleton.1 last
      simp [isDigitOrClose, isDigit] at none
  have whole : c :: tail = (stretch ++ [d]) ++ left := by simp [parts]
  rw [whole] at blocks
  have heads {before : Option Char} {text behind : List Char} {result : A}
      (matched : pattern before text = some (result, behind)) :
      exists c rest, c ∈ '(' :: initials ∧ render result = c :: rest := by
    obtain ⟨_, _, enclosed⟩ := encloses _ _ _ _ matched
    exact enclosed.head
  obtain ⟨rest, rfl, _⟩ := blocks.copied_stretch heads others
  exact ⟨stretch, d :: rest, by simp, isStretch, digit⟩

def Closing (front : Option Char -> Prop) : Prop :=
  front (some ')') -> forall c, isNumeralEnd c = true -> front (some c)

theorem Encloses.front (encloses : Encloses pattern render) {front : Option Char -> Prop} (closing : Closing front)
    (replaced : pattern.Replaced render before text out after) (last : front out.getLast?) :
    front text.getLast? := by
  rcases replaced.snoc_cases with ⟨rfl, rfl⟩ | ⟨_, _, c, rfl, rfl, _⟩ |
    ⟨_, stretch, shown, result, rfl, rfl, present, matched, _⟩
  next => exact last
  next => rwa [List.getLast?_concat] at last ⊢
  next =>
    obtain ⟨other, same, enclosed⟩ := encloses _ _ _ _ matched
    obtain rfl := List.append_cancel_right same
    obtain ⟨c, found, end_⟩ := (Option.any_eq_true _ _).1 enclosed.ends
    rw [enclosed.last] at last
    rw [List.getLast?_append_of_ne_nil _ present, found]
    exact closing last c end_

theorem Encloses.inside (encloses : Encloses pattern render) {result : A} {behind one two : List Char}
    (matched : pattern before text = some (result, behind)) (rendered : render result = one ++ two) (more : two ≠ [])
    (rest : List Char) : ¬(spacedCall function).Starts (two ++ rest) := by
  intro starts
  obtain ⟨_, _, enclosed⟩ := encloses _ _ _ _ matched
  obtain ⟨name, inner, same, named, unnamed⟩ := enclosed.parts
  have letters : forall c, c ∈ name -> isWord c = true := by
    rcases named with rfl | ⟨function, rfl⟩
    next => simp
    next => exact fun c member => (name_chars function c member).1
  rcases List.append_eq_append_iff.1 (rendered.symm.trans same) with ⟨cut, rfl, rfl⟩ | ⟨cut, rfl, tail⟩
  next =>
    have opened : (spacedCall function).Starts (cut ++ '(' :: (inner ++ [')'] ++ rest)) := by simpa using starts
    exact spacedCall_noOpen (fun c member => letters c (List.mem_append_right one member)) opened
  next =>
    obtain ⟨c, behind, first, initial⟩ := spacedCall_head starts
    obtain ⟨d, two, rfl⟩ := List.exists_cons_of_ne_nil more
    obtain ⟨rfl, _⟩ := List.cons.inj first
    have member : d ∈ '(' :: (inner ++ [')']) := by
      rw [tail]
      exact List.mem_append_right cut List.mem_cons_self
    have marks : '(' ∉ initials ∧ ')' ∉ initials := by decide
    simp only [List.mem_cons, List.mem_append, List.not_mem_nil, or_false] at member
    rcases member with rfl | inside | rfl
    next => exact marks.1 initial
    next => exact unnamed d inside initial
    next => exact marks.2 initial

theorem Encloses.behind (encloses : Encloses pattern render) {front : Option Char -> Prop} (closing : Closing front)
    (stands : (spacedCall function).Behind (fun left => front left.getLast?) (pattern.replace render text)) :
    (spacedCall function).Behind (fun left => front left.getLast?) text := by
  refine Shape.behind_of_replaced (Pattern.replaced_replace encloses.consumes text) (encloses.kept function)
    (fun replaced last _ _ _ => encloses.front closing replaced last) ?_ stands
  intro _ _ _ _ _ _ behind _ _ _ matched rendered _ more _ _ starts
  exact absurd starts (encloses.inside matched rendered more behind)

end Enclosing

section Passes

variable {text : List Char} {function : Function}

theorem initial_noNumeral {c : Char} (initial : c ∈ initials) : isDigitOrPoint c = false ∧ c ≠ '^' ∧ c ≠ '-' := by
  have all : forall c, c ∈ initials -> isDigitOrPoint c = false ∧ c ≠ '^' ∧ c ≠ '-' := by decide +kernel
  exact all c initial

theorem numeral?_enclosable {text numeral behind : List Char} (read : numeral? text = some (numeral, behind)) :
    (forall c, c ∈ numeral -> c ∉ initials) ∧ forall front, (front ++ numeral).getLast?.any isNumeralEnd = true := by
  obtain ⟨_, starts, pointed, isMantissa, _⟩ := numeral?_eq_some.1 read
  have chars : forall c, c ∈ numeral -> isDigitOrPoint c = true := by
    intro c member
    rcases isMantissa.chars c member with digit | rfl
    next => simp [isDigitOrPoint, digit]
    next => rfl
  refine ⟨fun c member initial => ?_, fun front => ?_⟩
  next => cases (initial_noNumeral initial).1.symm.trans (chars c member)
  next =>
    have present : numeral ≠ [] := by
      rintro rfl
      cases starts
    rw [List.getLast?_append_of_ne_nil _ present, List.getLast?_eq_some_getLast present]
    simp [isNumeralEnd, chars _ (List.getLast_mem present)]

theorem signedNumeral?_enclosable {text argument behind : List Char}
    (read : signedNumeral? text = some (argument, behind)) :
    exists shown, text = shown ++ behind ∧ (forall c, c ∈ argument -> c ∉ initials) ∧
      forall front, (front ++ shown).getLast?.any isNumeralEnd = true := by
  unfold signedNumeral? at read
  split at read
  next rest =>
    obtain ⟨⟨numeral, left⟩, numeralRead, same⟩ := Option.map_eq_some_iff.1 read
    obtain ⟨rfl, rfl⟩ := Prod.mk.inj same
    obtain ⟨unnamed, ends⟩ := numeral?_enclosable numeralRead
    obtain ⟨spaces, rfl, _⟩ := skipSpace_parts (numeral?_parts numeralRead).1
    refine ⟨'-' :: (spaces ++ numeral), by simp, ?_, fun front => ?_⟩
    next =>
      intro c member
      rcases List.mem_cons.1 member with rfl | inside
      next => decide
      next => exact unnamed c inside
    next => simpa using ends (front ++ '-' :: spaces)
  next =>
    obtain ⟨unnamed, ends⟩ := numeral?_enclosable read
    exact ⟨argument, (numeral?_parts read).1, unnamed, ends⟩

theorem encloses_raisedTo {exponent : Char} (digit : isDigit exponent = true) :
    Encloses (raisedTo exponent) (parenthesizePower · [exponent]) := by
  intro before text base behind matched
  unfold raisedTo Pattern.unlessBehind at matched
  split at matched
  next => cases matched
  next =>
    obtain ⟨⟨numeral, rest⟩, read, matched⟩ := Option.bind_eq_some_iff.1 matched
    obtain ⟨last, passed, matched⟩ := Option.bind_eq_some_iff.1 matched
    split at matched
    next => cases matched
    next =>
      obtain ⟨rfl, rfl⟩ := Prod.mk.inj (Option.some.inj matched)
      obtain ⟨unnamed, _⟩ := numeral?_enclosable read
      obtain ⟨rfl, _⟩ := numeral?_parts read
      obtain ⟨spaces, rfl, _⟩ := after?_skipSpace passed
      have other : exponent ∉ initials := by
        intro initial
        have none := (initial_cases initial).1
        simp [isDigitOrClose, digit] at none
      have raised : forall c, c ∈ ['^', exponent] -> c ∉ initials :=
        List.forall_mem_cons.2 ⟨by decide, List.forall_mem_singleton.2 other⟩
      refine ⟨numeral ++ (spaces ++ ['^', exponent]), by simp, ?_, [], numeral ++ ['^', exponent], ?_, .inl rfl,
        List.forall_mem_append.2 ⟨unnamed, raised⟩⟩
      next => simp [isNumeralEnd, isDigitOrPoint, digit]
      next => simp [parenthesizePower]

theorem encloses_barePower : Encloses barePower (fun power => parenthesizePower power.1 power.2) := by
  intro before text power behind matched
  unfold barePower Pattern.unlessBehind at matched
  split at matched
  next => cases matched
  next =>
    obtain ⟨⟨numeral, rest⟩, read, matched⟩ := Option.bind_eq_some_iff.1 matched
    obtain ⟨last, passed, matched⟩ := Option.bind_eq_some_iff.1 matched
    obtain ⟨⟨exponent, left⟩, raised, matched⟩ := Option.bind_eq_some_iff.1 matched
    dsimp only at passed matched
    split at matched
    next => cases matched
    next =>
      obtain ⟨rfl, rfl⟩ := Prod.mk.inj (Option.some.inj matched)
      obtain ⟨unnamed, _⟩ := numeral?_enclosable read
      obtain ⟨unnamedToo, ends⟩ := numeral?_enclosable raised
      obtain ⟨rfl, _⟩ := numeral?_parts read
      obtain ⟨spaces, rfl, _⟩ := after?_skipSpace passed
      obtain ⟨gap, rfl, _⟩ := skipSpace_parts (numeral?_parts raised).1
      refine ⟨numeral ++ (spaces ++ '^' :: (gap ++ exponent)), by simp, ?_, [], numeral ++ '^' :: exponent, ?_, .inl rfl,
        List.forall_mem_append.2 ⟨unnamed, List.forall_mem_cons.2 ⟨by decide, unnamedToo⟩⟩⟩
      next => simpa using ends (numeral ++ (spaces ++ '^' :: gap))
      next => simp [parenthesizePower]

theorem encloses_parenthesizedCall (function : Function) :
    Encloses (parenthesizedCall function) (writtenCall function) := by
  intro before text argument behind matched
  obtain ⟨⟨found, rest⟩, named, matched⟩ := Option.bind_eq_some_iff.1 matched
  obtain ⟨opened, passed, matched⟩ := Option.bind_eq_some_iff.1 matched
  obtain ⟨⟨argument, left⟩, read, matched⟩ := Option.bind_eq_some_iff.1 matched
  obtain ⟨last, closed, matched⟩ := Option.bind_eq_some_iff.1 matched
  obtain ⟨rfl, rfl⟩ := Prod.mk.inj (Option.some.inj matched)
  obtain ⟨spaces, rfl, _⟩ := after?_skipSpace passed
  obtain ⟨tail, rfl, _⟩ := after?_skipSpace closed
  obtain ⟨shown, parts, unnamed, _⟩ := signedNumeral?_enclosable read
  obtain ⟨gap, rfl, _⟩ := skipSpace_parts parts
  rw [functionName_parts named]
  refine ⟨(function.name.toList ++ (spaces ++ '(' :: (gap ++ (shown ++ tail)))) ++ [')'], by simp, ?_,
    function.name.toList, argument, by simp [writtenCall], .inr ⟨function, rfl⟩, unnamed⟩
  rw [List.getLast?_concat]
  rfl

theorem encloses_bareCall (function : Function) : Encloses (bareCall function) (writtenCall function) := by
  intro before text argument behind matched
  obtain ⟨⟨found, rest⟩, named, matched⟩ := Option.bind_eq_some_iff.1 matched
  obtain ⟨next, gapFound, read⟩ := Option.bind_eq_some_iff.1 matched
  obtain ⟨gap, rfl, _⟩ := gap?_eq_some.1 gapFound
  obtain ⟨shown, rfl, unnamed, ends⟩ := signedNumeral?_enclosable read
  rw [functionName_parts named]
  refine ⟨function.name.toList ++ gap ++ shown, by simp, ends _, function.name.toList, argument, by simp [writtenCall],
    .inr ⟨function, rfl⟩, unnamed⟩

theorem behind_bareCall {front : Option Char -> Prop} (closing : Closing front)
    (stands : (spacedCall function).Behind (fun left => front left.getLast?)
      ((bareCall function).replace (writtenCall function) text)) :
    (spacedCall function).Behind (fun left => front left.getLast? ∧ left.getLast?.any isWord = true) text := by
  have encloses := encloses_bareCall function
  refine Shape.behind_of_replaced (Pattern.replaced_replace encloses.consumes text) (encloses.kept function) ?_ ?_ stands
  next =>
    intro left shown right rest replaced last starts blocks begins
    refine ⟨encloses.front closing replaced last, ?_⟩
    by_contra free
    -- Behind no word character the call is found, and its rendering starts with parentheses.
    have apart : (lastBehind none left).any isWord = false := by
      rw [lastBehind_none]
      simpa using free
    have found := bareCall_found starts apart
    obtain ⟨c, tail, rfl, _⟩ := spacedCall_head begins
    rcases blocks.cons_cases with ⟨_, rfl, unmatched, _⟩ | ⟨_, _, result, shown, _, same, _, matched, _⟩
    next => exact found (by simpa using unmatched)
    next =>
      obtain ⟨_, _, enclosed⟩ := encloses _ _ _ _ matched
      obtain ⟨word, behind, opened, letters⟩ := enclosed.opens
      rw [same, opened, List.append_assoc] at begins
      exact spacedCall_noOpen letters begins
  next =>
    intro _ _ _ _ _ _ behind _ _ _ matched rendered _ more _ _ starts
    exact absurd starts (encloses.inside matched rendered more behind)

end Passes

end SpokenArithmetic.Phrase

import SpokenArithmetic.Proofs.Rewriting.Powers

set_option autoImplicit false

namespace SpokenArithmetic

open Text Token

def callNameOf (name : List Char) : List Char :=
  match Function.ofName? (String.ofList name) with
  | some function => function.callName.toList
  | none => name

namespace Lexeme

def called : Lexeme -> Lexeme
  | name text => name (callNameOf text)
  | other => other

def isNumeral : Lexeme -> Bool
  | numeral _ => true
  | _ => false

end Lexeme

def resolve : List Lexeme -> List Lexeme
  | [] => []
  | lexeme :: rest =>
    (if rest.head? = some (.mark .opening) then lexeme.called else lexeme) :: resolve rest

namespace CallForm

/-- Functions that stand right behind a numeral may have kept their names; `glued` tells that a
numeral is in front. -/
inductive Resolved : (glued : Bool) -> List Lexeme -> List Lexeme -> Prop where
  | nil {glued : Bool} : Resolved glued [] []
  | same {glued : Bool} (lexeme : Lexeme) {left right : List Lexeme}
    (rest : Resolved lexeme.isNumeral left right) : Resolved glued (lexeme :: left) (lexeme :: right)
  | kept (function : Function) {left right : List Lexeme} (rest : Resolved false left right) :
    Resolved true (.name function.callName.toList :: left) (.name function.name.toList :: right)

def writeCall (function : Function) : List Char :=
  function.callName.toList ++ ['(']

theorem functionCall_eq_some {before : Option Char} {text behind : List Char} {function : Function}
    (matched : functionCall before text = some (function, behind)) :
    before.any isWord = false ∧ exists spaces, (forall c, c ∈ spaces -> isSpace c = true) ∧
      text = function.name.toList ++ spaces ++ '(' :: behind := by
  unfold functionCall Pattern.unlessBehind at matched
  split at matched
  next => cases matched
  next free =>
    obtain ⟨other, _, found⟩ := List.exists_of_findSome?_eq_some matched
    obtain ⟨rest, named, found₁⟩ := Option.bind_eq_some_iff.1 found
    obtain ⟨behind', opened, found₂⟩ := Option.bind_eq_some_iff.1 found₁
    obtain ⟨rfl, rfl⟩ := Prod.mk.inj (Option.some.inj found₂)
    obtain rfl := after?_eq_some.1 named
    obtain ⟨spaces, taken⟩ : exists spaces, rest.takeWhile isSpace = spaces := ⟨_, rfl⟩
    obtain ⟨parts, all, _⟩ := span_iff.1 ⟨taken, after?_eq_some.1 opened⟩
    exact ⟨by simpa using free, spaces, all, by rw [parts]; simp⟩

theorem functionCall_ne_none {before : Option Char} {rest behind : List Char} (function : Function)
    (free : before.any isWord = false) (opened : skipSpace rest = '(' :: behind) :
    functionCall before (function.name.toList ++ rest) ≠ none := by
  intro none
  simp only [functionCall, Pattern.unlessBehind, free, Bool.false_eq_true, if_false,
    List.findSome?_eq_none_iff] at none
  have named : after? function.name.toList (function.name.toList ++ rest) = some rest :=
    after?_eq_some.2 rfl
  have marked : after? ['('] ('(' :: behind) = some behind := after?_eq_some.2 rfl
  have found := none function (Function.mem_all function)
  simp [named, opened, marked] at found

def initials : List Char :=
  ['s', 'c', 'a', 't', 'l', 'f', 'r']

theorem functionCall_starts {before : Option Char} {text behind : List Char} {function : Function}
    (matched : functionCall before text = some (function, behind)) :
    exists c rest, text = c :: rest ∧ c ∈ initials := by
  obtain ⟨_, spaces, _, rfl⟩ := functionCall_eq_some matched
  cases function <;> exact ⟨_, _, rfl, by decide⟩

theorem functionCall_other {before : Option Char} {c : Char} {rest : List Char}
    (other : c ∉ initials) : functionCall before (c :: rest) = none := by
  cases matched : functionCall before (c :: rest) with
  | none => rfl
  | some pair =>
    obtain ⟨d, tail, same, initial⟩ := functionCall_starts matched
    obtain ⟨rfl, _⟩ := List.cons.inj same
    exact absurd initial other

theorem writeCall_starts : Pattern.StartsWith functionCall writeCall ['m', '_'] := by
  intro before text function behind _
  cases function <;> exact ⟨_, _, by decide, rfl⟩

theorem fits_name (function : Function) {rest : List Char} (ends : rest.head?.any isNamePart = false) :
    Fits (.name function.name.toList) rest ∧ Fits (.name function.callName.toList) rest := by
  cases function <;> exact ⟨.name (by decide) (by decide) ends, .name (by decide) (by decide) ends⟩

theorem lexes_functionCall {before : Option Char} {text behind : List Char} {function : Function}
    (matched : functionCall before text = some (function, behind)) :
    lexes text = (lexes behind).map fun rest =>
      .name function.name.toList :: .mark .opening :: rest := by
  obtain ⟨_, spaces, all, rfl⟩ := functionCall_eq_some matched
  have ends : (spaces ++ '(' :: behind).head?.any isNamePart = false := by
    cases spaces with
    | nil => exact (by decide : isNamePart '(' = false)
    | cons c spaces => exact (space_cases (all c (by simp))).2.1
  have skipped : lexes (spaces ++ '(' :: behind) = lexes ('(' :: behind) := by
    rw [← lexes_skipSpace, skipSpace, List.dropWhile_append_of_pos all, ← skipSpace, lexes_skipSpace]
  have first := lexes_lexeme (fits_name function ends).1
  have second := @lexes_lexeme (.mark .opening) behind .mark
  simp only [Lexeme.text, Mark.char, List.cons_append, List.nil_append] at first second
  rw [List.append_assoc, first, skipped, second, Option.map_map]
  rfl

theorem lexes_writeCall (function : Function) (out : List Char) :
    lexes (writeCall function ++ out) = (lexes out).map fun rest =>
      .name function.callName.toList :: .mark .opening :: rest := by
  have ends : ('(' :: out).head?.any isNamePart = false := (by decide : isNamePart '(' = false)
  have first := lexes_lexeme (fits_name function ends).2
  have second := @lexes_lexeme (.mark .opening) out .mark
  simp only [Lexeme.text, Mark.char, List.cons_append, List.nil_append] at first second
  rw [writeCall, List.append_assoc, List.cons_append, List.nil_append, first, second, Option.map_map]
  rfl

theorem literal_chars {literal rest : List Char} (fits : Fits (.numeral literal) rest) :
    forall c, c ∈ literal -> c ∉ initials := by
  have noDigit : forall c, c ∈ initials -> isDigit c = false := by decide
  have noSymbol : forall c, c ∈ ['.', 'e', 'E', '+', '-'] -> c ∉ initials := by decide
  have digits {c : Char} (digit : isDigit c = true) : c ∉ initials := fun initial =>
    absurd (noDigit c initial) (ne_false_of_eq_true digit)
  have inMantissa {pointed : Bool} {mantissa : List Char} (isMantissa : IsMantissa pointed mantissa) :
      forall c, c ∈ mantissa -> c ∉ initials := by
    intro c member
    rcases isMantissa.chars c member with digit | rfl
    next => exact digits digit
    next => exact noSymbol '.' (by decide)
  intro c member
  cases fits with
  | plain isMantissa => exact inMantissa isMantissa c member
  | scaled isMantissa isPower =>
    rcases List.mem_append.1 member with inside | power
    next => exact inMantissa isMantissa c inside
    next =>
      have markSymbol : forall c, c ∈ ['e', 'E'] -> c ∈ ['.', 'e', 'E', '+', '-'] := by decide
      have signSymbol : forall c, c ∈ ['+', '-'] -> c ∈ ['.', 'e', 'E', '+', '-'] := by decide
      cases isPower with
      | unsigned isMark isDigits =>
        rcases List.mem_cons.1 power with rfl | digit
        next => exact noSymbol c (markSymbol c isMark)
        next => exact digits (isDigits.2 c digit)
      | signed isMark isSign isDigits =>
        rcases List.mem_cons.1 power with rfl | power
        next => exact noSymbol c (markSymbol c isMark)
        next =>
          rcases List.mem_cons.1 power with rfl | digit
          next => exact noSymbol c (signSymbol c isSign)
          next => exact digits (isDigits.2 c digit)

theorem callNameOf_cases (name : List Char) :
    (exists function : Function, name = function.name.toList ∧
      callNameOf name = function.callName.toList) ∨ callNameOf name = name := by
  unfold callNameOf
  split
  next function found =>
    left
    have same := List.find?_some found
    rw [beq_iff_eq] at same
    exact ⟨function, by rw [same, String.toList_ofList], rfl⟩
  next => exact .inr rfl

section Replaced

def Renamed (glued : Bool) (before : Option Char) (text : List Char) : Prop :=
  Option.Rel (fun left right => Resolved glued (resolve left) right) (lexes text)
    (lexes (functionCall.replaceFrom writeCall before 0 text))

theorem initials_name {c : Char} (initial : c ∈ initials) : isNameStart c = true ∧ isNamePart c = true := by
  have all : forall c, c ∈ initials -> isNameStart c = true ∧ isNamePart c = true := by decide
  exact all c initial

theorem weaker_functions (before : Option Char) (text : List Char) :
    Weaker (functionCall.replaceFrom writeCall before 0 text) text := by
  refine weaker_replaceFrom writeCall_starts fun function rest matched => ?_
  obtain ⟨c, tail, rfl, initial⟩ := functionCall_starts matched
  exact (initials_name initial).2

theorem renamed_space {before : Option Char} {glued : Bool} {c : Char} {rest : List Char}
    (space : isSpace c = true) (later : Renamed glued (some c) rest) : Renamed glued before (c :: rest) := by
  have noInitial : c ∉ initials := fun initial =>
    absurd (space_cases space).2.1 (ne_false_of_eq_true (initials_name initial).2)
  unfold Renamed
  rw [Pattern.replaceFrom, functionCall_other noInitial, lexes_space space, lexes_space space]
  exact later

variable {before : Option Char} {glued : Bool} {behind : List Char}

theorem renamed_copied {glued' : Bool} {lexeme : Lexeme} (fits : Fits lexeme behind)
    (passes : functionCall.Passes before lexeme.text behind)
    (later : Renamed glued' (lastBehind before lexeme.text) behind)
    (step : forall front back, lexes behind = some front -> Resolved glued' (resolve front) back ->
      Resolved glued (resolve (lexeme :: front)) (lexeme :: back)) :
    Renamed glued before (lexeme.text ++ behind) := by
  have kept := fits.weaken (weaker_functions (lastBehind before lexeme.text) behind)
  unfold Renamed
  rw [Pattern.replaceFrom_passed passes, lexes_lexeme fits, lexes_lexeme kept]
  exact rel_map later step

theorem renamed_numeral {literal : List Char} (fits : Fits (.numeral literal) behind)
    (later : Renamed true (lastBehind before literal) behind) :
    Renamed glued before (literal ++ behind) := by
  have passes : functionCall.Passes before literal behind :=
    Pattern.passes_of_unmatched fun _ c _ member => functionCall_other (literal_chars fits c member)
  refine renamed_copied fits passes later fun front back _ related => ?_
  simpa [resolve, Lexeme.called] using Resolved.same (.numeral literal) related

theorem renamed_mark (mark : Mark) (later : Renamed false (some mark.char) behind) :
    Renamed glued before (mark.char :: behind) := by
  have passes : functionCall.Passes before [mark.char] behind := by
    refine ⟨functionCall_other fun initial => ?_, trivial⟩
    exact absurd (mark_char_cases mark).2.2.2 (ne_false_of_eq_true (initials_name initial).1)
  refine @renamed_copied _ _ _ _ (.mark mark) .mark passes later fun front back _ related => ?_
  simpa [resolve, Lexeme.called] using Resolved.same (.mark mark) related

section Names

variable {start : Char} {part : List Char}

theorem renamed_touched (fits : Fits (.name (start :: part)) behind)
    (word : forall c, c ∈ start :: part -> isWord c = true) (barred : before.any isWord = true)
    (later : Renamed false (lastBehind before (start :: part)) behind) :
    Renamed true before (start :: part ++ behind) := by
  have none : functionCall before (start :: part ++ behind) = none := by
    simp [functionCall, Pattern.unlessBehind, barred]
  have inside : functionCall.Passes (some start) part behind :=
    Pattern.passes_barred (word start (by simp)) fun c member => word c (by simp [member])
  refine renamed_copied fits ⟨none, inside⟩ later fun front back _ related => ?_
  by_cases opening : front.head? = some (.mark .opening)
  next =>
    simp only [resolve, opening, if_true, Lexeme.called]
    rcases callNameOf_cases (start :: part) with ⟨function, same, named⟩ | same
    next =>
      rw [named, same]
      exact .kept function related
    next =>
      rw [same]
      exact .same (.name (start :: part)) related
  next =>
    simp only [resolve, opening, if_false]
    exact .same (.name (start :: part)) related

theorem renamed_other (fits : Fits (.name (start :: part)) behind)
    (word : forall c, c ∈ start :: part -> isWord c = true) (free : before.any isWord = false)
    (matched : functionCall before (start :: part ++ behind) = none)
    (later : Renamed false (lastBehind before (start :: part)) behind) :
    Renamed glued before (start :: part ++ behind) := by
  have inside : functionCall.Passes (some start) part behind :=
    Pattern.passes_barred (word start (by simp)) fun c member => word c (by simp [member])
  refine renamed_copied fits ⟨matched, inside⟩ later fun front back lexed related => ?_
  have kept : front.head? = some (.mark .opening) -> callNameOf (start :: part) = start :: part := by
    intro opening
    rcases callNameOf_cases (start :: part) with ⟨function, same, _⟩ | same
    next =>
      obtain ⟨others, rfl⟩ := List.head?_eq_some_iff.1 opening
      obtain ⟨rest, opened, _⟩ := lexes_eq_mark lexed
      rw [same] at matched
      exact absurd matched (functionCall_ne_none function free opened)
    next => exact same
  by_cases opening : front.head? = some (.mark .opening)
  next =>
    simp only [resolve, opening, if_true, Lexeme.called, kept opening]
    exact .same (.name (start :: part)) related
  next =>
    simp only [resolve, opening, if_false]
    exact .same (.name (start :: part)) related

end Names

theorem functionCall_stretch {text rest : List Char} {function : Function}
    (matched : functionCall before text = some (function, rest)) :
    exists spaces, text = (function.name.toList ++ spaces ++ ['(']) ++ rest := by
  obtain ⟨_, spaces, _, rfl⟩ := functionCall_eq_some matched
  exact ⟨spaces, by simp⟩

theorem renamed_call {text rest : List Char} {function : Function}
    (matched : functionCall before text = some (function, rest))
    (later : Renamed false (some '(') rest) : Renamed glued before text := by
  have lexed := lexes_functionCall matched
  obtain ⟨spaces, rfl⟩ := functionCall_stretch matched
  have named : callNameOf function.name.toList = function.callName.toList := by
    cases function <;> decide
  unfold Renamed
  rw [lexed, Pattern.replaceFrom_matched (by simp) matched, lexes_writeCall, lastBehind_append]
  refine rel_map later fun front back _ related => ?_
  simp only [resolve, List.head?_cons, if_true, Lexeme.called, named, ite_self]
  exact .same _ (.same _ related)

theorem functionCall_behind {text rest : List Char} {function : Function}
    (matched : functionCall before text = some (function, rest)) :
    rest.length < text.length ∧ forall c, c ∈ rest -> c ∈ text := by
  obtain ⟨spaces, rfl⟩ := functionCall_stretch matched
  refine ⟨?_, fun c member => List.mem_append_right _ member⟩
  simp
  omega

theorem renamed_stray {c : Char} {rest : List Char} (inside : isSpace c = false) (stray : lexeme? (c :: rest) = none) :
    Renamed glued before (c :: rest) := by
  have noInitial : c ∉ initials := fun initial =>
    absurd (lexeme?_eq_none.1 stray).2.2.1 (ne_false_of_eq_true (initials_name initial).1)
  unfold Renamed
  rw [Pattern.replaceFrom, functionCall_other noInitial, lexes_stray inside stray]
  dsimp only
  rw [lexes_stray inside (lexeme?_weaken stray (weaker_functions (some c) rest))]
  exact .none

theorem word_of_name {name : List Char} (fits : Fits (.name name) behind)
    (allowed : forall c, c ∈ name -> isAllowed c = true) :
    exists start part, name = start :: part ∧ isNameStart start = true ∧ behind.head?.any isNameStart = false ∧
      forall c, c ∈ start :: part -> isWord c = true := by
  cases fits with
  | @name start part _ starts all ends =>
    refine ⟨start, part, rfl, starts, ?_, fun c member => ?_⟩
    next =>
      refine Bool.eq_false_iff.2 fun name => ?_
      obtain ⟨c, head, name⟩ := (Option.any_eq_true _ _).1 name
      rw [head] at ends
      exact absurd ends (ne_false_of_eq_true (namePart_of_nameStart name))
    next =>
      rw [isWord_of_isAllowed (allowed c member)]
      rcases List.mem_cons.1 member with rfl | later
      next => exact namePart_of_nameStart starts
      next => exact all c later

theorem mark_not_word (mark : Mark) : isWord mark.char = false := by
  cases mark with
  | operator operator => cases operator <;> decide
  | _ => decide

theorem renamed_name {name : List Char} (fits : Fits (.name name) behind)
    (allowed : forall c, c ∈ name -> isAllowed c = true)
    (touched : before.any isWord = true -> (name ++ behind).head?.any isNameStart = true -> glued = true)
    (later : forall before : Option Char, behind.head?.any isNameStart = false -> Renamed false before behind)
    (call : forall function rest, functionCall before (name ++ behind) = some (function, rest) ->
      Renamed false (some '(') rest) :
    Renamed glued before (name ++ behind) := by
  obtain ⟨start, part, rfl, starts, apart, word⟩ := word_of_name fits allowed
  -- A function is found at the start of a name only if no word character touches it.
  by_cases barred : before.any isWord = true
  next =>
    obtain rfl := touched barred starts
    exact renamed_touched fits word barred (later _ apart)
  next =>
    cases matched : functionCall before (start :: part ++ behind) with
    | none => exact renamed_other fits word (by simpa using barred) matched (later _ apart)
    | some pair => exact renamed_call matched (call pair.1 pair.2 matched)

end Replaced

theorem functions_replaceFrom {text : List Char} {before : Option Char} {glued : Bool}
    (allowed : forall c, c ∈ text -> isAllowed c = true)
    (touched : before.any isWord = true -> text.head?.any isNameStart = true -> glued = true) :
    Renamed glued before text := by
  generalize bound : text.length = size
  -- Strong induction on the text: a lexeme is copied, or a whole call is taken.
  induction size using Nat.strongRecOn generalizing text before glued with
  | ind size ih =>
    subst bound
    have onward (rest : List Char) (shorter : rest.length < text.length) (inside : forall c, c ∈ rest -> c ∈ text)
        (glued : Bool) (before : Option Char)
        (touched : before.any isWord = true -> rest.head?.any isNameStart = true -> glued = true) :
        Renamed glued before rest :=
      ih rest.length shorter (fun c member => allowed c (inside c member)) touched rfl
    rcases starts_cases text with rfl | ⟨c, rest, rfl, space⟩ | ⟨c, rest, rfl, inside, stray⟩ |
      ⟨lexeme, behind, rfl, fits⟩
    next => exact .some .nil
    next =>
      have noWord := space_not_word space
      exact renamed_space space (onward rest (by simp) (fun d member => List.mem_cons_of_mem _ member) _ _
        fun word => absurd noWord (ne_false_of_eq_true word))
    next => exact renamed_stray inside stray
    next =>
      have later := onward behind fits.shorter fun d member => List.mem_append_right _ member
      cases lexeme with
      | numeral literal => exact renamed_numeral fits (later true _ fun _ _ => rfl)
      | mark mark =>
        exact renamed_mark mark (later false _ fun word => absurd (mark_not_word mark) (ne_false_of_eq_true word))
      | name name =>
        refine renamed_name fits (fun c member => allowed c (List.mem_append_left _ member)) touched
          (fun before apart => later false before fun _ name => absurd apart (ne_false_of_eq_true name))
          fun function rest matched => ?_
        obtain ⟨shorter, inside⟩ := functionCall_behind matched
        have notWord : isWord '(' = false := by decide
        exact onward rest shorter inside false _ fun word => absurd notWord (ne_false_of_eq_true word)

end CallForm

end SpokenArithmetic

import Mathlib.Data.List.TakeWhile
import SpokenArithmetic.Proofs.Lexing.Lexemes
import SpokenArithmetic.Proofs.Lexing.Replacing

set_option autoImplicit false

namespace SpokenArithmetic

open Text

namespace Token

def lexemes? (scanned : Except Stray (List Token)) : Option (List Lexeme) :=
  match scanned with
  | .ok tokens => some (tokens.map lexeme)
  | .error _ => none

def lexes (text : List Char) : Option (List Lexeme) :=
  lexemes? (scanFrom 0 0 text)

theorem scanFrom_position (text : List Char) (position other skip : Nat) :
    lexemes? (scanFrom position skip text) = lexemes? (scanFrom other skip text) := by
  induction text generalizing position other skip with
  | nil => cases skip <;> rfl
  | cons c rest ih =>
    cases skip with
    | succ skip => exact ih (position + 1) (other + 1) skip
    | zero =>
      unfold scanFrom
      split
      next => exact ih (position + 1) (other + 1) 0
      next =>
        split
        next => rfl
        next lexeme behind _ =>
          have same := ih (position + 1) (other + 1) (rest.length - behind.length)
          cases first : scanFrom (position + 1) (rest.length - behind.length) rest <;>
            cases second : scanFrom (other + 1) (rest.length - behind.length) rest <;>
              simp_all [lexemes?, Bind.bind, Except.bind, Pure.pure, Except.pure]

theorem scanFrom_skipped (skipped rest : List Char) (position : Nat) :
    lexemes? (scanFrom position skipped.length (skipped ++ rest)) = lexes rest := by
  induction skipped generalizing position with
  | nil => exact scanFrom_position rest position 0 0
  | cons c skipped ih => exact ih (position + 1)

@[simp] theorem lexes_nil : lexes [] = some [] := rfl

theorem lexes_space {c : Char} {rest : List Char} (space : isSpace c = true) :
    lexes (c :: rest) = lexes rest := by
  rw [lexes, scanFrom, if_pos space]
  exact scanFrom_position rest 1 0 0

theorem lexes_stray {c : Char} {rest : List Char} (inside : isSpace c = false)
    (stray : lexeme? (c :: rest) = none) : lexes (c :: rest) = none := by
  rw [lexes, scanFrom]
  simp [inside, stray, lexemes?]

theorem Fits.starts {lexeme : Lexeme} {rest : List Char} (fits : Fits lexeme rest) :
    exists c tail, lexeme.text = c :: tail ∧ isSpace c = false := by
  cases lexeme with
  | numeral literal =>
    obtain ⟨c, tail, same, starts⟩ := fits.literal_starts
    refine ⟨c, tail, same, ?_⟩
    by_cases space : isSpace c = true
    next =>
      obtain ⟨noDigit, _, noSymbol⟩ := space_cases space
      rcases starts with digit | ⟨rfl, _⟩
      next => exact absurd noDigit (ne_false_of_eq_true digit)
      next => exact absurd (by simp) noSymbol
    next => simpa using space
  | name name =>
    cases fits with
    | name starts => exact ⟨_, _, rfl, (isNameStart_cases starts).2.1⟩
  | mark mark => exact ⟨mark.char, [], rfl, (mark_char_cases mark).2.1⟩

theorem Fits.shorter {lexeme : Lexeme} {rest : List Char} (fits : Fits lexeme rest) :
    rest.length < (lexeme.text ++ rest).length := by
  obtain ⟨c, tail, same, _⟩ := fits.starts
  simp only [same, List.length_append, List.length_cons]
  omega

theorem lexes_lexeme {lexeme : Lexeme} {rest : List Char} (fits : Fits lexeme rest) :
    lexes (lexeme.text ++ rest) = (lexes rest).map (lexeme :: ·) := by
  have found := lexeme?_eq_some.2 ⟨rfl, fits⟩
  obtain ⟨c, tail, same, inside⟩ := fits.starts
  rw [same, List.cons_append] at found ⊢
  have taken : (tail ++ rest).length - rest.length = tail.length := by simp
  have left := scanFrom_skipped tail rest 1
  rw [lexes, scanFrom]
  simp only [inside, Bool.false_eq_true, if_false, found, taken, Nat.zero_add]
  rw [← left]
  cases scanFrom 1 tail.length (tail ++ rest) <;> rfl

theorem lexes_skipSpace (text : List Char) : lexes (skipSpace text) = lexes text := by
  induction text with
  | nil => rfl
  | cons c rest ih =>
    by_cases space : isSpace c = true
    next => rw [lexes_space space, ← ih, skipSpace, skipSpace, List.dropWhile_cons_of_pos space]
    next => rw [skipSpace, List.dropWhile_cons_of_neg space]

theorem starts_cases (text : List Char) :
    text = [] ∨ (exists c rest, text = c :: rest ∧ isSpace c = true) ∨
      (exists c rest, text = c :: rest ∧ isSpace c = false ∧ lexeme? (c :: rest) = none) ∨
        exists lexeme rest, text = lexeme.text ++ rest ∧ Fits lexeme rest := by
  cases text with
  | nil => exact .inl rfl
  | cons c rest =>
    by_cases space : isSpace c = true
    next => exact .inr (.inl ⟨c, rest, rfl, space⟩)
    next =>
      cases found : lexeme? (c :: rest) with
      | none => exact .inr (.inr (.inl ⟨c, rest, rfl, by simpa using space, found⟩))
      | some pair =>
        obtain ⟨lexeme, behind⟩ := pair
        exact .inr (.inr (.inr ⟨lexeme, behind, lexeme?_eq_some.1 found⟩))

theorem lexes_eq_mark {text : List Char} {mark : Mark} {others : List Lexeme}
    (same : lexes text = some (.mark mark :: others)) :
    exists rest, skipSpace text = mark.char :: rest ∧ lexes rest = some others := by
  rw [← lexes_skipSpace] at same
  rcases starts_cases (skipSpace text) with empty | ⟨c, rest, starts, space⟩ |
    ⟨c, rest, starts, inside, stray⟩ | ⟨lexeme, rest, starts, fits⟩
  next =>
    rw [empty] at same
    cases same
  next =>
    have stops := List.head?_dropWhile_not isSpace text
    rw [skipSpace] at starts
    simp [starts, space] at stops
  next =>
    rw [starts, lexes_stray inside stray] at same
    cases same
  next =>
    rw [starts, lexes_lexeme fits] at same
    obtain ⟨others', lexed, same⟩ := Option.map_eq_some_iff.1 same
    obtain ⟨rfl, rfl⟩ := List.cons.inj same
    exact ⟨rest, starts, lexed⟩

theorem lexes_eq_nil {text : List Char} :
    lexes text = some [] ↔ forall c, c ∈ text -> isSpace c = true := by
  induction text with
  | nil => simp
  | cons c rest ih =>
    rcases starts_cases (c :: rest) with empty | ⟨d, tail, same, space⟩ | ⟨d, tail, same, inside, stray⟩ |
      ⟨lexeme, tail, same, fits⟩
    next => cases empty
    next =>
      obtain ⟨rfl, rfl⟩ := List.cons.inj same
      rw [lexes_space space, ih]
      simp [space]
    next =>
      obtain ⟨rfl, rfl⟩ := List.cons.inj same
      rw [lexes_stray inside stray]
      simp [inside]
    next =>
      obtain ⟨d, tail', starts, inside⟩ := fits.starts
      rw [same, lexes_lexeme fits]
      simp [starts, inside]

inductive StartsPower : List Char -> Prop where
  | unsigned {mark : Char} {rest : List Char} (isMark : mark ∈ ['e', 'E'])
    (digit : rest.head?.any isDigit = true) : StartsPower (mark :: rest)
  | signed {mark sign : Char} {rest : List Char} (isMark : mark ∈ ['e', 'E'])
    (isSign : sign ∈ ['+', '-']) (digit : rest.head?.any isDigit = true) :
    StartsPower (mark :: sign :: rest)

theorem powerOfTen?_eq_none {text : List Char} : powerOfTen? text = none ↔ ¬StartsPower text := by
  have split {rest : List Char} (digit : rest.head?.any isDigit = true) :
      exists digits behind, rest = digits ++ behind ∧ IsDigits digits ∧
        behind.head?.any isDigit = false :=
    ⟨_, _, digits?_eq_some.1 (if_pos digit)⟩
  constructor
  next =>
    intro none starts
    cases starts with
    | unsigned isMark digit =>
      obtain ⟨digits, behind, rfl, isDigits, ends⟩ := split digit
      have found := powerOfTen?_eq_some.2 ⟨rfl, .unsigned isMark isDigits, ends⟩
      cases none.symm.trans found
    | signed isMark isSign digit =>
      obtain ⟨digits, behind, rfl, isDigits, ends⟩ := split digit
      have found := powerOfTen?_eq_some.2 ⟨rfl, .signed isMark isSign isDigits, ends⟩
      cases none.symm.trans found
  next =>
    intro other
    cases found : powerOfTen? text with
    | none => rfl
    | some pair =>
      obtain ⟨power, rest⟩ := pair
      obtain ⟨rfl, isPower, _⟩ := powerOfTen?_eq_some.1 found
      cases isPower with
      | unsigned isMark isDigits => exact absurd (.unsigned isMark (isDigits.head rest)) other
      | signed isMark isSign isDigits =>
        exact absurd (.signed isMark isSign (isDigits.head rest)) other

/-- A text lengthens what stands in front of it no more than another text does. -/
structure Weaker (text other : List Char) : Prop where
  digit : text.head?.any isDigit = true -> other.head?.any isDigit = true
  point : text.head? = some '.' -> other.head? = some '.'
  namePart : text.head?.any isNamePart = true -> other.head?.any isNamePart = true
  power : StartsPower text -> StartsPower other

theorem Fits.weaken {lexeme : Lexeme} {rest text : List Char} (fits : Fits lexeme rest)
    (weaker : Weaker text rest) : Fits lexeme text := by
  have ends (none : rest.head?.any isDigit = false) : text.head?.any isDigit = false := by
    cases digit : text.head?.any isDigit with
    | false => rfl
    | true => rw [weaker.digit digit] at none; cases none
  cases fits with
  | plain isMantissa stops noPower =>
    refine .plain isMantissa ?_ (powerOfTen?_eq_none.2 fun starts => ?_)
    next =>
      rintro (digit | ⟨whole, point⟩)
      next => exact stops (.inl (weaker.digit digit))
      next => exact stops (.inr ⟨whole, weaker.point point⟩)
    next => exact powerOfTen?_eq_none.1 noPower (weaker.power starts)
  | scaled isMantissa isPower none => exact .scaled isMantissa isPower (ends none)
  | name starts all none =>
    refine .name starts all ?_
    cases part : text.head?.any isNamePart with
    | false => rfl
    | true => rw [weaker.namePart part] at none; cases none
  | mark => exact .mark

theorem lexeme?_weaken {c : Char} {rest text : List Char} (stray : lexeme? (c :: rest) = none)
    (weaker : Weaker text rest) : lexeme? (c :: text) = none := by
  rw [lexeme?_eq_none] at stray ⊢
  obtain ⟨noDigit, noFraction, others⟩ := stray
  refine ⟨noDigit, fun point => ?_, others⟩
  cases digit : text.head?.any isDigit with
  | false => rfl
  | true => exact absurd (noFraction point) (ne_false_of_eq_true (weaker.digit digit))

structure Bars (tail : List Char) : Prop where
  namePart : tail.head?.any isNamePart = false
  digit : tail.head?.any isDigit = false
  symbol : forall c, tail.head? = some c -> c ∉ ['.', '+', '-']

theorem Bars.weaker {tail : List Char} (bars : Bars tail) (text : List Char) :
    Weaker (text ++ tail) text := by
  have digitIn {rest : List Char} (digit : (rest ++ tail).head?.any isDigit = true) :
      rest.head?.any isDigit = true := by
    cases rest with
    | nil => exact absurd bars.digit (ne_false_of_eq_true digit)
    | cons => exact digit
  have markPart : forall c, c ∈ ['e', 'E'] -> isNamePart c = true := by decide
  have signSymbol : forall c, c ∈ ['+', '-'] -> c ∈ ['.', '+', '-'] := by decide
  constructor
  next => exact digitIn
  next =>
    intro point
    cases text with
    | nil => exact absurd (by simp) (bars.symbol '.' point)
    | cons => exact point
  next =>
    intro part
    cases text with
    | nil => exact absurd bars.namePart (ne_false_of_eq_true part)
    | cons => exact part
  next =>
    intro starts
    generalize same : text ++ tail = joined at starts
    cases starts with
    | @unsigned mark rest isMark digit =>
      cases text with
      | nil =>
        have none := bars.namePart
        simp only [List.nil_append] at same
        simp [same, markPart mark isMark] at none
      | cons c text =>
        obtain ⟨rfl, rfl⟩ := List.cons.inj same
        exact .unsigned isMark (digitIn digit)
    | @signed mark sign rest isMark isSign digit =>
      match text with
      | [] =>
        have none := bars.namePart
        simp only [List.nil_append] at same
        simp [same, markPart mark isMark] at none
      | [c] =>
        have starts : tail = sign :: rest := (List.cons.inj same).2
        exact absurd (signSymbol sign isSign) (bars.symbol sign (by rw [starts]; rfl))
      | c :: d :: text =>
        obtain ⟨rfl, behind⟩ := List.cons.inj same
        obtain ⟨rfl, rfl⟩ := List.cons.inj behind
        exact .signed isMark isSign (digitIn digit)

theorem lexes_append {tail : List Char} (bars : Bars tail) (text : List Char) :
    lexes (text ++ tail) =
      (lexes text).bind fun front => (lexes tail).map fun back => front ++ back := by
  generalize bound : text.length = size
  -- What is appended cannot lengthen the last lexeme, and the others do not see it.
  induction size using Nat.strongRecOn generalizing text with
  | ind size ih =>
    subst bound
    rcases starts_cases text with rfl | ⟨c, rest, rfl, space⟩ | ⟨c, rest, rfl, inside, stray⟩ |
      ⟨lexeme, rest, rfl, fits⟩
    next => simp
    next =>
      rw [List.cons_append, lexes_space space, lexes_space space]
      exact ih rest.length (by simp) rest rfl
    next =>
      rw [lexes_stray inside stray]
      exact lexes_stray inside (lexeme?_weaken stray (bars.weaker rest))
    next =>
      rw [List.append_assoc, lexes_lexeme fits, lexes_lexeme (fits.weaken (bars.weaker rest)),
        ih rest.length fits.shorter rest rfl]
      cases lexes rest <;> cases lexes tail <;> rfl

theorem bars_space {spaces : List Char} (all : forall c, c ∈ spaces -> isSpace c = true) :
    Bars spaces := by
  cases spaces with
  | nil => exact ⟨rfl, rfl, by simp⟩
  | cons c spaces =>
    obtain ⟨noDigit, noPart, noSymbol⟩ := space_cases (all c (by simp))
    refine ⟨noPart, noDigit, fun d same symbol => ?_⟩
    obtain rfl := Option.some.inj same
    have all : forall c, c ∈ ['.', '+', '-'] -> c ∈ ['.', 'e', 'E', '+', '-', '^', '('] := by decide
    exact noSymbol (all c symbol)

theorem lexes_append_space {spaces : List Char} (all : forall c, c ∈ spaces -> isSpace c = true)
    (text : List Char) : lexes (text ++ spaces) = lexes text := by
  rw [lexes_append (bars_space all), lexes_eq_nil.2 all]
  cases lexes text <;> simp

theorem lexemes?_scan {text : List Char} (allowed : forall c, c ∈ text -> CallForm.isAllowed c = true) :
    lexemes? (scan text) = lexes text := by
  obtain ⟨blanks, parts, blank⟩ := stripEnd_parts text
  have spaces : forall c, c ∈ blanks -> isSpace c = true := by
    intro c member
    have inText : c ∈ text := by
      rw [parts]
      exact List.mem_append_right _ member
    rw [← isBlank_of_isAllowed (allowed c inText)]
    exact blank c member
  have whole := lexes_append_space spaces (stripEnd text)
  rw [← parts] at whole
  exact whole.symm

theorem strip_isEmpty_iff {text : List Char} :
    (strip text).isEmpty = true ↔ forall c, c ∈ text -> isBlank c = true := by
  simp only [List.isEmpty_iff, strip, stripEnd, stripStart, List.reverse_eq_nil_iff,
    List.dropWhile_eq_nil_iff, List.mem_reverse]
  constructor
  next =>
    intro blanks c member
    rw [← @List.takeWhile_append_dropWhile _ isBlank text] at member
    rcases List.mem_append.1 member with front | rest
    next => exact List.all_eq_true.1 List.all_takeWhile c front
    next => exact blanks c rest
  next => exact fun blanks c member => blanks c (List.dropWhile_subset _ member)

theorem strip_isEmpty {text : List Char} (allowed : forall c, c ∈ text -> CallForm.isAllowed c = true) :
    (strip text).isEmpty = true ↔ lexes text = some [] := by
  rw [lexes_eq_nil, strip_isEmpty_iff]
  constructor
  next =>
    intro blanks c member
    rw [← isBlank_of_isAllowed (allowed c member)]
    exact blanks c member
  next =>
    intro spaces c member
    exact isBlank_of_isSpace (spaces c member)

end Token

end SpokenArithmetic

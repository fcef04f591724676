import SpokenArithmetic.Proofs.Lexing.Scanning

set_option autoImplicit false

namespace SpokenArithmetic

open Text Token

namespace CallForm

inductive Scanned (text : List Char) : (front rest : List Char) -> Prop where
  | start : Scanned text [] text
  | space {front rest : List Char} {c : Char} (scanned : Scanned text front (c :: rest))
    (space : isSpace c = true) : Scanned text (front ++ [c]) rest
  | lexeme {front rest : List Char} {lexeme : Lexeme}
    (scanned : Scanned text front (lexeme.text ++ rest)) (fits : Fits lexeme rest) :
    Scanned text (front ++ lexeme.text) rest

theorem Scanned.parts {text front rest : List Char} (scanned : Scanned text front rest) :
    text = front ++ rest := by
  induction scanned with
  | start => rfl
  | space _ _ ih => simpa using ih
  | lexeme _ _ ih => simpa using ih

/-- The powers of two literals in a text stand apart: none starts inside a lexeme, and none is the
beginning of a chain that goes on behind white space. -/
structure PowersApart (text : List Char) : Prop where
  atLexemes : forall {front rest : List Char} {lexeme : Lexeme},
    Scanned text front (lexeme.text ++ rest) -> Fits lexeme rest ->
      forall {inside tail : List Char}, lexeme.text = inside ++ tail -> inside ≠ [] -> tail ≠ [] ->
        literalPower inside.getLast? (tail ++ rest) = none
  unchained : forall {front rest behind : List Char} {power : List Char × List Char},
    text = front ++ rest -> literalPower front.getLast? rest = some (power, behind) ->
      (skipSpace behind).head? ≠ some '^'

inductive Powers : List Lexeme -> List Lexeme -> Prop where
  | nil : Powers [] []
  | same (lexeme : Lexeme) {left right : List Lexeme} (rest : Powers left right) :
    Powers (lexeme :: left) (lexeme :: right)
  | power (base exponent : List Char) {left right : List Lexeme}
    (unchained : left.head? ≠ some (.mark (.operator .power))) (rest : Powers left right) :
    Powers (.numeral base :: .mark (.operator .power) :: .numeral exponent :: left)
      (.name Callable.power.name.toList :: .mark .opening :: .numeral base :: .mark .comma ::
        .numeral exponent :: .mark .closing :: right)

theorem literalPower_eq_some {before : Option Char} {text base exponent behind : List Char} :
    literalPower before text = some ((base, exponent), behind) ↔
      before.any touchesPower = false ∧ text = base ++ '^' :: (exponent ++ behind) ∧
        numeral? text = some (base, '^' :: (exponent ++ behind)) ∧
        numeral? (exponent ++ behind) = some (exponent, behind) ∧
        behind.head?.any touchesPower = false := by
  unfold literalPower Pattern.unlessBehind
  constructor
  next =>
    intro found
    split at found
    next => cases found
    next free =>
      obtain ⟨⟨base', rest⟩, baseFound, found₁⟩ := Option.bind_eq_some_iff.1 found
      obtain ⟨rest', marked, found₂⟩ := Option.bind_eq_some_iff.1 found₁
      obtain ⟨⟨exponent', rest''⟩, exponentFound, found₃⟩ := Option.bind_eq_some_iff.1 found₂
      dsimp only at marked exponentFound found₃
      split at found₃
      next => cases found₃
      next ends =>
        obtain ⟨powers, rfl⟩ := Prod.mk.inj (Option.some.inj found₃)
        obtain ⟨rfl, rfl⟩ := Prod.mk.inj powers
        obtain ⟨same, _⟩ := numeral?_eq_some.1 exponentFound
        subst same
        obtain rfl := after?_eq_some.1 marked
        obtain ⟨same, _⟩ := numeral?_eq_some.1 baseFound
        exact ⟨by simpa using free, same, baseFound, exponentFound, by simpa using ends⟩
  next =>
    rintro ⟨free, -, baseFound, exponentFound, ends⟩
    have marked : after? ['^'] ('^' :: (exponent ++ behind)) = some (exponent ++ behind) :=
      after?_eq_some.2 rfl
    simp [free, baseFound, marked, exponentFound, ends]

theorem fits_before_mark {pointed : Bool} {mantissa : List Char} (isMantissa : IsMantissa pointed mantissa)
    (mark : Mark) (rest : List Char) : Fits (.numeral mantissa) (mark.char :: rest) := by
  obtain ⟨noDigit, _, noPoint, noName⟩ := mark_char_cases mark
  refine .plain isMantissa ?_ (powerOfTen?_eq_none.2 fun starts => ?_)
  next => simp [Lengthens, noDigit, noPoint]
  next =>
    have isName : forall c, c ∈ ['e', 'E'] -> isNameStart c = true := by decide
    generalize same : mark.char :: rest = text at starts
    cases starts with
    | unsigned isMark _ | signed isMark _ _ =>
      obtain ⟨rfl, _⟩ := List.cons.inj same
      exact absurd (isName _ isMark) (by simp [noName])

theorem literalPower_fits {before : Option Char} {text base exponent behind : List Char}
    (matched : literalPower before text = some ((base, exponent), behind)) :
    (forall (mark : Mark) (rest : List Char), Fits (.numeral base) (mark.char :: rest) ∧
      Fits (.numeral exponent) (mark.char :: rest)) ∧ Fits (.numeral exponent) behind := by
  obtain ⟨_, _, baseFound, exponentFound, ends⟩ := literalPower_eq_some.1 matched
  obtain ⟨_, _, _, isBase, _⟩ := numeral?_eq_some.1 baseFound
  obtain ⟨_, _, _, isExponent, stops⟩ := numeral?_eq_some.1 exponentFound
  refine ⟨fun mark rest => ⟨fits_before_mark isBase mark rest, fits_before_mark isExponent mark rest⟩,
    .plain isExponent stops (powerOfTen?_eq_none.2 fun starts => ?_)⟩
  have touches : forall c, c ∈ ['e', 'E'] -> touchesPower c = true := by decide
  cases starts with
  | unsigned isMark _ | signed isMark _ _ => exact absurd (touches _ isMark) (by simpa using ends)

theorem lexes_power {before : Option Char} {text base exponent behind : List Char}
    (matched : literalPower before text = some ((base, exponent), behind)) :
    lexes text = (lexes behind).map fun rest =>
      .numeral base :: .mark (.operator .power) :: .numeral exponent :: rest := by
  obtain ⟨_, rfl, _⟩ := literalPower_eq_some.1 matched
  obtain ⟨marks, last⟩ := literalPower_fits matched
  have first := lexes_lexeme (marks (.operator .power) (exponent ++ behind)).1
  have second := @lexes_lexeme (.mark (.operator .power)) (exponent ++ behind) .mark
  have third := lexes_lexeme last
  simp only [Lexeme.text, Mark.char, Operator.symbol, List.cons_append, List.nil_append] at first second third
  rw [first, second, third, Option.map_map, Option.map_map]
  rfl

theorem lexes_writePower {before : Option Char} {text base exponent behind : List Char}
    (matched : literalPower before text = some ((base, exponent), behind)) (out : List Char) :
    lexes (writePower (base, exponent) ++ out) = (lexes out).map fun rest =>
      .name Callable.power.name.toList :: .mark .opening :: .numeral base :: .mark .comma ::
        .numeral exponent :: .mark .closing :: rest := by
  obtain ⟨marks, _⟩ := literalPower_fits matched
  have name : Fits (.name Callable.power.name.toList) ('(' :: (base ++ ',' :: (exponent ++ ')' :: out))) :=
    .name (by decide) (by decide) rfl
  have first := lexes_lexeme name
  have second := @lexes_lexeme (.mark .opening) (base ++ ',' :: (exponent ++ ')' :: out)) .mark
  have third := lexes_lexeme (marks .comma (exponent ++ ')' :: out)).1
  have fourth := @lexes_lexeme (.mark .comma) (exponent ++ ')' :: out) .mark
  have fifth := lexes_lexeme (marks .closing out).2
  have sixth := @lexes_lexeme (.mark .closing) out .mark
  simp only [Lexeme.text, Mark.char, List.cons_append, List.nil_append] at first second third fourth fifth sixth
  have written : writePower (base, exponent) ++ out =
      Callable.power.name.toList ++ '(' :: (base ++ ',' :: (exponent ++ ')' :: out)) := by
    simp [writePower]
  rw [written, first, second, third, fourth, fifth, sixth]
  simp only [Option.map_map]
  rfl

theorem writePower_starts : Pattern.StartsWith literalPower writePower ['m', '_'] := by
  intro before text found behind _
  exact ⟨'m', _, by simp, rfl⟩

theorem weaker_replaceFrom {A : Type} {pattern : Pattern A} {render : A -> List Char}
    {before : Option Char} {text : List Char} (renders : pattern.StartsWith render ['m', '_'])
    (named : forall found behind, pattern before text = some (found, behind) ->
      text.head?.any isNamePart = true) :
    Weaker (pattern.replaceFrom render before 0 text) text := by
  have copied {c : Char} (other : c ∉ ['m', '_']) {before : Option Char} {text : List Char}
      (same : (pattern.replaceFrom render before 0 text).head? = some c) : text.head? = some c := by
    obtain ⟨out, same⟩ := List.head?_eq_some_iff.1 same
    obtain ⟨rest, rfl, _⟩ := Pattern.replaceFrom_eq_cons renders other same
    rfl
  have digit {before : Option Char} {text : List Char}
      (digit : (pattern.replaceFrom render before 0 text).head?.any isDigit = true) :
      text.head?.any isDigit = true := by
    obtain ⟨c, same, isDigit⟩ := (Option.any_eq_true _ _).1 digit
    have other : c ∉ ['m', '_'] := by
      intro member
      have none : forall c, c ∈ ['m', '_'] -> Text.isDigit c = false := by decide
      exact absurd (none c member) (ne_false_of_eq_true isDigit)
    rw [copied other same]
    exact isDigit
  have markOther : forall c, c ∈ ['e', 'E'] -> c ∉ ['m', '_'] := by decide
  have signOther : forall c, c ∈ ['+', '-'] -> c ∉ ['m', '_'] := by decide
  constructor
  next => exact digit
  next => exact copied (by decide)
  next =>
    intro part
    cases found : pattern before text with
    | some pair => exact named pair.1 pair.2 found
    | none =>
      cases text with
      | nil => exact part
      | cons c rest => simpa [Pattern.replaceFrom, found] using part
  next =>
    intro starts
    generalize same : pattern.replaceFrom render before 0 text = out at starts
    cases starts with
    | @unsigned mark rest isMark isDigit =>
      obtain ⟨rest, rfl, rfl⟩ := Pattern.replaceFrom_eq_cons renders (markOther mark isMark) same
      exact .unsigned isMark (digit isDigit)
    | @signed mark sign rest isMark isSign isDigit =>
      obtain ⟨rest, rfl, next⟩ := Pattern.replaceFrom_eq_cons renders (markOther mark isMark) same
      obtain ⟨rest, rfl, rfl⟩ :=
        Pattern.replaceFrom_eq_cons renders (signOther sign isSign) next.symm
      exact .signed isMark isSign (digit isDigit)

theorem literalPower_starts {before : Option Char} {text behind : List Char}
    {power : List Char × List Char} (matched : literalPower before text = some (power, behind)) :
    text.head?.any isDigit = true := by
  obtain ⟨_, rfl, baseFound, _⟩ := literalPower_eq_some.1 matched
  obtain ⟨_, digit, _⟩ := numeral?_eq_some.1 baseFound
  cases base : power.1 with
  | nil => simp [base] at digit
  | cons c rest => simpa [base] using digit

theorem namePart_of_isDigit {c : Char} (allowed : isAllowed c = true) (digit : isDigit c = true) :
    isNamePart c = true := by
  rw [isDigit_of_isAllowed allowed] at digit
  simp [isNamePart, Char.isAlphanum, digit]

theorem namePart_of_digit {text : List Char} (allowed : forall c, c ∈ text -> isAllowed c = true)
    (digit : text.head?.any isDigit = true) : text.head?.any isNamePart = true := by
  cases text with
  | nil => exact digit
  | cons c rest => exact namePart_of_isDigit (allowed c (by simp)) digit

theorem rel_map {related extended : List Lexeme -> List Lexeme -> Prop}
    {left right : Option (List Lexeme)} {extend extend' : List Lexeme -> List Lexeme}
    (rest : Option.Rel related left right)
    (step : forall front back, left = some front -> related front back ->
      extended (extend front) (extend' back)) :
    Option.Rel extended (left.map extend) (right.map extend') := by
  cases rest with
  | none => exact .none
  | some same => exact .some (step _ _ rfl same)

section Replaced

def Called (before : Option Char) (text : List Char) : Prop :=
  Option.Rel Powers (lexes text) (lexes (literalPower.replaceFrom writePower before 0 text))

theorem literalPower_other {before : Option Char} {c : Char} {rest : List Char}
    (other : isDigit c = false) : literalPower before (c :: rest) = none := by
  cases matched : literalPower before (c :: rest) with
  | none => rfl
  | some pair => exact absurd other (ne_false_of_eq_true (literalPower_starts matched))

theorem weaker_powers (before : Option Char) {text : List Char}
    (allowed : forall c, c ∈ text -> isAllowed c = true) :
    Weaker (literalPower.replaceFrom writePower before 0 text) text :=
  weaker_replaceFrom writePower_starts fun _ _ matched =>
    namePart_of_digit allowed (literalPower_starts matched)

variable {text front behind : List Char}

-- No power starts inside a lexeme, so one at which none starts is copied.
theorem called_copied (apart : PowersApart text) {lexeme : Lexeme}
    (scanned : Scanned text front (lexeme.text ++ behind)) (fits : Fits lexeme behind)
    (allowed : forall c, c ∈ behind -> isAllowed c = true)
    (unmatched : literalPower (lastBehind none front) (lexeme.text ++ behind) = none)
    (later : Called (lastBehind none (front ++ lexeme.text)) behind) :
    Called (lastBehind none front) (lexeme.text ++ behind) := by
  have passes : literalPower.Passes (lastBehind none front) lexeme.text behind := by
    refine Pattern.passes_of_places fun inside tail same present => ?_
    by_cases first : inside = []
    next =>
      subst first
      rw [List.nil_append] at same
      rw [← same]
      exact unmatched
    next =>
      rw [lastBehind_eq_getLast? first]
      exact apart.atLexemes scanned fits same first present
  rw [lastBehind_append] at later
  unfold Called
  rw [Pattern.replaceFrom_passed passes, lexes_lexeme fits,
    lexes_lexeme (fits.weaken (weaker_powers _ allowed))]
  exact rel_map later fun _ _ _ related => .same lexeme related

theorem Scanned.power {rest base exponent : List Char} {before : Option Char}
    (scanned : Scanned text front rest)
    (matched : literalPower before rest = some ((base, exponent), behind)) :
    rest = (base ++ '^' :: exponent) ++ behind ∧ Scanned text (front ++ (base ++ '^' :: exponent)) behind := by
  obtain ⟨marks, last⟩ := literalPower_fits matched
  obtain ⟨_, parts, _⟩ := literalPower_eq_some.1 matched
  rw [parts] at scanned
  have atMark := scanned.lexeme (marks (.operator .power) (exponent ++ behind)).1
  have atExponent := @Scanned.lexeme _ _ _ (.mark (.operator .power)) atMark .mark
  have passed := atExponent.lexeme last
  have stretch : front ++ base ++ ['^'] ++ exponent = front ++ (base ++ '^' :: exponent) := by simp
  have whole : base ++ '^' :: (exponent ++ behind) = (base ++ '^' :: exponent) ++ behind := by simp
  simp only [Lexeme.text, Mark.char, Operator.symbol] at passed
  rw [stretch] at passed
  exact ⟨parts.trans whole, passed⟩

theorem called_power (apart : PowersApart text) {rest base exponent : List Char}
    (scanned : Scanned text front rest)
    (matched : literalPower (lastBehind none front) rest = some ((base, exponent), behind))
    (later : Called (lastBehind none (front ++ (base ++ '^' :: exponent))) behind) :
    Called (lastBehind none front) rest := by
  have lexed := lexes_power matched
  have written := lexes_writePower matched
  have unchained := apart.unchained scanned.parts (by rw [← lastBehind_none]; exact matched)
  obtain ⟨rfl, _⟩ := scanned.power matched
  rw [lastBehind_append] at later
  unfold Called
  rw [Pattern.replaceFrom_matched (by simp) matched, lexed, written]
  refine rel_map later fun left _ same related => .power base exponent ?_ related
  intro head
  obtain ⟨others, rfl⟩ := List.head?_eq_some_iff.1 head
  obtain ⟨tail, skipped, _⟩ := lexes_eq_mark same
  exact unchained (by rw [skipped]; rfl)

end Replaced

theorem powers_replaceFrom {text front rest : List Char} (apart : PowersApart text)
    (allowed : forall c, c ∈ rest -> isAllowed c = true) (scanned : Scanned text front rest) :
    Called (lastBehind none front) rest := by
  generalize bound : rest.length = size
  -- Strong induction on what is left, since a match takes several lexemes at once.
  induction size using Nat.strongRecOn generalizing front rest with
  | ind size ih =>
    subst bound
    rcases starts_cases rest with rfl | ⟨c, rest, rfl, space⟩ | ⟨c, rest, rfl, inside, stray⟩ |
      ⟨lexeme, behind, rfl, fits⟩
    next => exact .some .nil
    next =>
      have later := ih rest.length (by simp) (fun d member => allowed d (by simp [member]))
        (scanned.space space) rfl
      rw [lastBehind_append] at later
      unfold Called
      rw [Pattern.replaceFrom, literalPower_other (space_cases space).1, lexes_space space, lexes_space space]
      exact later
    next =>
      have others : forall d, d ∈ rest -> isAllowed d = true := fun d member => allowed d (by simp [member])
      unfold Called
      rw [Pattern.replaceFrom, literalPower_other (lexeme?_eq_none.1 stray).1, lexes_stray inside stray]
      dsimp only
      rw [lexes_stray inside (lexeme?_weaken stray (weaker_powers (some c) others))]
      exact .none
    next =>
      have others : forall d, d ∈ behind -> isAllowed d = true :=
        fun d member => allowed d (by simp [member])
      cases matched : literalPower (lastBehind none front) (lexeme.text ++ behind) with
      | none =>
        have later := ih behind.length fits.shorter others (scanned.lexeme fits) rfl
        exact called_copied apart scanned fits others matched later
      | some pair =>
        obtain ⟨⟨base, exponent⟩, left⟩ := pair
        obtain ⟨parts, passed⟩ := scanned.power matched
        have shorter : left.length < (lexeme.text ++ behind).length := by
          rw [parts]
          simp
          omega
        have inside : forall d, d ∈ left -> isAllowed d = true := by
          intro d member
          refine allowed d ?_
          rw [parts]
          exact List.mem_append_right _ member
        exact called_power apart scanned matched (ih left.length shorter inside passed rfl)

theorem Scanned.lexes {text front rest : List Char} (scanned : Scanned text front rest)
    {lexemes : List Lexeme} (lexed : Token.lexes text = some lexemes) :
    exists passed left, lexemes = passed ++ left ∧ Token.lexes rest = some left := by
  induction scanned with
  | start => exact ⟨[], lexemes, rfl, lexed⟩
  | space _ space ih =>
    obtain ⟨passed, left, same, found⟩ := ih
    exact ⟨passed, left, same, by rwa [lexes_space space] at found⟩
  | @lexeme front rest lexeme _ fits ih =>
    obtain ⟨passed, left, rfl, found⟩ := ih
    rw [lexes_lexeme fits] at found
    obtain ⟨others, behind, rfl⟩ := Option.map_eq_some_iff.1 found
    exact ⟨passed ++ [lexeme], others, by simp, behind⟩

theorem touches_of_namePart {c : Char} (allowed : isAllowed c = true) (part : isNamePart c = true) :
    touchesPower c = true := by
  simp [touchesPower, isWord_of_isAllowed allowed, part]

theorem touches_of_lexeme {lexeme : Lexeme} {behind : List Char} (fits : Fits lexeme behind)
    (allowed : forall c, c ∈ lexeme.text -> isAllowed c = true) (long : 2 <= lexeme.text.length)
    (plain : forall literal, lexeme = .numeral literal -> exists pointed, IsMantissa pointed literal) :
    forall c, c ∈ lexeme.text -> touchesPower c = true := by
  intro c member
  have inAlphabet := allowed c member
  cases lexeme with
  | numeral literal =>
    obtain ⟨_, isMantissa⟩ := plain literal rfl
    rcases isMantissa.chars c member with digit | rfl
    next => exact touches_of_namePart inAlphabet (namePart_of_isDigit inAlphabet digit)
    next => rfl
  | name name =>
    cases fits with
    | name starts all _ =>
      refine touches_of_namePart inAlphabet ?_
      rcases List.mem_cons.1 member with rfl | later
      next => exact namePart_of_nameStart starts
      next => exact all c later
  | mark mark => simp [Lexeme.text] at long

theorem powersApart_of_plain {text : List Char} {lexemes : List Lexeme}
    (allowed : forall c, c ∈ text -> isAllowed c = true)
    (inside : forall c, c ∈ text -> isSpace c = false) (lexed : lexes text = some lexemes)
    (plain : forall literal, .numeral literal ∈ lexemes -> exists pointed, IsMantissa pointed literal) :
    PowersApart text where
  atLexemes {front rest lexeme} scanned fits {inner tail} same present more := by
    have inText : forall c, c ∈ lexeme.text -> isAllowed c = true := by
      intro c member
      refine allowed c ?_
      rw [scanned.parts]
      exact List.mem_append_right _ (List.mem_append_left _ member)
    have long : 2 <= lexeme.text.length := by
      have one := List.length_pos_iff.2 present
      have two := List.length_pos_iff.2 more
      rw [same, List.length_append]
      omega
    have mantissa : forall literal, lexeme = .numeral literal -> exists pointed, IsMantissa pointed literal := by
      rintro literal rfl
      obtain ⟨_, left, rfl, found⟩ := scanned.lexes lexed
      rw [lexes_lexeme fits] at found
      obtain ⟨others, _, rfl⟩ := Option.map_eq_some_iff.1 found
      exact plain literal (by simp)
    obtain ⟨c, last⟩ : exists c, inner.getLast? = some c :=
      ⟨_, List.getLast?_eq_some_getLast present⟩
    have member : c ∈ lexeme.text := by
      rw [same]
      exact List.mem_append_left _ (List.mem_of_getLast? last)
    have touches := touches_of_lexeme fits inText long mantissa c member
    simp [literalPower, Pattern.unlessBehind, last, touches]
  unchained {front rest behind power} parts matched := by
    obtain ⟨_, same, _, _, ends⟩ := literalPower_eq_some.1 matched
    cases behind with
    | nil => simp [skipSpace]
    | cons c behind =>
      have noSpace : isSpace c = false := by
        refine inside c ?_
        rw [parts, same]
        simp
      rw [skipSpace, List.dropWhile_cons_of_neg (by simp [noSpace])]
      intro head
      obtain rfl : c = '^' := by simpa using head
      cases ends

end CallForm

end SpokenArithmetic

import SpokenArithmetic.Proofs.Grammar.Derives
import SpokenArithmetic.Proofs.Rewriting.Functions

set_option autoImplicit false

namespace SpokenArithmetic.Grammar

open Text Token CallForm

inductive PlainNumeral : List Char -> Prop where
  | whole {digits : List Char} (present : digits ≠ [])
    (all : forall c, c ∈ digits -> c.isDigit = true) : PlainNumeral digits
  | pointed {whole fraction : List Char} (present : whole ++ fraction ≠ [])
    (all : forall c, c ∈ whole ++ fraction -> c.isDigit = true) :
    PlainNumeral (whole ++ '.' :: fraction)

theorem PlainNumeral.isMantissa {text : List Char} (plain : PlainNumeral text) :
    exists pointed, IsMantissa pointed text := by
  cases plain with
  | whole present all => exact ⟨false, .whole ⟨present, fun c member => isDigit_of_asciiDigit (all c member)⟩⟩
  | pointed present all =>
    exact ⟨true, .pointed present fun c member => isDigit_of_asciiDigit (all c member)⟩

theorem PlainNumeral.chars {text : List Char} (plain : PlainNumeral text) :
    forall c, c ∈ text -> c.isDigit = true ∨ c = '.' := by
  intro c member
  cases plain with
  | whole _ all => exact .inl (all c member)
  | @pointed whole fraction _ all =>
    simp only [List.mem_append, List.mem_cons] at member all
    rcases member with inWhole | point | inFraction
    next => exact .inl (all c (.inl inWhole))
    next => exact .inr point
    next => exact .inl (all c (.inr inFraction))

def surface? (name : List Char) : Option Callable :=
  (Function.ofName? (String.ofList name)).map .apply

theorem surface?_eq_some {name : List Char} {callable : Callable} :
    surface? name = some callable ↔
      exists function : Function, name = function.name.toList ∧ callable = .apply function := by
  unfold surface? Function.ofName?
  rw [Option.map_eq_some_iff]
  constructor
  next =>
    rintro ⟨function, found, rfl⟩
    have same := List.find?_some found
    simp only [beq_iff_eq] at same
    exact ⟨function, by simp [same], rfl⟩
  next =>
    rintro ⟨function, rfl, rfl⟩
    refine ⟨function, ?_, rfl⟩
    cases function <;> decide

theorem callable?_callNameOf {name : List Char} {callable : Callable}
    (named : surface? name = some callable) : callable? (callNameOf name) = some callable := by
  obtain ⟨function, rfl, rfl⟩ := surface?_eq_some.1 named
  cases function <;> decide

def Writable : Lexeme -> Prop
  | .numeral text => PlainNumeral text
  | .name text => exists callable, surface? text = some callable
  | .mark _ => True

def printed (lexemes : List Lexeme) : List Char :=
  lexemes.flatMap Lexeme.text

inductive Ended : List Lexeme -> Prop where
  | nil : Ended []
  | mark (mark : Mark) (rest : List Lexeme) : Ended (.mark mark :: rest)

inductive Separated : List Lexeme -> Prop where
  | nil : Separated []
  | mark (mark : Mark) {rest : List Lexeme} (separated : Separated rest) :
    Separated (.mark mark :: rest)
  | word (lexeme : Lexeme) {rest : List Lexeme} (ended : Ended rest) (separated : Separated rest) :
    Separated (lexeme :: rest)

theorem mark_not_namePart (mark : Mark) : isNamePart mark.char = false := by
  cases mark with
  | operator operator => cases operator <;> decide
  | _ => decide

theorem fits_printed {lexeme : Lexeme} (writable : Writable lexeme) {rest : List Lexeme}
    (ended : Ended rest) : Fits lexeme (printed rest) := by
  cases lexeme with
  | numeral text =>
    obtain ⟨pointed, isMantissa⟩ := PlainNumeral.isMantissa writable
    cases ended with
    | nil => exact .plain isMantissa (by simp [Lengthens, printed]) rfl
    | mark mark rest => exact fits_before_mark isMantissa mark (printed rest)
  | name text =>
    obtain ⟨callable, named⟩ := writable
    obtain ⟨function, rfl, _⟩ := surface?_eq_some.1 named
    cases ended with
    | nil => exact (fits_name function rfl).1
    | mark mark rest => exact (@fits_name function (mark.char :: printed rest) (mark_not_namePart mark)).1
  | mark mark => exact .mark

theorem lexes_printed {lexemes : List Lexeme} (separated : Separated lexemes)
    (writable : forall lexeme, lexeme ∈ lexemes -> Writable lexeme) :
    lexes (printed lexemes) = some lexemes := by
  induction separated with
  | nil => rfl
  | @mark mark rest _ ih =>
    have behind := ih fun other member => writable other (List.mem_cons_of_mem _ member)
    have first := @lexes_lexeme (.mark mark) (printed rest) .mark
    rw [behind] at first
    exact first
  | @word lexeme rest ended _ ih =>
    have behind := ih fun other member => writable other (List.mem_cons_of_mem _ member)
    have first := lexes_lexeme (fits_printed (writable lexeme List.mem_cons_self) ended)
    rw [behind] at first
    exact first

theorem printed_allowed {lexemes : List Lexeme}
    (writable : forall lexeme, lexeme ∈ lexemes -> Writable lexeme) :
    forall c, c ∈ printed lexemes -> isAllowed c = true ∧ isSpace c = false := by
  intro c member
  obtain ⟨lexeme, inLexemes, inText⟩ := List.mem_flatMap.1 member
  have known := writable lexeme inLexemes
  cases lexeme with
  | numeral text =>
    rcases PlainNumeral.chars known c inText with digit | rfl
    next =>
      have allowed := isAllowed_of_asciiDigit digit
      refine ⟨allowed, ?_⟩
      cases space : isSpace c with
      | false => rfl
      | true =>
        have noDigit := (space_cases space).1
        rw [isDigit_of_asciiDigit digit] at noDigit
        cases noDigit
    next => decide
  | name text =>
    obtain ⟨callable, named⟩ := known
    obtain ⟨function, rfl, _⟩ := surface?_eq_some.1 named
    have all : forall c, c ∈ function.name.toList -> isAllowed c = true ∧ isSpace c = false := by
      cases function <;> decide
    exact all c inText
  | mark mark =>
    obtain rfl := List.mem_singleton.1 inText
    cases mark with
    | operator operator => cases operator <;> decide
    | _ => decide

namespace Derivation

theorem ended_further {tier : Tier} (others : Derivation (.further tier)) {rest : List Lexeme}
    (ended : Ended rest) : Ended (others.yield ++ rest) := by
  cases others with
  | noFurther => exact ended
  | further => exact .mark _ _

theorem ended_furtherArguments (others : Derivation .furtherArguments) {rest : List Lexeme}
    (ended : Ended rest) : Ended (others.yield ++ rest) := by
  cases others with
  | noFurtherArguments => exact ended
  | furtherArguments => exact .mark _ _

-- What follows the derivation is part of the statement, for a name or a numeral may come last in it.
theorem separated_yield {nonterminal : Nonterminal} (derivation : Derivation nonterminal)
    {rest : List Lexeme} (ended : Ended rest) (separated : Separated rest) :
    Separated (derivation.yield ++ rest) := by
  induction derivation generalizing rest with
  | numeral text => exact .word _ ended separated
  | call name given ih =>
    have inside := ih (.mark .closing rest) (.mark .closing separated)
    have parts : (call name given).yield ++ rest =
        .name name :: .mark .opening :: (given.yield ++ .mark .closing :: rest) := by
      simp [yield]
    rw [parts]
    exact .word _ (.mark _ _) (.mark _ inside)
  | group inner ih =>
    have inside := ih (.mark .closing rest) (.mark .closing separated)
    have parts : (group inner).yield ++ rest =
        .mark .opening :: (inner.yield ++ .mark .closing :: rest) := by
      simp [yield]
    rw [parts]
    exact .mark _ inside
  | bare base ih => exact ih ended separated
  | raised base exponent baseSeparated exponentSeparated =>
    rw [yield, List.append_assoc]
    exact baseSeparated (.mark _ _) (.mark _ (exponentSeparated ended separated))
  | unsigned operand ih => exact ih ended separated
  | signed negative operand ih => exact .mark _ (ih ended separated)
  | chain tier first others firstSeparated othersSeparated =>
    rw [yield, List.append_assoc]
    exact firstSeparated (others.ended_further ended) (othersSeparated ended separated)
  | noFurther tier => exact separated
  | further tier operator member operand others operandSeparated othersSeparated =>
    have parts : (further tier operator member operand others).yield ++ rest =
        .mark (.operator operator) :: (operand.yield ++ (others.yield ++ rest)) := by
      simp [yield]
    rw [parts]
    exact .mark _ (operandSeparated (others.ended_further ended) (othersSeparated ended separated))
  | noArguments => exact separated
  | arguments first others firstSeparated othersSeparated =>
    rw [yield, List.append_assoc]
    exact firstSeparated (others.ended_furtherArguments ended) (othersSeparated ended separated)
  | noFurtherArguments => exact separated
  | furtherArguments first others firstSeparated othersSeparated =>
    have parts : (furtherArguments first others).yield ++ rest =
        .mark .comma :: (first.yield ++ (others.yield ++ rest)) := by
      simp [yield]
    rw [parts]
    exact .mark _ (firstSeparated (others.ended_furtherArguments ended) (othersSeparated ended separated))

def called : {nonterminal : Nonterminal} -> Derivation nonterminal -> Derivation nonterminal
  | _, numeral text => numeral text
  | _, call name given => call (callNameOf name) given.called
  | _, group inner => group inner.called
  | _, bare base => bare base.called
  | _, raised base exponent => raised base.called exponent.called
  | _, unsigned operand => unsigned operand.called
  | _, signed negative operand => signed negative operand.called
  | _, chain tier first others => chain tier first.called others.called
  | _, noFurther tier => noFurther tier
  | _, further tier operator member operand others =>
    further tier operator member operand.called others.called
  | _, noArguments => noArguments
  | _, arguments first others => arguments first.called others.called
  | _, noFurtherArguments => noFurtherArguments
  | _, furtherArguments first others => furtherArguments first.called others.called

theorem resolve_mark (mark : Mark) (rest : List Lexeme) :
    resolve (.mark mark :: rest) = .mark mark :: resolve rest := by
  simp [resolve, Lexeme.called]

theorem resolve_yield {nonterminal : Nonterminal} (derivation : Derivation nonterminal)
    (rest : List Lexeme) : resolve (derivation.yield ++ rest) = derivation.called.yield ++ resolve rest := by
  induction derivation generalizing rest with
  | numeral text => simp [yield, called, resolve, Lexeme.called]
  | call name given ih =>
    have opened : resolve (.name name :: .mark .opening :: (given.yield ++ .mark .closing :: rest)) =
        .name (callNameOf name) :: resolve (.mark .opening :: (given.yield ++ .mark .closing :: rest)) := rfl
    simp [yield, called, opened, resolve_mark, ih]
  | group inner ih => simp [yield, called, resolve_mark, ih]
  | bare base ih => exact ih rest
  | raised base exponent ihBase ihExponent => simp [yield, called, resolve_mark, ihBase, ihExponent]
  | unsigned operand ih => exact ih rest
  | signed negative operand ih => simp [yield, called, resolve_mark, ih]
  | chain tier first others ihFirst ihOthers => simp [yield, called, ihFirst, ihOthers]
  | noFurther tier => rfl
  | further tier operator member operand others ihOperand ihOthers =>
    simp [yield, called, resolve_mark, ihOperand, ihOthers]
  | noArguments => rfl
  | arguments first others ihFirst ihOthers => simp [yield, called, ihFirst, ihOthers]
  | noFurtherArguments => rfl
  | furtherArguments first others ihFirst ihOthers =>
    simp [yield, called, resolve_mark, ihFirst, ihOthers]

theorem depth_called {nonterminal : Nonterminal} (derivation : Derivation nonterminal) :
    derivation.called.depth = derivation.depth := by
  induction derivation <;> simp_all [called, depth]

theorem both_eq_some {A B C : Type} {left : Option A} {right : Option B} {combine : A -> B -> C}
    {content : C} :
    (do
      let first <- left
      let second <- right
      return combine first second) = some content ↔
      exists first second, left = some first ∧ right = some second ∧ combine first second = content := by
  cases left <;> cases right <;> simp [Bind.bind]

theorem content?_called {nonterminal : Nonterminal} (derivation : Derivation nonterminal)
    {content : nonterminal.Content} (found : derivation.content? surface? = some content) :
    derivation.called.content? callable? = some content := by
  induction derivation with
  | numeral text => exact found
  | call name given ih =>
    simp only [content?, Option.bind_eq_bind, Option.bind_eq_some_iff] at found
    obtain ⟨callable, named, operands, givenContent, applied⟩ := found
    simp [called, content?, callable?_callNameOf named, ih givenContent, applied]
  | group inner ih =>
    obtain ⟨tree, inside, rfl⟩ := Option.map_eq_some_iff.1 found
    simp [called, content?, ih inside]
  | bare base ih => exact ih found
  | raised base exponent ihBase ihExponent =>
    obtain ⟨first, second, firstContent, secondContent, rfl⟩ := both_eq_some.1 found
    simp [called, content?, ihBase firstContent, ihExponent secondContent]
  | unsigned operand ih => exact ih found
  | signed negative operand ih =>
    obtain ⟨tree, inside, rfl⟩ := Option.map_eq_some_iff.1 found
    simp [called, content?, ih inside]
  | chain tier first others ihFirst ihOthers =>
    obtain ⟨left, pairs, leftContent, othersContent, rfl⟩ := both_eq_some.1 found
    simp [called, content?, ihFirst leftContent, ihOthers othersContent]
  | noFurther tier => exact found
  | further tier operator member operand others ihOperand ihOthers =>
    obtain ⟨right, pairs, rightContent, othersContent, rfl⟩ := both_eq_some.1 found
    simp [called, content?, ihOperand rightContent, ihOthers othersContent]
  | noArguments => exact found
  | arguments first others ihFirst ihOthers =>
    obtain ⟨head, tail, headContent, tailContent, rfl⟩ := both_eq_some.1 found
    simp [called, content?, ihFirst headContent, ihOthers tailContent]
  | noFurtherArguments => exact found
  | furtherArguments first others ihFirst ihOthers =>
    obtain ⟨head, tail, headContent, tailContent, rfl⟩ := both_eq_some.1 found
    simp [called, content?, ihFirst headContent, ihOthers tailContent]

theorem named_yield {nonterminal : Nonterminal} (derivation : Derivation nonterminal)
    {named? : List Char -> Option Callable} {content : nonterminal.Content}
    (found : derivation.content? named? = some content) {name : List Char}
    (member : .name name ∈ derivation.yield) : exists callable, named? name = some callable := by
  induction derivation with
  | numeral text => simp [yield] at member
  | call other given ih =>
    simp only [content?, Option.bind_eq_bind, Option.bind_eq_some_iff] at found
    obtain ⟨callable, named, operands, givenContent, _⟩ := found
    simp only [yield, List.cons_append, List.mem_cons, Lexeme.name.injEq, reduceCtorEq, false_or,
      List.mem_append, List.not_mem_nil, or_false] at member
    rcases member with rfl | inGiven
    next => exact ⟨callable, named⟩
    next => exact ih givenContent inGiven
  | group inner ih =>
    obtain ⟨tree, inside, rfl⟩ := Option.map_eq_some_iff.1 found
    exact ih inside (by simpa [yield] using member)
  | bare base ih => exact ih found member
  | raised base exponent ihBase ihExponent =>
    obtain ⟨first, second, firstContent, secondContent, _⟩ := both_eq_some.1 found
    simp only [yield, List.mem_append, List.mem_cons, reduceCtorEq, false_or] at member
    exact member.elim (ihBase firstContent) (ihExponent secondContent)
  | unsigned operand ih => exact ih found member
  | signed negative operand ih =>
    obtain ⟨tree, inside, rfl⟩ := Option.map_eq_some_iff.1 found
    exact ih inside (by simpa [yield] using member)
  | chain tier first others ihFirst ihOthers =>
    obtain ⟨left, pairs, leftContent, othersContent, _⟩ := both_eq_some.1 found
    exact (List.mem_append.1 member).elim (ihFirst leftContent) (ihOthers othersContent)
  | noFurther tier => cases member
  | further tier operator operators operand others ihOperand ihOthers =>
    obtain ⟨right, pairs, rightContent, othersContent, _⟩ := both_eq_some.1 found
    simp only [yield, List.cons_append, List.mem_append, List.mem_cons, reduceCtorEq, false_or] at member
    exact member.elim (ihOperand rightContent) (ihOthers othersContent)
  | noArguments => cases member
  | arguments first others ihFirst ihOthers =>
    obtain ⟨head, tail, headContent, tailContent, _⟩ := both_eq_some.1 found
    exact (List.mem_append.1 member).elim (ihFirst headContent) (ihOthers tailContent)
  | noFurtherArguments => cases member
  | furtherArguments first others ihFirst ihOthers =>
    obtain ⟨head, tail, headContent, tailContent, _⟩ := both_eq_some.1 found
    simp only [yield, List.cons_append, List.mem_append, List.mem_cons, reduceCtorEq, false_or] at member
    exact member.elim (ihFirst headContent) (ihOthers tailContent)

end Derivation

end SpokenArithmetic.Grammar

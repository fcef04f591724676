import SpokenArithmetic.Calculation.Evaluate
import SpokenArithmetic.Proofs.Grammar.Reading
import SpokenArithmetic.Proofs.Rewriting.Rewritten

set_option autoImplicit false

/-!
Reading the tokens of a text and those of its call form. The two readings go side by side: they find
expressions of one value, or both fail after operands of which the same one is refused first.
-/

namespace SpokenArithmetic

namespace CallForm

open SpokenArithmetic.Parser Grammar

def Fresh (left right : List Token) : Prop :=
  Rewritten false (left.map Token.lexeme) (right.map Token.lexeme)

def Alike (left right : List Token) : Prop :=
  exists glued, Rewritten glued (left.map Token.lexeme) (right.map Token.lexeme)

theorem Fresh.alike {left right : List Token} (fresh : Fresh left right) : Alike left right :=
  ⟨false, fresh⟩

theorem Alike.nil {right : List Token} (alike : Alike [] right) : right = [] := by
  obtain ⟨_, rewritten⟩ := alike
  generalize same : right.map Token.lexeme = lexemes at rewritten
  cases rewritten
  exact List.map_eq_nil_iff.1 same

theorem Alike.of_nil {left : List Token} (alike : Alike left []) : left = [] := by
  obtain ⟨_, rewritten⟩ := alike
  generalize same : left.map Token.lexeme = lexemes at rewritten
  cases rewritten
  exact List.map_eq_nil_iff.1 same

theorem Alike.head_mark {left right : List Token} (alike : Alike left right) (mark : Mark) :
    (left.map Token.lexeme).head? = some (.mark mark) ↔
      (right.map Token.lexeme).head? = some (.mark mark) := by
  obtain ⟨_, rewritten⟩ := alike
  exact rewritten.head_mark mark

theorem Alike.mark {mark : Mark} {position : Nat} {left right : List Token}
    (alike : Alike (⟨.mark mark, position⟩ :: left) right) :
    exists position' rest, right = ⟨.mark mark, position'⟩ :: rest ∧ Fresh left rest := by
  obtain ⟨_, rewritten⟩ := alike
  generalize same : right.map Token.lexeme = lexemes at rewritten
  cases rewritten with
  | same _ rest =>
    obtain ⟨⟨_, position'⟩, others, rfl, rfl, rfl⟩ := List.map_eq_cons_iff.1 same
    exact ⟨position', others, rfl, rest⟩

theorem Fresh.cases {left right : List Token} (fresh : Fresh left right) :
    (left = [] ∧ right = []) ∨
      (exists lexeme position position' rest rest', left = ⟨lexeme, position⟩ :: rest ∧
        right = ⟨lexeme, position'⟩ :: rest' ∧
        Rewritten lexeme.isNumeral (rest.map Token.lexeme) (rest'.map Token.lexeme)) ∨
      exists base exponent front front' rest rest', left = front ++ rest ∧ right = front' ++ rest' ∧
        front.map Token.lexeme =
          [.numeral base, .mark (.operator .power), .numeral exponent] ∧
        front'.map Token.lexeme =
          [.name Callable.power.name.toList, .mark .opening, .numeral base, .mark .comma,
            .numeral exponent, .mark .closing] ∧
        (rest.map Token.lexeme).head? ≠ some (.mark (.operator .power)) ∧ Fresh rest rest' := by
  unfold Fresh at fresh
  generalize sameLeft : left.map Token.lexeme = lexemes at fresh
  generalize sameRight : right.map Token.lexeme = lexemes' at fresh
  cases fresh with
  | nil => exact .inl ⟨List.map_eq_nil_iff.1 sameLeft, List.map_eq_nil_iff.1 sameRight⟩
  | same lexeme rest =>
    obtain ⟨⟨_, position⟩, others, rfl, rfl, rfl⟩ := List.map_eq_cons_iff.1 sameLeft
    obtain ⟨⟨_, position'⟩, others', rfl, rfl, rfl⟩ := List.map_eq_cons_iff.1 sameRight
    exact .inr (.inl ⟨_, position, position', others, others', rfl, rfl, rest⟩)
  | @power _ base exponent lexemes lexemes' unchained rest =>
    obtain ⟨front, others, rfl, sameFront, rfl⟩ := List.map_eq_append_iff.1
      (show left.map Token.lexeme =
        [.numeral base, .mark (.operator .power), .numeral exponent] ++ lexemes from sameLeft)
    obtain ⟨front', others', rfl, sameFront', rfl⟩ := List.map_eq_append_iff.1
      (show right.map Token.lexeme =
        [.name Callable.power.name.toList, .mark .opening, .numeral base, .mark .comma,
          .numeral exponent, .mark .closing] ++ lexemes' from sameRight)
    exact .inr (.inr ⟨base, exponent, front, front', others, others', rfl, rfl, sameFront, sameFront',
      unchained, rest⟩)

variable {A R : Type} (meaning : Meaning A R)

def SameValue (left right : Expression) : Prop :=
  left.value meaning = right.value meaning

def SameValues (left right : List Expression) : Prop :=
  left.map (Expression.value meaning) = right.map (Expression.value meaning)

inductive Similar {B C : Type} (same : B -> C -> Prop) : Except Parser.Failure B -> Except Parser.Failure C -> Prop where
  | ok {left : B} {right : C} (related : same left right) : Similar same (.ok left) (.ok right)
  | error {left right : Parser.Failure}
    (related : Token.refusal? meaning left.complete = Token.refusal? meaning right.complete) :
    Similar same (.error left) (.error right)

def Continues {B : Type} (same : B -> B -> Prop) (left right : B × List Token) : Prop :=
  same left.1 right.1 ∧ Alike left.2 right.2

/-- A reader that goes side by side over tokens and their call form. -/
def Simulates {B : Type} (same : B -> B -> Prop) (reader : Reader B) : Prop :=
  forall {left right : List Token}, Fresh left right ->
    Similar meaning (Continues same) (reader left) (reader right)

def Shortens {B : Type} (reader : Reader B) : Prop :=
  forall {tokens rest : List Token} {result : B}, reader tokens = .ok (result, rest) ->
    rest.length <= tokens.length

section Steps

variable {meaning} {B C D E : Type}

theorem Similar.bind {same : B -> C -> Prop} {same' : D -> E -> Prop} {left : Except Parser.Failure B}
    {right : Except Parser.Failure C} {next : B -> Except Parser.Failure D} {next' : C -> Except Parser.Failure E}
    (similar : Similar meaning same left right)
    (step : forall first second, left = .ok first -> right = .ok second -> same first second ->
      Similar meaning same' (next first) (next' second)) :
    Similar meaning same' (left >>= next) (right >>= next') := by
  cases similar with
  | ok related => exact step _ _ rfl rfl related
  | error related => exact .error related

theorem refusal?_cons {operand operand' : Expression} {rest rest' : List Expression}
    (first : SameValue meaning operand operand')
    (others : Token.refusal? meaning rest = Token.refusal? meaning rest') :
    Token.refusal? meaning (operand :: rest) = Token.refusal? meaning (operand' :: rest') := by
  unfold SameValue at first
  simp only [Token.refusal?, first, others]

theorem Similar.following {same : B -> C -> Prop} {operand operand' : Expression}
    {left : Except Parser.Failure B} {right : Except Parser.Failure C} (first : SameValue meaning operand operand')
    (similar : Similar meaning same left right) :
    Similar meaning same (Parser.following operand left) (Parser.following operand' right) := by
  cases similar with
  | ok related => exact .ok related
  | error related => exact .error (refusal?_cons first related)

theorem Similar.foldr_following {same : B -> C -> Prop} {operands operands' : List Expression}
    {left : Except Parser.Failure B} {right : Except Parser.Failure C}
    (first : SameValues meaning operands operands') (similar : Similar meaning same left right) :
    Similar meaning same (operands.foldr Parser.following left)
      (operands'.foldr Parser.following right) := by
  induction operands generalizing operands' with
  | nil =>
    obtain rfl := List.map_eq_nil_iff.1 first.symm
    exact similar
  | cons operand rest ih =>
    obtain ⟨operand', rest', rfl, head, tail⟩ := List.map_eq_cons_iff.1 first.symm
    exact (ih tail.symm).following head.symm

theorem similar_fail {same : B -> C -> Prop} (fault fault' : SyntaxFault) :
    Similar meaning same (Parser.fail fault) (Parser.fail fault') :=
  .error rfl

theorem expect_similar {mark : Mark} {fault : Option Nat -> SyntaxFault} {left right : List Token}
    (alike : Alike left right) :
    Similar meaning Fresh (expect mark fault left) (expect mark fault right) := by
  by_cases head : (left.map Token.lexeme).head? = some (.mark mark)
  next =>
    match left with
    | ⟨lexeme, position⟩ :: left =>
      obtain rfl : lexeme = .mark mark := by simpa using head
      obtain ⟨position', rest, rfl, fresh⟩ := alike.mark
      rw [expect_eq_ok.2 ⟨position, rfl⟩, expect_eq_ok.2 ⟨position', rfl⟩]
      exact .ok fresh
  next =>
    have fails {tokens : List Token} (other : (tokens.map Token.lexeme).head? ≠ some (.mark mark)) :
        exists fault', expect mark fault tokens = Parser.fail fault' := by
      cases tokens with
      | nil => exact ⟨_, rfl⟩
      | cons token rest => exact ⟨_, if_neg (by simpa using other)⟩
    obtain ⟨fault₁, same₁⟩ := fails head
    obtain ⟨fault₂, same₂⟩ := fails (fun head' => head ((alike.head_mark mark).2 head'))
    rw [same₁, same₂]
    exact similar_fail fault₁ fault₂

theorem operator?_similar (among : List Operator) {left right : List Token} (alike : Alike left right) :
    (operator? among left = none ∧ operator? among right = none) ∨
      exists operator rest rest', operator? among left = some (operator, rest) ∧
        operator? among right = some (operator, rest') ∧ Fresh rest rest' := by
  cases found : operator? among left with
  | some pair =>
    obtain ⟨operator, rest⟩ := pair
    obtain ⟨member, position, rfl⟩ := operator?_eq_some.1 found
    obtain ⟨position', rest', rfl, fresh⟩ := alike.mark
    exact .inr ⟨operator, rest, rest', rfl, operator?_eq_some.2 ⟨member, position', rfl⟩, fresh⟩
  | none =>
    refine .inl ⟨rfl, operator?_eq_none fun operator member head => ?_⟩
    have headLeft := (alike.head_mark (.operator operator)).2 head
    match left with
    | ⟨lexeme, position⟩ :: left =>
      obtain rfl : lexeme = .mark (.operator operator) := by simpa using headLeft
      rw [operator?_eq_some.2 ⟨member, position, rfl⟩] at found
      cases found

end Steps

section Readers

variable {meaning}

theorem SameValue.binary {operator operator' : Operator} {left left' right right' : Expression}
    (same : operator = operator') (first : SameValue meaning left left')
    (second : SameValue meaning right right') :
    SameValue meaning (.binary operator left right) (.binary operator' left' right') := by
  unfold SameValue at *
  subst same
  simp only [Expression.value, first, second]

theorem chainFrom_similar {among : List Operator} {operand : Reader Expression}
    (simulates : Simulates meaning (SameValue meaning) operand) (shortens : Shortens operand)
    {rounds rounds' : Nat} {first first' : Expression} {left right : List Token}
    (same : SameValue meaning first first') (alike : Alike left right)
    (enough : left.length <= rounds) (enough' : right.length <= rounds') :
    Similar meaning (Continues (SameValue meaning)) (chainFrom among operand rounds first left)
      (chainFrom among operand rounds' first' right) := by
  -- The two sides may have different rounds left; both are enough for their own tokens.
  induction rounds generalizing rounds' first first' left right with
  | zero =>
    obtain rfl := List.eq_nil_of_length_eq_zero (Nat.le_zero.1 enough)
    obtain rfl := alike.nil
    cases rounds' <;> exact .ok ⟨same, alike⟩
  | succ rounds ih =>
    rcases operator?_similar among alike with ⟨none, none'⟩ |
      ⟨operator, rest, rest', found, found', fresh⟩
    next =>
      cases rounds' with
      | zero =>
        simp only [chainFrom, none]
        exact .ok ⟨same, alike⟩
      | succ rounds' =>
        simp only [chainFrom, none, none']
        exact .ok ⟨same, alike⟩
    next =>
      obtain ⟨_, _, rfl⟩ := operator?_eq_some.1 found
      obtain ⟨_, _, rfl⟩ := operator?_eq_some.1 found'
      simp only [List.length_cons] at enough enough'
      cases rounds' with
      | zero => omega
      | succ rounds' =>
        simp only [chainFrom, found, found']
        refine ((simulates fresh).following same).bind fun second second' read read' related => ?_
        have fewer := shortens (following_eq_ok.1 read)
        have fewer' := shortens (following_eq_ok.1 read')
        exact ih (.binary rfl same related.1) related.2 (by omega) (by omega)

theorem chain_similar {among : List Operator} {operand : Reader Expression}
    (simulates : Simulates meaning (SameValue meaning) operand) (shortens : Shortens operand) :
    Simulates meaning (SameValue meaning) (Parser.chain among operand) := by
  intro left right fresh
  refine (simulates fresh).bind fun first first' _ _ related => ?_
  exact chainFrom_similar simulates shortens related.1 related.2 (Nat.le_refl _) (Nat.le_refl _)

theorem SameValues.cons {first first' : Expression} {rest rest' : List Expression}
    (same : SameValue meaning first first') (others : SameValues meaning rest rest') :
    SameValues meaning (first :: rest) (first' :: rest') := by
  unfold SameValue at same
  unfold SameValues at *
  simp only [List.map_cons, same, others]

theorem argumentsFrom_other {argument : Reader Expression} {rounds : Nat} {tokens : List Token}
    (other : (tokens.map Token.lexeme).head? ≠ some (.mark .comma)) :
    argumentsFrom argument rounds tokens = .ok ([], tokens) := by
  cases rounds with
  | zero => rfl
  | succ rounds =>
    unfold argumentsFrom
    split
    next => exact absurd rfl other
    next => rfl

theorem argumentsFrom_similar {argument : Reader Expression}
    (simulates : Simulates meaning (SameValue meaning) argument) (shortens : Shortens argument)
    {rounds rounds' : Nat} {left right : List Token} (alike : Alike left right)
    (enough : left.length <= rounds) (enough' : right.length <= rounds') :
    Similar meaning (Continues (SameValues meaning)) (argumentsFrom argument rounds left)
      (argumentsFrom argument rounds' right) := by
  induction rounds generalizing rounds' left right with
  | zero =>
    obtain rfl := List.eq_nil_of_length_eq_zero (Nat.le_zero.1 enough)
    obtain rfl := alike.nil
    cases rounds' <;> exact .ok ⟨rfl, alike⟩
  | succ rounds ih =>
    by_cases head : (left.map Token.lexeme).head? = some (.mark .comma)
    next =>
      match left with
      | ⟨lexeme, position⟩ :: left =>
        obtain rfl : lexeme = .mark .comma := by simpa using head
        obtain ⟨position', rest, rfl, fresh⟩ := alike.mark
        simp only [List.length_cons] at enough enough'
        cases rounds' with
        | zero => omega
        | succ rounds' =>
          simp only [argumentsFrom]
          refine (simulates fresh).bind fun first first' read read' related => ?_
          have fewer := shortens read
          have fewer' := shortens read'
          have others : Similar meaning (Continues (SameValues meaning))
              (argumentsFrom argument rounds first.2) (argumentsFrom argument rounds' first'.2) :=
            ih related.2 (by omega) (by omega)
          refine (others.following related.1).bind fun tail tail' _ _ tails => ?_
          exact .ok ⟨.cons related.1 tails.1, tails.2⟩
    next =>
      rw [argumentsFrom_other head, argumentsFrom_other fun head' => head ((alike.head_mark .comma).2 head')]
      exact .ok ⟨rfl, alike⟩

theorem arguments_other {argument : Reader Expression} {tokens : List Token}
    (other : (tokens.map Token.lexeme).head? ≠ some (.mark .closing)) :
    arguments argument tokens = (do
      let (first, rest) <- argument tokens
      let (others, rest) <- following first (argumentsFrom argument rest.length rest)
      return (first :: others, rest)) := by
  unfold arguments
  split
  next => exact absurd rfl other
  next => rfl

theorem arguments_similar {argument : Reader Expression}
    (simulates : Simulates meaning (SameValue meaning) argument) (shortens : Shortens argument) :
    Simulates meaning (SameValues meaning) (arguments argument) := by
  intro left right fresh
  by_cases head : (left.map Token.lexeme).head? = some (.mark .closing)
  next =>
    match left with
    | ⟨lexeme, position⟩ :: left =>
      obtain rfl : lexeme = .mark .closing := by simpa using head
      obtain ⟨position', rest, rfl, others⟩ := fresh.alike.mark
      exact .ok ⟨rfl, fresh.alike⟩
  next =>
    rw [arguments_other head, arguments_other fun head' => head ((fresh.alike.head_mark .closing).2 head')]
    refine (simulates fresh).bind fun first first' _ _ related => ?_
    have others := argumentsFrom_similar simulates shortens related.2 (Nat.le_refl _) (Nat.le_refl _)
    refine (others.following related.1).bind fun tail tail' _ _ tails => ?_
    exact .ok ⟨.cons related.1 tails.1, tails.2⟩

theorem refusal?_of_sameValues {operands operands' : List Expression}
    (same : SameValues meaning operands operands') :
    Token.refusal? meaning operands = Token.refusal? meaning operands' := by
  induction operands generalizing operands' with
  | nil =>
    obtain rfl := List.map_eq_nil_iff.1 same.symm
    rfl
  | cons operand rest ih =>
    obtain ⟨operand', rest', rfl, head, tail⟩ := List.map_eq_cons_iff.1 same.symm
    exact refusal?_cons head.symm (ih tail.symm)

theorem makeCall_similar (callable : Callable) (position position' : Nat)
    {operands operands' : List Expression} (same : SameValues meaning operands operands') :
    Similar meaning (SameValue meaning) (makeCall callable position operands)
      (makeCall callable position' operands') := by
  have refused := refusal?_of_sameValues same
  cases operands with
  | nil =>
    obtain rfl := List.map_eq_nil_iff.1 same.symm
    exact .error refused
  | cons first rest =>
    obtain ⟨first', rest', rfl, head, tail⟩ := List.map_eq_cons_iff.1 same.symm
    cases rest with
    | nil =>
      obtain rfl := List.map_eq_nil_iff.1 tail
      cases callable with
      | power => exact .error refused
      | apply function => exact .ok (by simp [SameValue, Expression.value, head])
    | cons second rest =>
      obtain ⟨second', rest', rfl, next, tail⟩ := List.map_eq_cons_iff.1 tail
      cases rest with
      | nil =>
        obtain rfl := List.map_eq_nil_iff.1 tail
        cases callable with
        | power => exact .ok (by simp [SameValue, Expression.value, head, next])
        | apply function => exact .error refused
      | cons third rest =>
        obtain ⟨third', rest', rfl, _, _⟩ := List.map_eq_cons_iff.1 tail
        cases callable <;> exact .error refused

def SimulatesDeeper (meaning : Meaning A R) (deeper : Option Deeper) : Prop :=
  forall readers, deeper = some readers ->
    Simulates meaning (SameValue meaning) readers.sum ∧ Shortens readers.sum ∧
      Simulates meaning (SameValue meaning) readers.signed

section Forms

variable {deeper : Option Deeper}

theorem enter_similar (simulates : SimulatesDeeper meaning deeper) :
    Similar meaning (fun left right => left = right ∧ Simulates meaning (SameValue meaning) left.sum ∧
      Shortens left.sum ∧ Simulates meaning (SameValue meaning) left.signed)
      (enter deeper) (enter deeper) := by
  cases deeper with
  | none => exact similar_fail _ _
  | some readers => exact .ok ⟨rfl, simulates readers rfl⟩

theorem call_similar (simulates : SimulatesDeeper meaning deeper) (name : List Char)
    (position position' : Nat) {left right : List Token} (alike : Alike left right) :
    Similar meaning (Continues (SameValue meaning)) (Parser.call deeper name position left)
      (Parser.call deeper name position' right) := by
  unfold Parser.call
  split
  next => split <;> exact similar_fail _ _
  next callable _ =>
    refine (expect_similar alike).bind fun rest rest' _ _ fresh => ?_
    refine (enter_similar simulates).bind fun readers readers' _ _ deeper => ?_
    obtain ⟨rfl, sum, shortens, _⟩ := deeper
    refine (arguments_similar sum shortens fresh).bind fun given given' _ _ related => ?_
    refine ((expect_similar related.2).foldr_following related.1).bind fun behind behind' _ _ closed => ?_
    refine (makeCall_similar callable position position' related.1).bind fun tree tree' _ _ same => ?_
    exact .ok ⟨same, closed.alike⟩

theorem primary_similar (simulates : SimulatesDeeper meaning deeper) {lexeme : Lexeme}
    {position position' : Nat} {left right : List Token}
    (rest : Rewritten lexeme.isNumeral (left.map Token.lexeme) (right.map Token.lexeme)) :
    Similar meaning (Continues (SameValue meaning))
      (Parser.primary deeper (⟨lexeme, position⟩ :: left))
      (Parser.primary deeper (⟨lexeme, position'⟩ :: right)) := by
  cases lexeme with
  | numeral text => exact .ok ⟨rfl, _, rest⟩
  | name text => exact call_similar simulates text position position' ⟨_, rest⟩
  | mark mark =>
    by_cases opening : mark = .opening
    next =>
      subst opening
      refine (enter_similar simulates).bind fun readers readers' _ _ deeper => ?_
      obtain ⟨rfl, sum, _, _⟩ := deeper
      refine (sum rest).bind fun inner inner' _ _ related => ?_
      refine ((expect_similar related.2).following related.1).bind fun behind behind' _ _ closed => ?_
      exact .ok ⟨related.1, closed.alike⟩
    next =>
      have fails (position : Nat) (tokens : List Token) : exists fault,
          Parser.primary deeper (⟨.mark mark, position⟩ :: tokens) = Parser.fail fault := by
        cases mark with
        | opening => exact absurd rfl opening
        | _ => exact ⟨_, rfl⟩
      obtain ⟨fault, same⟩ := fails position left
      obtain ⟨fault', same'⟩ := fails position' right
      rw [same, same']
      exact similar_fail fault fault'

theorem shortens_of_reads {levels : Nat} {form : Form} {reader : Reader Expression}
    (reads : Reads levels form reader) : Shortens reader := by
  intro tokens rest tree read
  obtain ⟨front, _, rfl, _⟩ := reads.sound read
  simp

def numeralSum (text : List Char) : Derivation (.form .sum) :=
  .chain .sum (.chain .product (.unsigned (.bare (.numeral text))) (.noFurther .product))
    (.noFurther .sum)

theorem power_call_similar {levels : Nat} (reads : ReadsDeeper levels deeper) {base exponent : List Char}
    {front front' left right : List Token}
    (isPower : front.map Token.lexeme =
      [.numeral base, .mark (.operator .power), .numeral exponent])
    (isCall : front'.map Token.lexeme =
      [.name Callable.power.name.toList, .mark .opening, .numeral base, .mark .comma,
        .numeral exponent, .mark .closing])
    (unchained : (left.map Token.lexeme).head? ≠ some (.mark (.operator .power)))
    (fresh : Fresh left right) :
    Similar meaning (Continues (SameValue meaning)) (Parser.power deeper (front ++ left))
      (Parser.power deeper (front' ++ right)) := by
  cases levels with
  | zero =>
    -- With no level left neither the exponent nor the argument list is entered.
    obtain rfl : deeper = none := reads
    simp only [List.map_eq_cons_iff, List.map_eq_nil_iff] at isPower isCall
    obtain ⟨⟨_, _⟩, _, rfl, rfl, ⟨_, _⟩, _, rfl, rfl, _, _, rfl, _, rfl⟩ := isPower
    obtain ⟨⟨_, _⟩, _, rfl, rfl, ⟨_, _⟩, _, rfl, rfl, _⟩ := isCall
    have named : Callable.ofName? (String.ofList Callable.power.name.toList) = some .power := by decide
    simp only [Parser.power, Parser.primary, Parser.call, named, List.cons_append, expect, if_true]
    exact .error rfl
  | succ levels =>
    -- With a level left both are derivations that are complete, so completeness of reading decides.
    have powerDerives : Derives (levels + 1)
        (.raised (.numeral base) (.unsigned (.bare (.numeral exponent)))) front
        (.binary .power (.numeral base) (.numeral exponent)) :=
      ⟨isPower.symm, by simp [Derivation.depth], rfl⟩
    have callDerives : Derives (levels + 1)
        (.bare (.call Callable.power.name.toList
          (.arguments (numeralSum base) (.furtherArguments (numeralSum exponent) .noFurtherArguments))))
        front' (.raise (.numeral base) (.numeral exponent)) :=
      ⟨isCall.symm, by simp [Derivation.depth, numeralSum], rfl⟩
    have stops {tokens : List Token}
        (unchained : (tokens.map Token.lexeme).head? ≠ some (.mark (.operator .power))) :
        Form.power.Stops (tokens.map Token.lexeme) := by
      intro operator continuing
      obtain rfl := List.mem_singleton.1 continuing
      exact unchained
    have unchained' : (right.map Token.lexeme).head? ≠ some (.mark (.operator .power)) :=
      fun head => unchained ((fresh.alike.head_mark (.operator .power)).2 head)
    rw [(power_reads reads).complete powerDerives (stops unchained),
      (power_reads reads).complete callDerives (stops unchained')]
    exact .ok ⟨rfl, fresh.alike⟩

theorem power_similar {levels : Nat} (reads : ReadsDeeper levels deeper)
    (simulates : SimulatesDeeper meaning deeper) :
    Simulates meaning (SameValue meaning) (Parser.power deeper) := by
  intro left right fresh
  rcases fresh.cases with ⟨rfl, rfl⟩ | ⟨lexeme, position, position', rest, rest', rfl, rfl, rewritten⟩ |
    ⟨base, exponent, front, front', rest, rest', rfl, rfl, isPower, isCall, unchained, others⟩
  next => exact similar_fail _ _
  next =>
    refine (primary_similar simulates rewritten).bind fun base base' _ _ related => ?_
    rcases operator?_similar [.power] related.2 with ⟨none, none'⟩ |
      ⟨operator, behind, behind', found, found', others⟩
    next =>
      simp only [none, none']
      exact .ok related
    next =>
      simp only [found, found']
      refine ((enter_similar simulates).following related.1).bind fun readers readers' _ _ deeper => ?_
      obtain ⟨rfl, _, _, signed⟩ := deeper
      refine ((signed others).following related.1).bind fun exponent exponent' _ _ power => ?_
      exact .ok ⟨.binary rfl related.1 power.1, power.2⟩
  next => exact power_call_similar reads isPower isCall unchained others

theorem signed_similar {levels : Nat} (reads : ReadsDeeper levels deeper)
    (simulates : SimulatesDeeper meaning deeper) :
    Simulates meaning (SameValue meaning) (Parser.signed deeper) := by
  intro left right fresh
  unfold Parser.signed
  rcases operator?_similar [.add, .subtract] fresh.alike with ⟨none, none'⟩ |
    ⟨operator, rest, rest', found, found', others⟩
  next =>
    simp only [none, none']
    exact power_similar reads simulates fresh
  next =>
    simp only [found, found']
    refine (enter_similar simulates).bind fun readers readers' _ _ deeper => ?_
    obtain ⟨rfl, _, _, signed⟩ := deeper
    refine (signed others).bind fun operand operand' _ _ related => ?_
    exact .ok ⟨by simp only [SameValue, Expression.value]; rw [related.1], related.2⟩

theorem sum_similar {levels : Nat} (reads : ReadsDeeper levels deeper)
    (simulates : SimulatesDeeper meaning deeper) :
    Simulates meaning (SameValue meaning) (Parser.sum deeper) :=
  chain_similar (chain_similar (signed_similar reads simulates) (shortens_of_reads (signed_reads reads)))
    (shortens_of_reads (product_reads reads))

end Forms

theorem below_similar (meaning : Meaning A R) (levels : Nat) : SimulatesDeeper meaning (below levels) := by
  -- As for the reading itself, the levels carry the induction.
  induction levels with
  | zero =>
    intro readers none
    cases none
  | succ levels ih =>
    intro readers same
    obtain rfl := Option.some.inj same.symm
    have reads := below_reads levels
    exact ⟨sum_similar reads ih, shortens_of_reads (sum_reads reads), signed_similar reads ih⟩

end Readers

theorem parse_similar {left right : List Token} (fresh : Fresh left right) :
    Similar meaning (SameValue meaning) (Parser.parse left) (Parser.parse right) := by
  have sum : Simulates meaning (SameValue meaning) (Parser.sum (below maxDepth)) :=
    sum_similar (below_reads maxDepth) (below_similar meaning maxDepth)
  refine (sum fresh).bind fun tree tree' _ _ related => ?_
  obtain ⟨tree, rest⟩ := tree
  obtain ⟨tree', rest'⟩ := tree'
  obtain ⟨same, alike⟩ := related
  -- Either both sides are used up, or both have tokens left and fail.
  cases rest with
  | nil =>
    obtain rfl := alike.nil
    exact .ok same
  | cons token rest =>
    cases rest' with
    | nil => exact absurd alike.of_nil (by simp)
    | cons token' rest' => exact .error (refusal?_cons same rfl)

variable {meaning}

def outcome (result : Except (Failure R) A) : Except Category A :=
  result.mapError Failure.category

theorem value_outcome {left right : List Token} (fresh : Fresh left right) :
    outcome (Token.value meaning left) = outcome (Token.value meaning right) := by
  have similar := parse_similar meaning fresh
  unfold Token.value
  cases left with
  | nil =>
    obtain rfl := fresh.alike.nil
    rfl
  | cons token rest =>
    cases right with
    | nil => exact absurd fresh.alike.of_nil (by simp)
    | cons token' rest' =>
      simp only [List.isEmpty_cons, Bool.false_eq_true, if_false]
      generalize Parser.parse (token :: rest) = first at similar
      generalize Parser.parse (token' :: rest') = second at similar
      cases similar with
      | ok related =>
        unfold SameValue at related
        simp only [related]
      | @error left right related =>
        simp only [related]
        cases Token.refusal? meaning right.complete <;> rfl

end CallForm

end SpokenArithmetic

import SpokenArithmetic.Proofs.Grammar.Value
import SpokenArithmetic.Proofs.Rewriting.Enclosed
import SpokenArithmetic.Proofs.Rewriting.Transparent

set_option autoImplicit false

namespace SpokenArithmetic

open Arithmetic CallForm Evaluation Grammar Text Token

namespace Grammar.Derivation

def alone (primary : Derivation (.form .primary)) : Derivation (.form .sum) :=
  chain .sum (chain .product (unsigned (bare primary)) (noFurther .product)) (noFurther .sum)

def callOf (function : Function) (argument : Derivation (.form .sum)) : Derivation (.form .primary) :=
  call function.callName.toList (arguments argument noFurtherArguments)

def operation (operator : Operator) (left right : Derivation (.form .primary)) : Derivation (.form .sum) :=
  if member : operator ∈ Tier.sum.operators then
    chain .sum (chain .product (unsigned (bare left)) (noFurther .product))
      (further .sum operator member (chain .product (unsigned (bare right)) (noFurther .product))
        (noFurther .sum))
  else if member : operator ∈ Tier.product.operators then
    chain .sum (chain .product (unsigned (bare left))
        (further .product operator member (unsigned (bare right)) (noFurther .product)))
      (noFurther .sum)
  else
    chain .sum (chain .product (unsigned (raised left (unsigned (bare right)))) (noFurther .product))
      (noFurther .sum)

section

variable {primary left right : Derivation (.form .primary)} {operator : Operator}

@[simp] theorem yield_alone : primary.alone.yield = primary.yield := by
  simp [alone]

@[simp] theorem depth_alone : primary.alone.depth = primary.depth := by
  simp [alone]

@[simp] theorem content?_alone : primary.alone.content? callable? = primary.content? callable? := by
  cases content : primary.content? callable? <;> simp [alone, content?, content, foldChain]

theorem content?_group {inner : Derivation (.form .sum)} {tree : Expression}
    (content : inner.content? callable? = some tree) :
    (group inner).content? callable? = some (.group tree) := by
  simp [content?, content]

theorem content?_callOf {argument : Derivation (.form .sum)} {tree : Expression} (function : Function)
    (content : argument.content? callable? = some tree) :
    (callOf function argument).content? callable? = some (.apply function tree) := by
  have named : callable? function.callName.toList = some (.apply function) := by
    cases function <;> decide
  simp [callOf, content?, content, named, applied?]

@[simp] theorem yield_operation :
    (operation operator left right).yield = left.yield ++ .mark (.operator operator) :: right.yield := by
  cases operator <;> simp [operation, Tier.operators]

theorem depth_operation :
    (operation operator left right).depth =
      max left.depth (right.depth + if operator = .power then 1 else 0) := by
  cases operator <;> simp [operation, Tier.operators]

theorem content?_operation {first second : Expression} (leftContent : left.content? callable? = some first)
    (rightContent : right.content? callable? = some second) :
    (operation operator left right).content? callable? = some (.binary operator first second) := by
  cases operator <;>
    simp [operation, Tier.operators, content?, leftContent, rightContent, foldChain]

end

end Grammar.Derivation

namespace Evaluation

def ReadsAs (levels : Nat) (text : List Char) (tree : Expression) : Prop :=
  exists tokens, exists derivation : Derivation (.form .sum),
    Token.scan (callForm text) = .ok tokens ∧ Derives levels derivation tokens tree

def Evaluates (library : Elementary) (levels : Nat) (text : List Char) (result : Float) : Prop :=
  exists tree, ReadsAs levels text tree ∧ tree.value (meaning library) = .ok result

theorem readsAs_iff {levels : Nat} {text : List Char} {tree : Expression} :
    ReadsAs levels text tree ↔ exists derivation : Derivation (.form .sum),
      lexes (callForm text) = some derivation.yield ∧ derivation.depth <= levels ∧
        derivation.content? callable? = some tree := by
  have lexed := lexemes?_scan (allowed_callForm text)
  constructor
  next =>
    rintro ⟨tokens, derivation, scanned, derives⟩
    rw [scanned] at lexed
    exact ⟨derivation, by rw [← lexed, derives.yield]; rfl, derives.depth, derives.content⟩
  next =>
    rintro ⟨derivation, same, shallow, content⟩
    rw [same] at lexed
    cases scanned : Token.scan (callForm text) with
    | error stray =>
      rw [scanned] at lexed
      cases lexed
    | ok tokens =>
      rw [scanned] at lexed
      exact ⟨tokens, derivation, scanned, (Option.some.inj lexed).symm, shallow, content⟩

section

variable {library : Elementary} {levels levels' : Nat} {text first second : List Char}
variable {tree firstTree secondTree : Expression}

theorem ReadsAs.unrounded (reads : ReadsAs levels text tree) (shallow : levels <= Parser.maxDepth) :
    unroundedWith library (callForm text) = (tree.value (meaning library)).mapError .refused := by
  obtain ⟨tokens, derivation, scanned, derives⟩ := reads
  have parsed : Parser.parse tokens = .ok tree :=
    parse_eq_ok_iff.2 ⟨derivation, derives.yield, Nat.le_trans derives.depth shallow, derives.content⟩
  rw [unroundedWith, scanned]
  exact value_of_parse (meaning library) parsed

theorem evaluates_iff {result : Float} :
    Evaluates library Parser.maxDepth text result ↔ unroundedWith library (callForm text) = .ok result := by
  constructor
  next =>
    rintro ⟨tree, reads, value⟩
    rw [reads.unrounded (Nat.le_refl _), value]
    rfl
  next =>
    intro evaluated
    unfold unroundedWith at evaluated
    split at evaluated
    next => cases evaluated
    next tokens scanned =>
      obtain ⟨tree, parsed, value⟩ := (value_eq_ok_iff _).1 evaluated
      obtain ⟨derivation, derives⟩ := parse_eq_ok_iff.1 parsed
      exact ⟨tree, ⟨tokens, derivation, scanned, derives⟩, value⟩

theorem ReadsAs.group (reads : ReadsAs levels text tree) :
    ReadsAs (levels + 1) (enclosed text) (.group tree) := by
  obtain ⟨derivation, lexed, shallow, content⟩ := readsAs_iff.1 reads
  have around := lexes_enclosed (callForm text) []
  refine readsAs_iff.2 ⟨(Derivation.group derivation).alone, ?_, ?_, ?_⟩
  next => simpa [callForm_enclosed, lexed] using around
  next => simpa using shallow
  next => rw [Derivation.content?_alone, Derivation.content?_group content]

theorem ReadsAs.apply (reads : ReadsAs levels text tree) (function : Function) :
    ReadsAs (levels + 1) (function.name.toList ++ enclosed text) (.apply function tree) := by
  obtain ⟨derivation, lexed, shallow, content⟩ := readsAs_iff.1 reads
  have name := lexes_lexeme (@fits_name function (enclosed (callForm text)) rfl).2
  have around := lexes_enclosed (callForm text) []
  rw [List.append_nil] at around
  refine readsAs_iff.2 ⟨(Derivation.callOf function derivation).alone, ?_, ?_, ?_⟩
  next =>
    rw [callForm_named]
    refine name.trans ?_
    simp [around, lexed, Derivation.callOf]
  next => simpa [Derivation.callOf] using shallow
  next => rw [Derivation.content?_alone, Derivation.content?_callOf function content]

theorem ReadsAs.binary (left : ReadsAs levels first firstTree) (right : ReadsAs levels' second secondTree)
    (operator : Operator) :
    ReadsAs (max levels (levels' + if operator = .power then 1 else 0) + 1)
      (enclosed first ++ operator.symbol :: enclosed second)
      (.binary operator (.group firstTree) (.group secondTree)) := by
  obtain ⟨one, firstLexed, firstShallow, firstContent⟩ := readsAs_iff.1 left
  obtain ⟨other, secondLexed, secondShallow, secondContent⟩ := readsAs_iff.1 right
  have between := @lexes_lexeme (.mark (.operator operator)) (enclosed (callForm second)) .mark
  have behind := lexes_enclosed (callForm second) []
  simp only [Lexeme.text, Mark.char, List.cons_append, List.nil_append, List.append_nil] at between behind
  refine readsAs_iff.2 ⟨.operation operator (.group one) (.group other), ?_, ?_, ?_⟩
  next =>
    rw [callForm_operation, lexes_enclosed, between, behind, firstLexed, secondLexed]
    simp
  next =>
    rw [Derivation.depth_operation]
    simp only [Derivation.depth]
    omega
  next =>
    have leftContent := Derivation.content?_group firstContent
    have rightContent := Derivation.content?_group secondContent
    exact Derivation.content?_operation leftContent rightContent

end

/-- Evaluation is compositional. The value of a text whose nesting leaves one level is its value in
parentheses too, the function's value or refusal for it behind the name of a function, and an operand
of the operation between two such texts, where the right side of a power leaves two levels. -/
theorem unroundedWith_compositional (library : Elementary) {first : List Char} {x : Float}
    (evaluates : Evaluates library 99 first x) :
    unroundedWith library (callForm (enclosed first)) = .ok x ∧
    (forall function, function ≠ .fact ∨ refuseFactorial? x = none ->
      unroundedWith library (callForm (function.name.toList ++ enclosed first)) =
        .ok (apply library function x)) ∧
    (forall reason, refuseFactorial? x = some reason ->
      unroundedWith library (callForm (Function.fact.name.toList ++ enclosed first)) =
        .error (.refused reason)) ∧
    forall (operator : Operator) (second : List Char) (y : Float),
      Evaluates library (if operator = .power then 98 else 99) second y ->
        unroundedWith library (callForm (enclosed first ++ operator.symbol :: enclosed second)) =
          .ok (operate library operator x y) := by
  obtain ⟨tree, reads, value⟩ := evaluates
  have called (function : Function) :
      unroundedWith library (callForm (function.name.toList ++ enclosed first)) =
        ((meaning library).call function x).mapError .refused := by
    rw [(reads.apply function).unrounded (Nat.le_refl _), Expression.value, value]
    rfl
  refine ⟨?_, fun function accepted => ?_, fun reason refused => ?_, fun operator second y right => ?_⟩
  next => exact evaluates_iff.1 ⟨_, reads.group, value⟩
  next =>
    have none : (if function = .fact then refuseFactorial? x else none) = none := by
      rcases accepted with other | accepted
      next => rw [if_neg other]
      next => rw [accepted, ite_self]
    rw [called, Meaning.call]
    simp only [meaning, none]
    rfl
  next =>
    rw [called, Meaning.call]
    simp only [meaning, refused, if_true]
    rfl
  next =>
    obtain ⟨other, otherReads, otherValue⟩ := right
    have shallow : max 99 ((if operator = .power then 98 else 99) + if operator = .power then 1 else 0) + 1 <=
        Parser.maxDepth := by
      cases operator <;> decide
    rw [(reads.binary otherReads operator).unrounded shallow]
    simp only [Expression.value, value, otherValue]
    rfl

theorem unroundedWith_compositional_cube :
    exists x y, Evaluates elementary 99 " 2^3 ".toList x ∧ Evaluates elementary 98 "sqrt (4)$".toList y ∧
      unroundedWith elementary (callForm "( 2^3 )^(sqrt (4)$)".toList) = .ok (power elementary x y) := by
  have reads : ReadsAs 99 " 2^3 ".toList (.raise (.numeral ['2']) (.numeral ['3'])) :=
    readsAs_iff.2 ⟨(Derivation.call Callable.power.name.toList
      (.arguments (Derivation.numeral ['2']).alone
        (.furtherArguments (Derivation.numeral ['3']).alone .noFurtherArguments))).alone,
      by decide +kernel, by decide, by decide⟩
  have other : ReadsAs 98 "sqrt (4)$".toList (.apply .sqrt (.numeral ['4'])) :=
    readsAs_iff.2 ⟨(Derivation.callOf .sqrt (Derivation.numeral ['4']).alone).alone,
      by decide +kernel, by decide, by decide⟩
  have evaluates : exists x, Evaluates elementary 99 " 2^3 ".toList x := ⟨_, _, reads, rfl⟩
  have otherEvaluates : exists y, Evaluates elementary 98 "sqrt (4)$".toList y := ⟨_, _, other, rfl⟩
  obtain ⟨x, evaluates⟩ := evaluates
  obtain ⟨y, otherEvaluates⟩ := otherEvaluates
  have composed := (unroundedWith_compositional elementary evaluates).2.2.2 .power _ y otherEvaluates
  exact ⟨x, y, evaluates, otherEvaluates, composed⟩

end Evaluation

end SpokenArithmetic

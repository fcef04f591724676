import SpokenArithmetic.Expression.Operation

set_option autoImplicit false

namespace SpokenArithmetic

inductive Expression where
  | numeral (text : List Char)
  | signed (negative : Bool) (operand : Expression)
  | binary (operator : Operator) (left right : Expression)
  | group (inner : Expression)
  | raise (base exponent : Expression)
  | apply (function : Function) (argument : Expression)
  deriving DecidableEq, Repr

/-- Values `A` for numerals and operations, and reasons `R` to refuse a factorial. -/
structure Meaning (A R : Type) where
  numeral : List Char -> A
  negate : A -> A
  operate : Operator -> A -> A -> A
  apply : Function -> A -> A
  refuse? : A -> Option R

namespace Meaning

variable {A R : Type}

def call (meaning : Meaning A R) (function : Function) (argument : A) : Except R A :=
  match if function = Function.fact then meaning.refuse? argument else none with
  | some reason => .error reason
  | none => .ok (meaning.apply function argument)

end Meaning

structure Call (A : Type) where
  callable : Callable
  arguments : List A

namespace Expression

variable {A R : Type}

/-- The value of an expression. Operands are evaluated from left to right, before their operation. -/
def value (meaning : Meaning A R) : Expression -> Except R A
  | numeral text => .ok (meaning.numeral text)
  | signed negative operand => do
    let result <- operand.value meaning
    return if negative then meaning.negate result else result
  | binary operator left right => do
    let first <- left.value meaning
    let second <- right.value meaning
    return meaning.operate operator first second
  | group inner => inner.value meaning
  | raise base exponent => do
    let first <- base.value meaning
    let second <- exponent.value meaning
    return meaning.operate .power first second
  | apply function argument => do
    let result <- argument.value meaning
    meaning.call function result

/-- The calls that are made while an expression is evaluated, up to the first that is refused. -/
def calls (meaning : Meaning A R) : Expression -> List (Call A)
  | numeral _ => []
  | signed _ operand => operand.calls meaning
  | binary _ left right => left.calls meaning ++ afterwards left right
  | group inner => inner.calls meaning
  | raise base exponent =>
    base.calls meaning ++ afterwards base exponent ++
      match base.value meaning, exponent.value meaning with
      | .ok first, .ok second => [⟨.power, [first, second]⟩]
      | _, _ => []
  | apply function argument =>
    argument.calls meaning ++
      match argument.value meaning with
      | .ok result => [⟨.apply function, [result]⟩]
      | .error _ => []
where
  afterwards (first second : Expression) : List (Call A) :=
    match first.value meaning with
    | .ok _ => second.calls meaning
    | .error _ => []

/-- The levels of nesting: signs, parentheses, calls and right sides of `^` on one path. -/
def depth : Expression -> Nat
  | numeral _ => 0
  | signed _ operand => operand.depth + 1
  | binary operator left right =>
    if operator = Operator.power then max left.depth (right.depth + 1)
    else max left.depth right.depth
  | group inner => inner.depth + 1
  | raise base exponent => max base.depth exponent.depth + 1
  | apply _ argument => argument.depth + 1

end Expression

end SpokenArithmetic

import SpokenArithmetic.Expression.Basic
import SpokenArithmetic.Expression.Token

set_option autoImplicit false

/-!
The grammar of expressions, stated apart from the reader that finds them:

    sum       := product (("+" | "-") product)*
    product   := signed (("*" | "/" | "%") signed)*
    signed    := ("+" | "-") signed | power
    power     := primary ("^" signed)?
    primary   := NUMBER | NAME "(" arguments ")" | "(" sum ")"
    arguments := (sum ("," sum)*)?

A derivation is a tree of these rules. Its yield are the lexemes it derives, its depth counts the
levels of nesting on one path, and its content is the expression that it stands for.
-/

namespace SpokenArithmetic.Grammar

inductive Tier where
  | sum
  | product
  deriving DecidableEq, Repr

def Tier.operators : Tier -> List Operator
  | sum => [.add, .subtract]
  | product => [.multiply, .divide, .modulo]

inductive Form where
  | chain (tier : Tier)
  | signed
  | power
  | primary
  deriving DecidableEq, Repr

abbrev Form.sum : Form := .chain .sum

def Tier.operand : Tier -> Form
  | sum => .chain .product
  | product => .signed

inductive Nonterminal where
  | form (form : Form)
  | further (tier : Tier)
  | arguments
  | furtherArguments
  deriving DecidableEq, Repr

abbrev Nonterminal.Content : Nonterminal -> Type
  | form _ => Expression
  | further _ => List (Operator × Expression)
  | arguments | furtherArguments => List Expression

inductive Derivation : Nonterminal -> Type where
  | numeral (text : List Char) : Derivation (.form .primary)
  | call (name : List Char) (given : Derivation .arguments) : Derivation (.form .primary)
  | group (inner : Derivation (.form .sum)) : Derivation (.form .primary)
  | bare (base : Derivation (.form .primary)) : Derivation (.form .power)
  | raised (base : Derivation (.form .primary)) (exponent : Derivation (.form .signed)) :
      Derivation (.form .power)
  | unsigned (operand : Derivation (.form .power)) : Derivation (.form .signed)
  | signed (negative : Bool) (operand : Derivation (.form .signed)) : Derivation (.form .signed)
  | chain (tier : Tier) (first : Derivation (.form tier.operand))
      (others : Derivation (.further tier)) : Derivation (.form (.chain tier))
  | noFurther (tier : Tier) : Derivation (.further tier)
  | further (tier : Tier) (operator : Operator) (member : operator ∈ tier.operators)
      (operand : Derivation (.form tier.operand)) (others : Derivation (.further tier)) :
      Derivation (.further tier)
  | noArguments : Derivation .arguments
  | arguments (first : Derivation (.form .sum)) (others : Derivation .furtherArguments) :
      Derivation .arguments
  | noFurtherArguments : Derivation .furtherArguments
  | furtherArguments (first : Derivation (.form .sum)) (others : Derivation .furtherArguments) :
      Derivation .furtherArguments

def signOperator (negative : Bool) : Operator :=
  if negative then .subtract else .add

namespace Derivation

@[simp] def yield : {nonterminal : Nonterminal} -> Derivation nonterminal -> List Lexeme
  | _, numeral text => [.numeral text]
  | _, call name given => .name name :: .mark .opening :: given.yield ++ [.mark .closing]
  | _, group inner => .mark .opening :: inner.yield ++ [.mark .closing]
  | _, bare base => base.yield
  | _, raised base exponent => base.yield ++ .mark (.operator .power) :: exponent.yield
  | _, unsigned operand => operand.yield
  | _, signed negative operand => .mark (.operator (signOperator negative)) :: operand.yield
  | _, chain _ first others => first.yield ++ others.yield
  | _, noFurther _ => []
  | _, further _ operator _ operand others =>
    .mark (.operator operator) :: operand.yield ++ others.yield
  | _, noArguments => []
  | _, arguments first others => first.yield ++ others.yield
  | _, noFurtherArguments => []
  | _, furtherArguments first others => .mark .comma :: first.yield ++ others.yield

/-- The levels of nesting: signs, parentheses, argument lists and exponents on one path. -/
@[simp] def depth : {nonterminal : Nonterminal} -> Derivation nonterminal -> Nat
  | _, numeral _ => 0
  | _, call _ given => given.depth + 1
  | _, group inner => inner.depth + 1
  | _, bare base => base.depth
  | _, raised base exponent => max base.depth (exponent.depth + 1)
  | _, unsigned operand => operand.depth
  | _, signed _ operand => operand.depth + 1
  | _, chain _ first others => max first.depth others.depth
  | _, noFurther _ => 0
  | _, further _ _ _ operand others => max operand.depth others.depth
  | _, noArguments => 0
  | _, arguments first others => max first.depth others.depth
  | _, noFurtherArguments => 0
  | _, furtherArguments first others => max first.depth others.depth

end Derivation

def applied? : Callable -> List Expression -> Option Expression
  | .power, [base, exponent] => some (.raise base exponent)
  | .apply function, [argument] => some (.apply function argument)
  | _, _ => none

def foldChain (left : Expression) (others : List (Operator × Expression)) : Expression :=
  others.foldl (fun left other => .binary other.1 left other.2) left

/-- What a derivation stands for, where every name that it calls is the name of something that
takes so many arguments. -/
def Derivation.content? (named? : List Char -> Option Callable) :
    {nonterminal : Nonterminal} -> Derivation nonterminal -> Option nonterminal.Content
  | _, numeral text => some (.numeral text)
  | _, call name given => do
    let callable <- named? name
    let operands <- given.content? named?
    applied? callable operands
  | _, group inner => (inner.content? named?).map .group
  | _, bare base => base.content? named?
  | _, raised base exponent => do
    let first <- base.content? named?
    let second <- exponent.content? named?
    return .binary .power first second
  | _, unsigned operand => operand.content? named?
  | _, signed negative operand => (operand.content? named?).map (.signed negative)
  | _, chain _ first others => do
    let left <- first.content? named?
    let pairs <- others.content? named?
    return foldChain left pairs
  | _, noFurther _ => some []
  | _, further _ operator _ operand others => do
    let right <- operand.content? named?
    let pairs <- others.content? named?
    return (operator, right) :: pairs
  | _, noArguments => some []
  | _, arguments first others => do
    let head <- first.content? named?
    let tail <- others.content? named?
    return head :: tail
  | _, noFurtherArguments => some []
  | _, furtherArguments first others => do
    let head <- first.content? named?
    let tail <- others.content? named?
    return head :: tail

-- A square is taken before its sign.
example : (Derivation.signed true (.unsigned (.raised (.numeral ['3']) (.unsigned (.bare (.numeral ['2'])))))).content?
    (fun _ => none) = some (.signed true (.binary .power (.numeral ['3']) (.numeral ['2']))) := by
  cbv

end SpokenArithmetic.Grammar

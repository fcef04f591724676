import SpokenArithmetic.Expression.Basic
import SpokenArithmetic.Expression.Token

set_option autoImplicit false

namespace SpokenArithmetic

inductive SyntaxFault where
  | endOfExpression
  | unbalancedClosing (position : Nat)
  | missingClosing (position : Option Nat)
  | missingArgumentsOpening (name : List Char) (position : Option Nat)
  | missingArgumentsClosing (name : List Char) (position : Option Nat)
  | relation (mark : Mark) (position : Nat)
  | unexpected (lexeme : Lexeme) (position : Nat)
  | bareFunction (name : List Char) (position : Nat)
  | unknownName (name : List Char) (position : Nat)
  | arity (callable : Callable) (count position : Nat)
  | tooDeep
  deriving DecidableEq, Repr

namespace Parser

def maxDepth : Nat := 100

/-- A fault and the operands that were complete before it, from left to right. -/
structure Failure where
  fault : SyntaxFault
  complete : List Expression
  deriving DecidableEq, Repr

def fail {A : Type} (fault : SyntaxFault) : Except Failure A :=
  .error ⟨fault, []⟩

def following {A : Type} (operand : Expression) (next : Except Failure A) : Except Failure A :=
  next.mapError fun failure => { failure with complete := operand :: failure.complete }

abbrev Reader (A : Type) := List Token -> Except Failure (A × List Token)

def position? (tokens : List Token) : Option Nat :=
  tokens.head?.map Token.position

def operator? (among : List Operator) : List Token -> Option (Operator × List Token)
  | ⟨.mark (.operator operator), _⟩ :: rest =>
    if operator ∈ among then some (operator, rest) else none
  | _ => none

def expect (mark : Mark) (fault : Option Nat -> SyntaxFault) :
    List Token -> Except Failure (List Token)
  | [] => fail (fault none)
  | token :: rest =>
    if token.lexeme = .mark mark then .ok rest else fail (fault (some token.position))

/-- Further operands of operators that group to the left; each round takes an operator at least. -/
def chainFrom (among : List Operator) (operand : Reader Expression) :
    (rounds : Nat) -> Expression -> Reader Expression
  | 0, left, tokens => .ok (left, tokens)
  | rounds + 1, left, tokens =>
    match operator? among tokens with
    | none => .ok (left, tokens)
    | some (operator, rest) => do
      let (right, rest) <- following left (operand rest)
      chainFrom among operand rounds (.binary operator left right) rest

def chain (among : List Operator) (operand : Reader Expression) : Reader Expression :=
  fun tokens => do
    let (left, rest) <- operand tokens
    chainFrom among operand rest.length left rest

def argumentsFrom (argument : Reader Expression) : (rounds : Nat) -> Reader (List Expression)
  | 0, tokens => .ok ([], tokens)
  | rounds + 1, tokens =>
    match tokens with
    | ⟨.mark .comma, _⟩ :: rest => do
      let (first, rest) <- argument rest
      let (others, rest) <- following first (argumentsFrom argument rounds rest)
      return (first :: others, rest)
    | _ => .ok ([], tokens)

def arguments (argument : Reader Expression) : Reader (List Expression) :=
  fun tokens =>
    match tokens with
    | ⟨.mark .closing, _⟩ :: _ => .ok ([], tokens)
    | _ => do
      let (first, rest) <- argument tokens
      let (others, rest) <- following first (argumentsFrom argument rest.length rest)
      return (first :: others, rest)

structure Deeper where
  sum : Reader Expression
  signed : Reader Expression

def enter (deeper : Option Deeper) : Except Failure Deeper :=
  match deeper with
  | some readers => .ok readers
  | none => fail .tooDeep

def makeCall (callable : Callable) (position : Nat) :
    List Expression -> Except Failure Expression
  | [base, exponent] =>
    match callable with
    | .power => .ok (.raise base exponent)
    | .apply _ => .error ⟨.arity callable 2 position, [base, exponent]⟩
  | [argument] =>
    match callable with
    | .power => .error ⟨.arity callable 1 position, [argument]⟩
    | .apply function => .ok (.apply function argument)
  | arguments => .error ⟨.arity callable arguments.length position, arguments⟩

def call (deeper : Option Deeper) (name : List Char) (position : Nat) : Reader Expression :=
  fun tokens =>
    match Callable.ofName? (String.ofList name) with
    | none =>
      if (Function.ofName? (String.ofList name)).isSome then fail (.bareFunction name position)
      else fail (.unknownName name position)
    | some callable => do
      let rest <- expect .opening (.missingArgumentsOpening name) tokens
      let readers <- enter deeper
      let (given, rest) <- arguments readers.sum rest
      let rest <- given.foldr following (expect .closing (.missingArgumentsClosing name) rest)
      let tree <- makeCall callable position given
      return (tree, rest)

def primary (deeper : Option Deeper) : Reader Expression
  | [] => fail .endOfExpression
  | ⟨.numeral text, _⟩ :: rest => .ok (.numeral text, rest)
  | ⟨.name text, position⟩ :: rest => call deeper text position rest
  | ⟨.mark .opening, _⟩ :: rest => do
    let readers <- enter deeper
    let (inner, rest) <- readers.sum rest
    let rest <- following inner (expect .closing .missingClosing rest)
    return (.group inner, rest)
  | ⟨.mark mark, position⟩ :: _ =>
    if mark.isRelation then fail (.relation mark position) else fail (.unexpected (.mark mark) position)

def power (deeper : Option Deeper) : Reader Expression :=
  fun tokens => do
    let (base, rest) <- primary deeper tokens
    match operator? [.power] rest with
    | none => return (base, rest)
    | some (_, rest) =>
      let readers <- following base (enter deeper)
      let (exponent, rest) <- following base (readers.signed rest)
      return (.binary .power base exponent, rest)

def signed (deeper : Option Deeper) : Reader Expression :=
  fun tokens =>
    match operator? [.add, .subtract] tokens with
    | none => power deeper tokens
    | some (operator, rest) => do
      let readers <- enter deeper
      let (operand, rest) <- readers.signed rest
      return (.signed (operator = .subtract) operand, rest)

def product (deeper : Option Deeper) : Reader Expression :=
  chain [.multiply, .divide, .modulo] (signed deeper)

def sum (deeper : Option Deeper) : Reader Expression :=
  chain [.add, .subtract] (product deeper)

def readers (deeper : Option Deeper) : Deeper :=
  { sum := sum deeper, signed := signed deeper }

def below : (levels : Nat) -> Option Deeper
  | 0 => none
  | levels + 1 => some (readers (below levels))

def excess (token : Token) : SyntaxFault :=
  match token.lexeme with
  | .mark .closing => .unbalancedClosing token.position
  | .mark mark =>
    if mark.isRelation then .relation mark token.position
    else .unexpected (.mark mark) token.position
  | lexeme => .unexpected lexeme token.position

def parse (tokens : List Token) : Except Failure Expression := do
  let (tree, rest) <- sum (below maxDepth) tokens
  match rest with
  | [] => return tree
  | token :: _ => .error ⟨excess token, [tree]⟩

end Parser

end SpokenArithmetic

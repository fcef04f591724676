set_option autoImplicit false

namespace SpokenArithmetic

inductive Operator where
  | add
  | subtract
  | multiply
  | divide
  | modulo
  | power
  deriving DecidableEq, Repr

namespace Operator

def all : List Operator :=
  [add, subtract, multiply, divide, modulo, power]

def symbol : Operator -> Char
  | add => '+'
  | subtract => '-'
  | multiply => '*'
  | divide => '/'
  | modulo => '%'
  | power => '^'

def ofSymbol? (c : Char) : Option Operator :=
  all.find? fun operator => operator.symbol == c

theorem ofSymbol?_symbol (operator : Operator) : ofSymbol? operator.symbol = some operator := by
  cases operator <;> rfl

end Operator

inductive Function where
  | sqrt
  | cbrt
  | abs
  | sin
  | cos
  | tan
  | log
  | ln
  | floor
  | ceil
  | round
  | fact
  deriving DecidableEq, Repr

namespace Function

def all : List Function :=
  [sqrt, cbrt, abs, sin, cos, tan, log, ln, floor, ceil, round, fact]

def name : Function -> String
  | sqrt => "sqrt"
  | cbrt => "cbrt"
  | abs => "abs"
  | sin => "sin"
  | cos => "cos"
  | tan => "tan"
  | log => "log"
  | ln => "ln"
  | floor => "floor"
  | ceil => "ceil"
  | round => "round"
  | fact => "fact"

def callName : Function -> String
  | sqrt => "math_sqrt"
  | cbrt => "__cbrt"
  | abs => "math_fabs"
  | sin => "math_sin"
  | cos => "math_cos"
  | tan => "math_tan"
  | log => "math_log10"
  | ln => "math_log"
  | floor => "math_floor"
  | ceil => "math_ceil"
  | round => "math_round"
  | fact => "__fact"

def ofName? (text : String) : Option Function :=
  all.find? fun function => function.name == text

theorem mem_all (function : Function) : function ∈ all := by
  cases function <;> decide

end Function

inductive Callable where
  | power
  | apply (function : Function)
  deriving DecidableEq, Repr

namespace Callable

def all : List Callable :=
  power :: Function.all.map apply

def name : Callable -> String
  | power => "math_pow"
  | apply function => function.callName

def arity : Callable -> Nat
  | power => 2
  | apply _ => 1

def ofName? (text : String) : Option Callable :=
  all.find? fun callable => callable.name == text

theorem mem_all (callable : Callable) : callable ∈ all := by
  cases callable with
  | power => simp [all]
  | apply function => simp [all, Function.mem_all]

end Callable

end SpokenArithmetic

import SpokenArithmetic.Arithmetic.Double
import SpokenArithmetic.Expression.Parser

set_option autoImplicit false

namespace SpokenArithmetic

inductive Emptiness where
  | expression
  | afterSanitizing
  | tokens
  deriving DecidableEq, Repr

def Emptiness.message : Emptiness -> String
  | expression => "Expression is empty"
  | afterSanitizing => "Expression is empty after sanitization"
  | tokens => "Nothing to evaluate"

inductive Category where
  | calculation
  | empty
  | invalid
  | malformed
  deriving DecidableEq, Repr

def Category.name : Category -> String
  | calculation => "calculation_error"
  | empty => "empty_expression"
  | invalid => "invalid_result"
  | malformed => "evaluation_failure"

namespace SyntaxFault

def quoted (text : List Char) : String :=
  "'" ++ String.ofList text ++ "'"

def message : SyntaxFault -> String
  | endOfExpression => "Unexpected end of expression"
  | unbalancedClosing _ => "Unbalanced parentheses: unexpected ')'"
  | missingClosing _ => "Unbalanced parentheses: missing ')'"
  | missingArgumentsOpening name _ => "Expected '(' after " ++ quoted name
  | missingArgumentsClosing name _ =>
    "Unbalanced parentheses: missing ')' after " ++ quoted name ++ " arguments"
  | relation mark _ => "Unsupported operator " ++ quoted [mark.char]
  | unexpected lexeme _ => "Unexpected token " ++ quoted lexeme.text
  | bareFunction name _ => "Function " ++ quoted name ++ " needs a parenthesized argument"
  | unknownName name _ => "Unknown name " ++ quoted name
  | arity callable count _ =>
    quoted callable.name.toList ++ s!" takes {callable.arity} argument(s), got {count}"
  | tooDeep => s!"Expression nested deeper than {Parser.maxDepth} levels"

def position? : SyntaxFault -> Option Nat
  | endOfExpression | tooDeep => none
  | missingClosing position | missingArgumentsOpening _ position
  | missingArgumentsClosing _ position => position
  | unbalancedClosing position | relation _ position | unexpected _ position
  | bareFunction _ position | unknownName _ position | arity _ _ position => some position

end SyntaxFault

inductive Failure (R : Type) where
  | empty (what : Emptiness)
  | stray (stray : Token.Stray)
  | fault (fault : SyntaxFault)
  | refused (reason : R)
  | notFinite (value : Float)

namespace Failure

open Arithmetic

variable {R : Type}

def category : Failure R -> Category
  | empty _ => .empty
  | stray _ | fault _ => .malformed
  | refused _ | notFinite _ => .invalid

def position? : Failure R -> Option Nat
  | stray found => some found.position
  | fault found => found.position?
  | _ => none

def detail : Failure Refusal -> String
  | empty what => what.message
  | stray found => "Unexpected character " ++ SyntaxFault.quoted [found.char]
  | fault found => found.message
  | refused reason => reason.message
  | notFinite value => "Result is not a finite number: " ++ Number.written value

end Failure

def genericFailure : String :=
  "Unable to calculate expression"

end SpokenArithmetic

import SpokenArithmetic.Calculation.Failure
import SpokenArithmetic.Expression.CallForm
import SpokenArithmetic.Journal

set_option autoImplicit false

namespace SpokenArithmetic

namespace Token

variable {A R : Type}

def refusal? (meaning : Meaning A R) : List Expression -> Option R
  | [] => none
  | operand :: rest =>
    match operand.value meaning with
    | .error reason => some reason
    | .ok _ => refusal? meaning rest

/-- The value of the expression that tokens form. An operand is evaluated as soon as it is read, so
a refusal among those before a fault comes first. -/
def value (meaning : Meaning A R) (tokens : List Token) : Except (Failure R) A :=
  if tokens.isEmpty then .error (.empty .tokens)
  else
    match Parser.parse tokens with
    | .ok tree => (tree.value meaning).mapError .refused
    | .error failure =>
      match refusal? meaning failure.complete with
      | some reason => .error (.refused reason)
      | none => .error (.fault failure.fault)

def callsAmong (meaning : Meaning A R) : List Expression -> List (Call A)
  | [] => []
  | operand :: rest =>
    operand.calls meaning ++
      match operand.value meaning with
      | .error _ => []
      | .ok _ => callsAmong meaning rest

def calls (meaning : Meaning A R) (tokens : List Token) : List (Call A) :=
  match Parser.parse tokens with
  | .ok tree => tree.calls meaning
  | .error failure => callsAmong meaning failure.complete

end Token

namespace Evaluation

open Arithmetic Number

abbrev doubles : Meaning Float Refusal :=
  meaning elementary

def unroundedWith (library : Elementary) (text : List Char) : Except (Failure Refusal) Float :=
  match Token.scan text with
  | .error stray => .error (.stray stray)
  | .ok tokens => Token.value (meaning library) tokens

def unrounded (text : List Char) : Except (Failure Refusal) Float :=
  unroundedWith elementary text

def valueWith (library : Elementary) (text : List Char) : Except (Failure Refusal) Float :=
  if (Text.strip text).isEmpty then .error (.empty .expression)
  else if (Text.strip (callForm text)).isEmpty then .error (.empty .afterSanitizing)
  else
    match unroundedWith library (callForm text) with
    | .error failure => .error failure
    | .ok result =>
      match if isFinite result then roundAnswer? result else none with
      | some answer => .ok answer
      | none => .error (.notFinite result)

def value (text : List Char) : Except (Failure Refusal) Float :=
  valueWith elementary text

def showArguments : List Float -> String
  | [argument] => "(" ++ written argument ++ ",)"
  | given => "(" ++ ", ".intercalate (given.map written) ++ ")"

def callEvent (call : Call Float) : Event :=
  .line ("ExpressionParser: " ++ call.callable.name ++ showArguments call.arguments)

def callEvents (text : List Char) : List Event :=
  match Token.scan text with
  | .error _ => []
  | .ok tokens => (Token.calls doubles tokens).map callEvent

def failureEvents (text : String) : Failure Refusal -> List Event
  | .empty .expression | .empty .afterSanitizing => []
  | .notFinite result =>
    [.logged .info .evaluator s!"Non-finite result for [{text}]: {written result}"]
  | failure =>
    let category := failure.category.name
    let detail := failure.detail
    [.logged .info .evaluator s!"Could not evaluate [{text}]: {category}: {detail}"]

def traceEvents (text : String) : List Event :=
  if (Text.strip text.toList).isEmpty then []
  else
    let form := callForm text.toList
    .line ("evaluate: [" ++ text ++ "] → [" ++ String.ofList form ++ "]") :: callEvents form

def evaluate (text : String) (trace : Bool) : Told (Except (Failure Refusal) Float) := do
  let result := value text.toList
  Told.tell (if trace then traceEvents text else [])
  match result with
  | .ok _ => pure ()
  | .error failure => Told.tell (failureEvents text failure)
  return result

end Evaluation

end SpokenArithmetic

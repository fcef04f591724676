import SpokenArithmetic.Calculation.Failure
import SpokenArithmetic.Datum
import SpokenArithmetic.Number.Display

set_option autoImplicit false

namespace SpokenArithmetic

inductive Status where
  | ok
  | error
  deriving DecidableEq, Repr

namespace Status

def name : Status -> String
  | ok => "ok"
  | error => "error"

def ofName? (text : String) : Option Status :=
  [ok, error].find? fun status => status.name == text

end Status

structure Record where
  transcript : String
  expression : String
  result : String
  value : Option Float
  status : Status
  message : String
  errorCategory : Option String
  deriving DecidableEq

namespace Record

def answered (transcript expression : String) (value : Float) : Record :=
  { transcript, expression, result := Number.display value, value := some value, status := .ok
    message := "", errorCategory := none }

def failed (transcript expression message : String) (category : Category) : Record :=
  { transcript, expression, result := "", value := none, status := .error, message
    errorCategory := some category.name }

def ofOutcome {R : Type} (transcript expression message : String) :
    Except (Failure R) Float -> Record
  | .ok value => answered transcript expression value
  | .error failure => failed transcript expression message failure.category

def succeeded (record : Record) : Bool :=
  record.status = .ok

def line (record : Record) : String :=
  if record.succeeded then record.expression ++ " = " ++ record.result else record.message

end Record

inductive Complaint where
  | notText
  | notNumber
  | unreadableNumber
  | unknownStatus (given : String)
  deriving DecidableEq, Repr

def Complaint.message : Complaint -> String
  | notText => "Input should be a valid string"
  | notNumber => "Input should be a valid number"
  | unreadableNumber => "Input should be a valid number, unable to parse string as a number"
  | unknownStatus given =>
    "Value error, status must be one of ['ok', 'error'], got '" ++ given ++ "'"

abbrev FieldComplaint := String × Complaint

structure Draft where
  transcript : Datum := .text ""
  expression : Datum := .text ""
  result : Datum := .text ""
  value : Datum := .none
  status : Datum := .text "ok"
  message : Datum := .text ""
  errorCategory : Datum := .none

namespace Draft

def text? : Datum -> Except Complaint String
  | .text value => .ok value
  | _ => .error .notText

def optionalText? : Datum -> Except Complaint (Option String)
  | .none => .ok none
  | datum => some <$> text? datum

def status? : Datum -> Except Complaint Status
  | .text given => (Status.ofName? given).elim (.error (.unknownStatus given)) .ok
  | _ => .error .notText

def joinUnderscores? (text : List Char) : Option (List Char) :=
  if text.head? = some '_' || text.getLast? = some '_' || (text.zip text.tail).contains ('_', '_')
  then none
  else some (text.filter (· != '_'))

def readNumber? (text : List Char) : Option Float :=
  let trimmed := ((text.dropWhile Text.isSpace).reverse.dropWhile Text.isSpace).reverse
  let plain (text : List Char) : Option Float :=
    let (negative, rest) := Number.splitSign text
    if text.contains '_' || !text.all (·.toNat < 128) then none
    else (Number.unsignedFloat? rest).map fun value => if negative then -value else value
  plain trimmed <|> (joinUnderscores? text).bind plain

def number? : Datum -> Except Complaint (Option Float)
  | .none => .ok none
  | .flag value => .ok (some (if value then 1.0 else 0.0))
  | .whole value =>
    let nearest := Number.ofInt value
    if Number.isFinite nearest then .ok (some nearest) else .error .notNumber
  | .real value => .ok (some value)
  | .text given => (readNumber? given.toList).elim (.error .unreadableNumber) (.ok ∘ some)
  | .other => .error .notNumber

def complaint? {A : Type} (field : String) : Except Complaint A -> Option FieldComplaint
  | .ok _ => none
  | .error complaint => some (field, complaint)

def complaints (draft : Draft) : List FieldComplaint :=
  [complaint? "transcript" (text? draft.transcript), complaint? "expression" (text? draft.expression),
    complaint? "result" (text? draft.result), complaint? "value" (number? draft.value),
    complaint? "status" (status? draft.status), complaint? "message" (text? draft.message),
    complaint? "error_category" (optionalText? draft.errorCategory)].filterMap id

def record? (draft : Draft) : Except Complaint Record := do
  return {
    transcript := <- text? draft.transcript
    expression := <- text? draft.expression
    result := <- text? draft.result
    value := <- number? draft.value
    status := <- status? draft.status
    message := <- text? draft.message
    errorCategory := <- optionalText? draft.errorCategory }

/-- The record of a draft, or all complaints about it. -/
def check (draft : Draft) : Except (List FieldComplaint) Record :=
  (record? draft).mapError fun _ => draft.complaints

end Draft

def Record.draft (record : Record) : Draft :=
  { transcript := .text record.transcript, expression := .text record.expression
    result := .text record.result, value := record.value.elim .none .real
    status := .text record.status.name, message := .text record.message
    errorCategory := record.errorCategory.elim .none .text }

theorem Record.check_draft (record : Record) : record.draft.check = .ok record := by
  obtain ⟨transcript, expression, result, value, status, message, category⟩ := record
  cases value <;> cases status <;> cases category <;> rfl

end SpokenArithmetic

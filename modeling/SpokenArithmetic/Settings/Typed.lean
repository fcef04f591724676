import SpokenArithmetic.Settings.Literal.Reader
import SpokenArithmetic.Text.Case

set_option autoImplicit false

namespace SpokenArithmetic.Settings

open Number Text

inductive Kind where
  | flag
  | real
  | whole
  | text
  | texts
  | json
  | literal
  deriving DecidableEq, Repr

def Kind.ofName? (name : String) : Option Kind :=
  if name = "boolean" then some .flag
  else if name = "float" then some .real
  else if name.startsWith "int" then some .whole
  else if name.startsWith "str" then some .text
  else if name = "list-string" then some .texts
  else if name = "json" then some .json
  else if name = "dict" then some .literal
  else none

inductive KindFault where
  | unknownKind (name : String)
  | notReal (given : String)
  | notWhole (given : String)
  | nanToWhole
  | wholeToReal
  | infinityToWhole
  | overlong (overlong : Overlong)
  | unsuitable (given : String)
  | noSplit (given : String)
  | json (text : String) (fault : Json.Fault)
  | literal (fault : Literal.Fault)
  | notText (given : String)

namespace KindFault

def message : KindFault -> String
  | unknownKind name =>
    "Return type [" ++ name ++ "] is invalid.  Accepts: 'boolean', 'float', 'int', 'string', "
      ++ "'list-string', 'json' and 'dict'"
  | notReal given => "could not convert string to float: " ++ inQuotes given
  | notWhole given => "invalid literal for int() with base 10: " ++ inQuotes given
  | nanToWhole => "cannot convert float NaN to integer"
  | wholeToReal => "int too large to convert to float"
  | infinityToWhole => "cannot convert float infinity to integer"
  | overlong found => found.message
  | unsuitable given => "unsuitable value of type " ++ given
  | noSplit given => "'" ++ given ++ "' object has no attribute 'split'"
  | json text fault => fault.message text.toList
  | literal fault => fault.message
  | notText given => "malformed node or string: " ++ given

end KindFault

namespace Value

def yesWords : List String :=
  ["true", "yes", "on", "1"]

def isYes (text : String) : Bool :=
  yesWords.contains (lowered (stripped text))

def toFlag : Value -> Bool
  | flag value => value
  | text value => isYes value
  | whole value => value == 1
  | _ => false

def toReal : Value -> Except KindFault Float
  | flag value => .ok (if value then 1.0 else 0.0)
  | whole value => if isFinite (ofInt value) then .ok (ofInt value) else .error .wholeToReal
  | real value => .ok value
  | text given => (readFloat? given.toList).elim (.error (.notReal given)) .ok
  | other => .error (.unsuitable other.kind)

def truncate (x : Float) : Except KindFault Int :=
  match exactly x with
  | .nan => .error .nanToWhole
  | .infinite _ => .error .infinityToWhole
  | .finite negative units =>
    let magnitude : Int := units / one
    .ok (if negative then -magnitude else magnitude)

def toWhole : Value -> Except KindFault Int
  | flag value => .ok (if value then 1 else 0)
  | whole value => .ok value
  | real value => truncate value
  | text given =>
    match readInteger given.toList with
    | .ok value => .ok value
    | .error .malformed => .error (.notWhole given)
    | .error (.overlong found) => .error (.overlong found)
  | other => .error (.unsuitable other.kind)

def splitCommas : List Char -> List (List Char)
  | [] => [[]]
  | ',' :: rest => [] :: splitCommas rest
  | c :: rest =>
    match splitCommas rest with
    | [] => [[c]]
    | part :: others => (c :: part) :: others

def parts (text : String) : List String :=
  ((splitCommas text.toList).map fun part => String.ofList (strip part)).filter (!·.isEmpty)

def toTexts : Value -> Except KindFault Value
  | list items => .ok (list items)
  | text given => .ok (list ((parts given).map text))
  | other => .error (.noSplit other.kind)

def toKind (value : Value) (name : String) : Except KindFault Value :=
  match Kind.ofName? (lowered name) with
  | none => .error (.unknownKind (lowered name))
  | some .flag => .ok (flag value.toFlag)
  | some .real => real <$> value.toReal
  | some .whole => whole <$> value.toWhole
  | some .text => .ok value
  | some .texts => value.toTexts
  | some .json =>
    match value with
    | text given => (Json.parse given.toList).mapError (.json given)
    | other => .error (.unsuitable other.kind)
  | some .literal =>
    match value with
    | text given => (Literal.parse given.toList).mapError .literal
    | other => .error (.notText other.written)

end Value

end SpokenArithmetic.Settings

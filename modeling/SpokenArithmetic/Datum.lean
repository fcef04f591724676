import SpokenArithmetic.Number.Written

set_option autoImplicit false

namespace SpokenArithmetic

inductive Datum where
  | none
  | flag (value : Bool)
  | whole (value : Int)
  | real (value : Float)
  | text (value : String)
  | other

namespace Datum

def shown : Datum -> String
  | none => "None"
  | flag true => "True"
  | flag false => "False"
  | whole value => toString value
  | real value => Number.written value
  | text value => value
  | other => ""

def kind : Datum -> String
  | none => "NoneType"
  | flag _ => "bool"
  | whole _ => "int"
  | real _ => "float"
  | text _ => "str"
  | other => "object"

def isPresent : Datum -> Bool
  | none => false
  | flag value => value
  | whole value => value != 0
  | real value => !(value == 0.0)
  | text value => !value.isEmpty
  | other => true

end Datum

end SpokenArithmetic

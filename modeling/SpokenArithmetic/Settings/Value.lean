import SpokenArithmetic.Number.Read
import SpokenArithmetic.Number.Written
import SpokenArithmetic.Text.Quoted

set_option autoImplicit false

namespace SpokenArithmetic.Settings

inductive Value where
  | null
  | flag (value : Bool)
  | whole (value : Int)
  | real (value : Float)
  | text (value : String)
  | list (items : List Value)
  | tuple (items : List Value)
  | dictionary (entries : List (Value × Value))
  deriving Inhabited

namespace Value

def putText (key : String) (value : Value) : List (Value × Value) -> List (Value × Value)
  | [] => [(.text key, value)]
  | (.text other, old) :: rest =>
    if other = key then (.text other, value) :: rest
    else (.text other, old) :: putText key value rest
  | entry :: rest => entry :: putText key value rest

def kind : Value -> String
  | null => "NoneType"
  | flag _ => "bool"
  | whole _ => "int"
  | real _ => "float"
  | text _ => "str"
  | list _ => "list"
  | tuple _ => "tuple"
  | dictionary _ => "dict"

mutual

def written : Value -> String
  | null => "None"
  | flag value => if value then "True" else "False"
  | whole value => toString value
  | real value => Number.written value
  | text value => Text.inQuotes value
  | list items => "[" ++ ", ".intercalate (writtenItems items) ++ "]"
  | tuple [item] => "(" ++ written item ++ ",)"
  | tuple items => "(" ++ ", ".intercalate (writtenItems items) ++ ")"
  | dictionary entries => "\x7b" ++ ", ".intercalate (writtenEntries entries) ++ "\x7d"

def writtenItems : List Value -> List String
  | [] => []
  | item :: rest => written item :: writtenItems rest

def writtenEntries : List (Value × Value) -> List String
  | [] => []
  | (key, value) :: rest => (written key ++ ": " ++ written value) :: writtenEntries rest

end

end Value

end SpokenArithmetic.Settings

set_option autoImplicit false

namespace SpokenArithmetic.Template

inductive Kind where
  | text
  | anything
  | kind
  | row
  | nothing
  | method
  | operation
  | boundMethod
  | boundOperation
  deriving DecidableEq, Repr

namespace Kind

def name : Kind -> String
  | text => "str"
  | anything => "object"
  | kind => "type"
  | row => "tuple"
  | nothing => "NoneType"
  | method => "method_descriptor"
  | operation => "wrapper_descriptor"
  | boundMethod => "builtin_function_or_method"
  | boundOperation => "method-wrapper"

def lineage : Kind -> List Kind
  | anything => [anything]
  | other => [other, anything]

def operationNames : Kind -> List String
  | text => [
    "__repr__", "__hash__", "__str__", "__getattribute__", "__lt__", "__le__", "__eq__",
    "__ne__", "__gt__", "__ge__", "__iter__", "__mod__", "__rmod__", "__len__", "__getitem__",
    "__add__", "__mul__", "__rmul__", "__contains__"]
  | anything => [
    "__repr__", "__hash__", "__str__", "__getattribute__", "__setattr__", "__delattr__",
    "__lt__", "__le__", "__eq__", "__ne__", "__gt__", "__ge__", "__init__"]
  | kind => [
    "__repr__", "__call__", "__getattribute__", "__setattr__", "__delattr__", "__init__",
    "__or__", "__ror__"]
  | row => [
    "__repr__", "__hash__", "__getattribute__", "__lt__", "__le__", "__eq__", "__ne__", "__gt__",
    "__ge__", "__iter__", "__len__", "__getitem__", "__add__", "__mul__", "__rmul__",
    "__contains__"]
  | nothing => [
    "__repr__", "__bool__"]
  | method | operation => [
    "__repr__", "__call__", "__getattribute__", "__get__"]
  | boundMethod | boundOperation => [
    "__repr__", "__hash__", "__call__", "__getattribute__", "__lt__", "__le__", "__eq__",
    "__ne__", "__gt__", "__ge__"]

end Kind

end SpokenArithmetic.Template

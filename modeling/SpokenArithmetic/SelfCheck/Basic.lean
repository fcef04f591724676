import SpokenArithmetic.Journal

set_option autoImplicit false

namespace SpokenArithmetic.SelfCheck

abbrev Check := Trial String Unit

def require (fact : Bool) (message : String) : Check :=
  if fact then pure () else throw message

def ensure (fact : Bool) : Check :=
  require fact ""

def hold (title : String) : Check :=
  Trial.tell [.line ("  ✓ " ++ title)]

def succeed {E A : Type} (message : E -> String) (work : Trial E A) : Trial String A :=
  work.adapt message

def run (name : String) (notice : List Event) (check : Check) : Told Bool := do
  Told.tell [.line ("Testing " ++ name ++ " module...")]
  match <- check.run with
  | .ok () =>
    Told.tell [.line ("✓ " ++ name ++ " module smoke test PASSED")]
    return true
  | .error message =>
    Told.tell (.line ("✗ " ++ name ++ " module smoke test FAILED: " ++ message) :: notice)
    return false

end SpokenArithmetic.SelfCheck

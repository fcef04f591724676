import SpokenArithmetic.History.Store

set_option autoImplicit false

namespace SpokenArithmetic

inductive Keeper where
  | history (history : History)
  | refusing (reason : String)

namespace Keeper

def save (now : Moment) (transcript expression answer : Datum) :
    Keeper -> Told (Except String Keeper)
  | history kept => do
    let (_, kept) <- kept.save now transcript expression answer
    return .ok (history kept)
  | refusing reason => return .error reason

def history? : Keeper -> Option History
  | history kept => some kept
  | refusing _ => none

end Keeper

end SpokenArithmetic

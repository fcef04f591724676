import SpokenArithmetic.Banner
import SpokenArithmetic.Datum
import SpokenArithmetic.History.Place
import SpokenArithmetic.History.Table
import SpokenArithmetic.Settings.Shared

set_option autoImplicit false

namespace SpokenArithmetic

open Settings (Value KindFault Shared)

abbrev Shelf := List (List String × Table)

namespace Shelf

def table (shelf : Shelf) (place : History.Place) : Table :=
  match place with
  | .memory => .empty
  | .file parts => (shelf.lookup parts).getD .empty

def put (place : History.Place) (table : Table) (shelf : Shelf) : Shelf :=
  match place with
  | .memory => shelf
  | .file parts => (parts, table) :: shelf.filter (·.1 != parts)

end Shelf

structure History where
  address : String
  place : History.Place
  limit : Value
  trace : Bool
  table : Table

namespace History

inductive OpenFault where
  | settings (fault : Settings.Fault)
  | refused (refusal : Refusal)

def OpenFault.message : OpenFault -> String
  | settings fault => fault.message
  | refused refusal => refusal.message

def standardAddress : String := "sqlite:///spoken-calc-history.db"

def standardLimit : Int := 20

def addressSetting (manager : Settings.Manager) : Trial Settings.Fault Value :=
  manager.get "history_db_url" (some (.text standardAddress)) false "string"

def limitSetting (manager : Settings.Manager) : Trial Settings.Fault Value :=
  manager.get "history_default_limit" (some (.whole standardLimit)) false "int"

def orSetting (given : Value) (setting : Trial Settings.Fault Value) :
    Trial Settings.Fault Value :=
  match given with
  | .null => setting
  | value => pure value

def choose (environment : Environment) (address limit : Value) (shared : Shared) :
    Told (Except Settings.Fault (Value × Value) × Shared) := do
  let chosen (manager : Settings.Manager) : Trial Settings.Fault (Value × Value) := do
    let address <- orSetting address (addressSetting manager)
    let limit <- orSetting limit (limitSetting manager)
    return (address, limit)
  match address, limit with
  | .null, _ | _, .null =>
    match <- shared.get environment none false with
    | (.error fault, shared) => return (.error fault, shared)
    | (.ok manager, shared) => return (<- (chosen manager).run, shared)
  | _, _ => return (.ok (address, limit), shared)

def addressText : Value -> String
  | .text address => address
  | _ => ""

def traceEvents (asked : Bool) (text : String) : List Event :=
  if asked then [.line text] else []

def openWith (environment : Environment) (shelf : Shelf) (address limit : Value)
    (trace verbose : Bool) (shared : Shared) : Told (Except OpenFault History × Shared) := do
  match <- choose environment address limit shared with
  | (.error fault, shared) => return (.error (.settings fault), shared)
  | (.ok (address, limit), shared) =>
    let address := addressText address
    Told.tell (traceEvents trace ("Connecting to history database at: " ++ address))
    match Place.ofAddress environment (resolveAddress environment address) with
    | .error refusal => return (.error (.refused refusal), shared)
    | .ok place =>
      let table := shelf.table place
      Told.tell (traceEvents verbose s!"Opened calculation_history table w/ [{table.count}] rows")
      return (.ok { address, place, limit, trace, table }, shared)

def close (history : History) (shelf : Shelf) : Shelf :=
  shelf.put history.place history.table

def kept (value : Datum) : String :=
  if value.isPresent then value.shown else ""

def save (now : Moment) (transcript expression result : Datum) (history : History) :
    Told (Nat × History) := do
  let (id, table) := history.table.add now (kept transcript) (kept expression) (kept result)
  let shown := truncated (kept expression) phraseWidth
  Told.tell (traceEvents history.trace
    (s!"Saved calculation [{id}]: " ++ shown ++ " = " ++ result.shown))
  return (id, { history with table })

inductive LimitFault where
  | kind (fault : KindFault)
  | tooLarge

def LimitFault.message : LimitFault -> String
  | kind fault => fault.message
  | tooLarge => "Python int too large to convert to SQLite INTEGER"

def largestLimit : Int := 9223372036854775807

def askable (count : Int) : Except LimitFault Int :=
  if count > largestLimit || count < -largestLimit - 1 then .error .tooLarge else .ok count

-- The number of entries that a limit stands for; none below zero.
def readLimit (limit : Value) : Except LimitFault Nat := do
  let count <- limit.toWhole.mapError .kind
  Int.toNat <$> askable count.toNat

def recent (limit : Value) (history : History) : Except LimitFault (List Entry) := do
  let limit := match limit with
    | .null => history.limit
    | given => given
  return history.table.recent (<- readLimit limit)

/-- The newest entries by the limit of the table itself, for which none and one below zero are no
bound. -/
def listed (limit : Value) (history : History) : Except LimitFault (List Entry) :=
  match limit with
  | .null => .ok history.table.newestFirst
  | given => do
    let count <- askable (<- given.toWhole.mapError .kind)
    return if count < 0 then history.table.newestFirst else history.table.recent count.toNat

def clear (history : History) : Told (Nat × History) := do
  let (count, table) := history.table.clear
  Told.tell [.logged .info .history s!"Cleared [{count}] calculation history rows"]
  return (count, { history with table })

end History

end SpokenArithmetic

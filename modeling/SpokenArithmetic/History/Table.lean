import SpokenArithmetic.History.Moment
import SpokenArithmetic.Lexicographic

set_option autoImplicit false

namespace SpokenArithmetic

structure Entry where
  id : Nat
  transcript : String
  expression : String
  result : String
  createdAt : Moment
  deriving DecidableEq, Repr

namespace Entry

def key (entry : Entry) : List Nat :=
  entry.createdAt.key ++ [entry.id]

def isNewer (first second : Entry) : Bool :=
  atOrBehind first.key second.key

def shown (entry : Entry) : String :=
  s!"<CalculationHistory(id={entry.id}, expression='" ++ entry.expression ++ "', result='"
    ++ entry.result ++ "')>"

end Entry

structure Table where
  entries : List Entry
  deriving DecidableEq, Repr

namespace Table

def empty : Table :=
  { entries := [] }

def count (table : Table) : Nat :=
  table.entries.length

def nextId (table : Table) : Nat :=
  (table.entries.map Entry.id).foldl max 0 + 1

def add (createdAt : Moment) (transcript expression result : String) (table : Table) :
    Nat × Table :=
  let id := table.nextId
  (id, { entries := table.entries ++ [{ id, transcript, expression, result, createdAt }] })

def newestFirst (table : Table) : List Entry :=
  table.entries.mergeSort Entry.isNewer

def recent (limit : Nat) (table : Table) : List Entry :=
  table.newestFirst.take limit

def find? (id : Int) (table : Table) : Option Entry :=
  table.entries.find? fun entry => (entry.id : Int) = id

def clear (table : Table) : Nat × Table :=
  (table.count, empty)

def transact {A E : Type} (work : Table -> Except E (A × Table)) (table : Table) :
    Except E A × Table :=
  match work table with
  | .ok (a, changed) => (.ok a, changed)
  | .error reason => (.error reason, table)

theorem transact_error {A E : Type} {work : Table -> Except E (A × Table)} {table : Table}
    {reason : E} (failed : work table = .error reason) :
    table.transact work = (.error reason, table) := by
  simp [transact, failed]

end Table

end SpokenArithmetic

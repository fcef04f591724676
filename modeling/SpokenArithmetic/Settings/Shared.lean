import SpokenArithmetic.Settings.Manager

set_option autoImplicit false

namespace SpokenArithmetic.Settings

/-- The manager that was last handed out, and whether it is still the shared one. -/
structure Shared where
  manager : Option Manager
  live : Bool

namespace Shared

def none : Shared :=
  { manager := Option.none, live := false }

def current? (shared : Shared) : Option Manager :=
  if shared.live then shared.manager else Option.none

def drop (shared : Shared) : Shared × Bool :=
  ({ shared with live := false }, shared.live)

def hold (shared : Shared) (manager : Manager) : Shared :=
  { shared with manager := some manager, live := true }

def update (shared : Shared) (manager : Manager) : Shared :=
  { shared with manager := some manager }

def reuseEvents (manager : Manager) : List Event :=
  if manager.debug then [.line "Reusing ConfigurationManager() singleton..."] else []

def obtain (environment : Environment) (parameters : Parameters) (shared : Shared) :
    Told (Except Fault Manager × Shared) := do
  match shared.current? with
  | some manager =>
    Told.tell (reuseEvents manager)
    return (.ok manager, shared)
  | Option.none =>
    match <- (Manager.make environment parameters).run with
    | .error fault => return (.error fault, shared)
    | .ok manager => return (.ok manager, shared.hold manager)

/-- The parameters of a manager that is made without any: those of the variable when no block is
asked for and the variable is set, else the files in the project's directory. -/
def parameters (environment : Environment) (block : Option String) (debug : Bool) : Parameters :=
  if (environment.value? pairsVariable).isSome && block.isNone then
    { holder := some pairsVariable, debug }
  else
    { path := some (environment.settingsPath "spoken-calc.ini")
      explanationsPath := some (environment.settingsPath "spoken-calc-splainer.ini")
      block := if block.getD "" = "" then defaultBlock else block.getD ""
      debug }

/-- The shared manager with a block active; the block of a manager that is there stays when none is
asked for. -/
def get (environment : Environment) (block : Option String) (debug : Bool) (shared : Shared) :
    Told (Except Fault Manager × Shared) := do
  match shared.current? with
  | some manager =>
    Told.tell (reuseEvents manager)
    if block.all (· = manager.block) then return (.ok manager, shared)
    else
      let attempt <- manager.load environment block []
      let shared := shared.update attempt.manager
      match attempt.fault with
      | some fault => return (.error fault, shared)
      | Option.none => return (.ok attempt.manager, shared)
  | Option.none => shared.obtain environment (parameters environment block debug)

end Shared

end SpokenArithmetic.Settings

import SpokenArithmetic.CommandLine.Run

set_option autoImplicit false

namespace SpokenArithmetic.CommandLine

open Settings (Manager Shared)

def asked? (arguments : List String) : Option Asked :=
  match read arguments with
  | .ok asked => asked
  | .error _ => none

def settingsFiles (environment : Environment) (arguments : List String) : List String :=
  let parameters := Shared.parameters environment ((asked? arguments).bind Asked.block) false
  match (Manager.prepare environment parameters).run.result with
  | .ok (manager, _) => [manager.path, manager.explanationsPath]
  | .error _ => []

def historyFile? (environment : Environment) (arguments : List String) : Option String := do
  let asked <- asked? arguments
  let manager <- (Shared.none.get environment asked.block false).result.1.toOption
  if (Preferences.flag manager "history_enabled" true).run.result.toOption.getD false then
    match (manager.get "history_db_url" none false "string").run.result with
    | .ok (.text address) =>
      let address <- History.Address.parse? (History.resolveAddress environment address)
      let path := String.ofList address.path
      if path = "" || path = ":memory:" then none else some path
    | _ => none
  else none

end SpokenArithmetic.CommandLine

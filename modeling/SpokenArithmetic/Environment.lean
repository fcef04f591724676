import SpokenArithmetic.Journal
import SpokenArithmetic.Settings.Bundled

set_option autoImplicit false

namespace SpokenArithmetic

structure Environment where
  files : List (String × String)
  directories : List String
  bindings : List (String × String)
  home : String
  directory : String

def installedRoot : String := "/installed"

def rootVariable : String := "SPOKEN_CALC_ROOT"

namespace Path

def parts (path : String) : List String :=
  (((path.splitOn "/").filter fun part => part != "" && part != ".").foldl
    (fun before part => if part = ".." then before.tail else part :: before) []).reverse

def trimEnd (path : String) : String :=
  String.ofList (path.toList.reverse.dropWhile (· == '/')).reverse

def join (path part : String) : String :=
  if part.startsWith "/" then part
  else if path.isEmpty || path.endsWith "/" then path ++ part
  else path ++ "/" ++ part

end Path

namespace Environment

def value? (environment : Environment) (name : String) : Option String :=
  environment.bindings.lookup name

def locate (environment : Environment) (path : String) : List String :=
  Path.parts (Path.join environment.directory path)

def installedFiles : List (String × String) :=
  [(installedRoot ++ "/conf/spoken-calc.ini", Settings.Bundled.settings),
    (installedRoot ++ "/conf/spoken-calc-splainer.ini", Settings.Bundled.explanations)]

def file? (environment : Environment) (path : String) : Option String :=
  if path.isEmpty || path.endsWith "/" then none
  else
    ((environment.files ++ installedFiles).find? fun (name, _) =>
      environment.locate name = environment.locate path).map (·.2)

/-- A directory that is there: the working directory, one above it, one of the known directories or
one that holds a known file. -/
def hasDirectory (environment : Environment) (parts : List String) : Bool :=
  let known := environment.directory :: environment.directories ++ environment.files.map fun (name, _) =>
    Path.join name ".."
  known.any fun path => parts.isPrefixOf (environment.locate path)

def projectRoot (environment : Environment) : String :=
  ((environment.value? rootVariable).map Path.trimEnd).getD installedRoot

def settingsPath (environment : Environment) (name : String) : String :=
  Path.join (Path.join environment.projectRoot "conf") name

def expandHome (environment : Environment) (path : String) : String :=
  if path = "~" then Path.trimEnd environment.home
  else if path.startsWith "~/" then
    Path.trimEnd environment.home ++ String.ofList (path.toList.drop 1)
  else path

end Environment

structure MissingFile where
  path : String

def MissingFile.message (missing : MissingFile) : String :=
  "That file doesn't exist: [" ++ missing.path ++ "] Please correct path to file"

def Environment.checkFile (environment : Environment) (path : Option String) (silent : Bool) :
    Told (Except MissingFile Unit) := do
  let shown := path.getD "None"
  match path.bind environment.file? with
  | none => return .error ⟨shown⟩
  | some _ =>
    Told.tell (if silent then [] else [.line ("File exists! [" ++ shown ++ "]")])
    return .ok ()

end SpokenArithmetic

import SpokenArithmetic.Environment
import SpokenArithmetic.Text.Class

set_option autoImplicit false

namespace SpokenArithmetic.History

open Text

inductive Refusal where
  | malformedAddress
  | unknownKind (kind : String)
  | strayHost (address : String)
  | noDirectory
  | foreignFile
  deriving DecidableEq, Repr

def Refusal.message : Refusal -> String
  | malformedAddress => "Could not parse SQLAlchemy URL from given URL string"
  | unknownKind kind => "Can't load plugin: sqlalchemy.dialects:" ++ kind
  | strayHost address =>
    "Invalid SQLite URL: " ++ address ++ "\nValid SQLite URL forms are "
      ++ "\n sqlite:///:memory: or sqlite:////absolute/path/to/file.db"
  | noDirectory => "(sqlite3.OperationalError) unable to open database file"
  | foreignFile => "(sqlite3.DatabaseError) file is not a database"

def fileScheme : String := "sqlite:///"

def memoryAddress : String := "sqlite://"

def resolveAddress (environment : Environment) (address : String) : String :=
  let address := stripped address
  if address.startsWith fileScheme then
    let path := String.ofList (address.toList.drop fileScheme.length)
    if path.startsWith "~" then fileScheme ++ environment.expandHome path else address
  else address

inductive Pooling where
  | single
  | perFile
  | checked
  deriving DecidableEq, Repr

def Pooling.ofAddress (address : String) : Pooling :=
  if address = memoryAddress || address = fileScheme ++ ":memory:" then single
  else if address.startsWith "sqlite" then perFile
  else checked

structure Address where
  kind : String
  host : List Char
  path : List Char

/-- Splits an address at `://`, at the slash behind the host and before a question mark. -/
def Address.parse? (text : String) : Option Address :=
  let isKind (c : Char) : Bool := isWord c || c == '+'
  let kind := text.toList.takeWhile isKind
  match text.toList.dropWhile isKind with
  | ':' :: '/' :: '/' :: rest =>
    if kind.isEmpty then none
    else
      let place := rest.takeWhile (· != '?')
      some { kind := String.ofList kind
             host := place.takeWhile (· != '/')
             path := (place.dropWhile (· != '/')).drop 1 }
  | _ => none

inductive Place where
  | memory
  | file (parts : List String)
  deriving DecidableEq, Repr

def kinds : List String :=
  ["sqlite", "sqlite+pysqlite"]

def checkFile (environment : Environment) (path : String) : Except Refusal Place :=
  let parts := environment.locate path
  if !environment.hasDirectory parts.dropLast || environment.hasDirectory parts then
    .error .noDirectory
  else if (environment.file? path).any (!·.isEmpty) then .error .foreignFile
  else .ok (.file parts)

def Place.ofAddress (environment : Environment) (text : String) : Except Refusal Place :=
  match Address.parse? text with
  | none => .error .malformedAddress
  | some address =>
    if !kinds.contains address.kind then .error (.unknownKind address.kind)
    else if !address.host.isEmpty then .error (.strayHost text)
    else
      let path := String.ofList address.path
      if path = "" || path = ":memory:" then .ok .memory
      else checkFile environment path

end SpokenArithmetic.History

import SpokenArithmetic.Number.Read
import SpokenArithmetic.Text.Quoted

set_option autoImplicit false

namespace SpokenArithmetic.CommandLine

open Text

inductive Choice where
  | help
  | expression
  | interpret
  | history
  | clearHistory
  | interactive
  | speak
  | block
  | trace
  deriving DecidableEq, Repr

namespace Choice

def names : List (String × Choice) :=
  [("-h", help), ("--help", help), ("--expression", expression), ("--interpret", interpret),
    ("--history", history), ("--clear-history", clearHistory), ("--interactive", interactive),
    ("--speak", speak), ("--config-block", block), ("--debug", trace)]

def shown (choice : Choice) : String :=
  "/".intercalate ((names.filter (·.2 = choice)).map (·.1))

def ofName? (name : String) : Option Choice :=
  names.lookup name

def needsValue : Choice -> Bool
  | expression | block => true
  | _ => false

def takesValue (choice : Choice) : Bool :=
  choice.needsValue || choice = history

end Choice

inductive UsageFault where
  | ambiguous (given : String) (names : List String)
  | missingValue (choice : Choice)
  | ignoredValue (choice : Choice) (value : String)
  | notWhole (choice : Choice) (value : String)
  | unrecognized (arguments : List String)
  | phraseMissing
  deriving DecidableEq, Repr

def UsageFault.message : UsageFault -> String
  | ambiguous given names =>
    "ambiguous option: " ++ given ++ " could match " ++ ", ".intercalate names
  | missingValue choice => "argument " ++ choice.shown ++ ": expected one argument"
  | ignoredValue choice value =>
    "argument " ++ choice.shown ++ ": ignored explicit argument " ++ inQuotes value
  | notWhole choice value =>
    "argument " ++ choice.shown ++ ": invalid int value: " ++ inQuotes value
  | unrecognized arguments => "unrecognized arguments: " ++ " ".intercalate arguments
  | phraseMissing => "--interpret needs a phrase"

inductive Mark where
  | option (choice : Choice) (value : Option String)
  | unknown
  | word
  | divider
  deriving DecidableEq, Repr

abbrev Argument := String × Mark

namespace Mark

def isOption : Mark -> Bool
  | option _ _ | unknown => true
  | word | divider => false

-- Digits after a minus sign, perhaps with a point before the last ones. A line feed may follow.
def isNegativeNumber : List Char -> Bool
  | '-' :: rest =>
    let number := if rest.getLast? = some '\n' then rest.dropLast else rest
    let isDigits (text : List Char) : Bool := !text.isEmpty && text.all isDigit
    isDigits number ||
      match number.dropWhile isDigit with
      | '.' :: fraction => isDigits fraction
      | _ => false
  | _ => false

def splitValue (text : String) : String × Option String :=
  match text.toList.dropWhile (· != '=') with
  | [] => (text, none)
  | _ :: value => (String.ofList (text.toList.takeWhile (· != '=')), some (String.ofList value))

def candidates (text : String) : List (String × Choice × Option String) :=
  if text.startsWith "--" then
    let (beginning, value) := splitValue text
    (Choice.names.filter fun (name, _) => name.startsWith beginning).map
      fun (name, choice) => (name, choice, value)
  else
    Choice.names.filterMap fun (name, choice) =>
      if name.toList = text.toList.take 2 then
        some (name, choice, some (String.ofList (text.toList.drop 2)))
      else if name.startsWith text then some (name, choice, none)
      else none

def ofText (text : String) : Except UsageFault Mark :=
  if !text.startsWith "-" then .ok word
  else
    match Choice.ofName? text with
    | some choice => .ok (option choice none)
    | none =>
      let (name, value) := splitValue text
      match if value.isSome then Choice.ofName? name else none with
      | some choice => .ok (option choice value)
      | none =>
        if text.length = 1 then .ok word
        else
          match candidates text with
          | [(_, choice, value)] => .ok (option choice value)
          | [] =>
            if isNegativeNumber text.toList || text.toList.contains ' ' then .ok word
            else .ok unknown
          | several => .error (.ambiguous text (several.map (·.1)))

end Mark

def markAll : List String -> Except UsageFault (List Argument)
  | [] => .ok []
  | text :: rest => do
    if text = "--" then return (text, .divider) :: rest.map fun word => (word, .word)
    else
      let mark <- Mark.ofText text
      return (text, mark) :: (<- markAll rest)

structure Asked where
  phrase : List String := []
  expression : Option String := none
  interpret : Bool := false
  history : Option Int := none
  clearHistory : Bool := false
  interactive : Bool := false
  speak : Bool := false
  block : Option String := none
  trace : Bool := false
  deriving DecidableEq, Repr

def settingsLimit : Int := -1

namespace Asked

def take (asked : Asked) (choice : Choice) (value : Option String) : Except UsageFault Asked :=
  match choice with
  | .help => .ok asked
  | .expression => .ok { asked with expression := value }
  | .interpret => .ok { asked with interpret := true }
  | .history =>
    match value with
    | none => .ok { asked with history := some settingsLimit }
    | some text =>
      match Number.readInteger text.toList with
      | .ok number => .ok { asked with history := some number }
      | .error _ => .error (.notWhole .history text)
  | .clearHistory => .ok { asked with clearHistory := true }
  | .interactive => .ok { asked with interactive := true }
  | .speak => .ok { asked with speak := true }
  | .block => .ok { asked with block := value }
  | .trace => .ok { asked with trace := true }

def valueOf (choice : Choice) (value : Option String) (rest : List Argument) :
    Except UsageFault (Option String × List Argument) :=
  match value with
  | some value => if choice.takesValue then .ok (some value, rest) else .error (.ignoredValue choice value)
  | none =>
    if !choice.takesValue then .ok (none, rest)
    else
      match rest with
      | (text, .word) :: rest => .ok (some text, rest)
      | _ => if choice.needsValue then .error (.missingValue choice) else .ok (none, rest)

end Asked

-- What is refused of the value of a request for help, which takes none: all of it behind the long name,
-- and behind `-h` what is left when letters that ask for help again are taken off.
def refusedOfHelp? (text value : String) : Option String :=
  if value.isEmpty || text.startsWith "--" then some value
  else
    match value.toList.dropWhile (· == 'h') with
    | [] => none
    | rest => some (String.ofList rest)

structure Taking where
  asked : Asked
  phraseOpen : Bool
  strays : List String

namespace Taking

def start : Taking :=
  { asked := {}, phraseOpen := true, strays := [] }

def words (given : List String) (taking : Taking) : Taking :=
  if given.isEmpty then taking
  else if taking.phraseOpen then
    { taking with asked := { taking.asked with phrase := given.erase "--" }, phraseOpen := false }
  else { taking with strays := taking.strays ++ given }

end Taking

-- Takes the arguments one after the other; `none` is a request for help. A round takes an option or
-- all words before the next one.
def takeAll : (rounds : Nat) -> List Argument -> Taking -> Except UsageFault (Option Taking)
  | 0, _, taking => .ok (some taking)
  | rounds + 1, arguments, taking =>
    match arguments with
    | [] => .ok (some taking)
    | (text, .unknown) :: rest =>
      takeAll rounds rest { taking with strays := taking.strays ++ [text] }
    | (text, .option .help value) :: _ =>
      match value.bind (refusedOfHelp? text) with
      | none => .ok none
      | some refused => .error (.ignoredValue .help refused)
    | (_, .option choice value) :: rest => do
      let (value, rest) <- Asked.valueOf choice value rest
      takeAll rounds rest { taking with asked := <- taking.asked.take choice value }
    | arguments =>
      let isWord (argument : Argument) : Bool := !argument.2.isOption
      takeAll rounds (arguments.dropWhile isWord)
        (taking.words ((arguments.takeWhile isWord).map (·.1)))

/-- What arguments ask for; `none` is a request for help. -/
def read (arguments : List String) : Except UsageFault (Option Asked) := do
  let marked <- markAll arguments
  match <- takeAll (2 * marked.length + 1) marked Taking.start with
  | none => return none
  | some taking =>
    if taking.strays.isEmpty then return some taking.asked
    else .error (.unrecognized taking.strays)

end SpokenArithmetic.CommandLine

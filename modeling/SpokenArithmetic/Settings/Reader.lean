import SpokenArithmetic.Settings.Document

set_option autoImplicit false

/-!
Reading a settings document from text. A section starts with its name in brackets; a key and its
value are separated by `=` or `:`. A line that is indented deeper than the key belongs to its value.
Lines that start with `#` or `;` are comments.
-/

namespace SpokenArithmetic.Settings

open Text

inductive ReadFault where
  | missingHeader (file : String) (number : Nat) (line : String)
  | duplicateSection (file : String) (number : Nat) (name : String)
  | duplicateKey (file : String) (number : Nat) (name key : String)
  | unreadableLines (file : String) (lines : List (Nat × String))
  deriving DecidableEq, Repr

namespace ReadFault

def column (number : Nat) : String :=
  if number < 10 then s!" {number}" else s!"{number}"

def place (file : String) (number : Nat) : String :=
  "While reading from " ++ inQuotes file ++ " [line " ++ column number ++ "]: "

def message : ReadFault -> String
  | missingHeader file number line =>
    "File contains no section headers.\nfile: " ++ inQuotes file ++ s!", line: {number}\n"
      ++ inQuotes line
  | duplicateSection file number name =>
    place file number ++ "section " ++ inQuotes name ++ " already exists"
  | duplicateKey file number name key =>
    place file number ++ "option " ++ inQuotes key ++ " in section " ++ inQuotes name
      ++ " already exists"
  | unreadableLines file lines =>
    "Source contains parsing errors: " ++ inQuotes file
      ++ String.join (lines.map fun (number, line) =>
        "\n\t[line " ++ column number ++ "]: " ++ inQuotes line)

end ReadFault

def unifyLineEnds : List Char -> List Char
  | [] => []
  | '\r' :: '\n' :: rest => '\n' :: unifyLineEnds rest
  | '\r' :: rest => '\n' :: unifyLineEnds rest
  | c :: rest => c :: unifyLineEnds rest

def splitLines : List Char -> List (List Char)
  | [] => []
  | '\n' :: rest => ['\n'] :: splitLines rest
  | c :: rest =>
    match splitLines rest with
    | [] => [[c]]
    | line :: others => (c :: line) :: others

abbrev OpenEntries := List (String × List String)

structure Reading where
  sections : List (String × OpenEntries)
  current : Option String
  key : Option String
  indent : Nat
  seenSections : List String
  seenKeys : List (String × String)
  unreadable : List (Nat × String)

namespace Reading

def start : Reading :=
  { sections := [], current := none, key := none, indent := 0, seenSections := [], seenKeys := []
    unreadable := [] }

def change (name : String) (edit : OpenEntries -> OpenEntries) (reading : Reading) : Reading :=
  { reading with
    sections := reading.sections.map fun (other, entries) =>
      if other = name then (other, edit entries) else (other, entries) }

def extend (line : String) (reading : Reading) : Reading :=
  match reading.current, reading.key with
  | some name, some key =>
    reading.change name fun entries => entries.map fun (other, lines) =>
      if other = key then (other, lines ++ [line]) else (other, lines)
  | _, _ => reading

def put (name key line : String) (reading : Reading) : Reading :=
  reading.change name fun entries =>
    if (entries.lookup key).isSome then
      entries.map fun (other, lines) => if other = key then (other, [line]) else (other, lines)
    else entries ++ [(key, [line])]

-- The name in the brackets that a line starts with; the last closing bracket ends it.
def header? : List Char -> Option String
  | '[' :: rest =>
    match rest.reverse.dropWhile (· != ']') with
    | _ :: c :: name => some (String.ofList (c :: name).reverse)
    | _ => none
  | _ => none

def entry? (line : List Char) : Option (List Char × List Char) :=
  let isMark (c : Char) : Bool := c == '=' || c == ':'
  match line.dropWhile (!isMark ·) with
  | [] => none
  | _ :: value => some (stripEnd (line.takeWhile (!isMark ·)), strip value)

def isComment (content : List Char) : Bool :=
  content.head? = some '#' || content.head? = some ';'

def openSection (file name : String) (number : Nat) (reading : Reading) :
    Except ReadFault Reading :=
  if reading.seenSections.contains name then .error (.duplicateSection file number name)
  else
    .ok { reading with
      sections :=
        if (reading.sections.lookup name).isSome then reading.sections
        else reading.sections ++ [(name, [])]
      current := some name
      key := none
      seenSections :=
        if name = fallbackName then reading.seenSections else name :: reading.seenSections }

def readEntry (file : String) (number : Nat) (line content : List Char) (reading : Reading) :
    Except ReadFault Reading :=
  match header? content with
  | some name => reading.openSection file name number
  | none =>
    match reading.current with
    | none => .error (.missingHeader file number (String.ofList line))
    | some name =>
      let bad := (number, String.ofList line)
      match entry? content with
      | none => .ok { reading with unreadable := reading.unreadable ++ [bad] }
      | some (key, value) =>
        let key := String.ofList (lower key)
        if reading.seenKeys.contains (name, key) then .error (.duplicateKey file number name key)
        else
          let reading := reading.put name key (String.ofList value)
          .ok { reading with
            key := some key
            seenKeys := (name, key) :: reading.seenKeys
            unreadable := if key.isEmpty then reading.unreadable ++ [bad] else reading.unreadable }

def hasOpenValue (reading : Reading) : Bool :=
  reading.current.isSome && reading.key.any (!·.isEmpty)

def readLine (file : String) (number : Nat) (line : List Char) (reading : Reading) :
    Except ReadFault Reading :=
  let content := strip line
  if content.isEmpty then .ok (if reading.hasOpenValue then reading.extend "" else reading)
  else if isComment content then .ok reading
  else
    let indent := (line.takeWhile isBlank).length
    if reading.hasOpenValue && reading.indent < indent then
      .ok (reading.extend (String.ofList content))
    else ({ reading with indent }).readEntry file number line content

-- The reading up to its end or to the line that stops it.
def readLines (file : String) : (number : Nat) -> List (List Char) -> Reading ->
    Reading × Option ReadFault
  | _, [], reading => (reading, none)
  | number, line :: rest, reading =>
    match reading.readLine file number line with
    | .error fault => (reading, some fault)
    | .ok further => readLines file (number + 1) rest further

def close (entries : OpenEntries) : Entries :=
  entries.map fun (key, lines) =>
    (key, String.ofList (stripEnd ("\n".intercalate lines).toList))

def document (reading : Reading) : Document :=
  { fallback := ((reading.sections.lookup fallbackName).map close).getD []
    sections := (reading.sections.filter (·.1 != fallbackName)).map fun (name, entries) =>
      (name, close entries) }

end Reading

/-- The document of a text as far as it can be read, and the fault of the text. -/
def Document.read (file text : String) : Document × Option ReadFault :=
  let lines := splitLines (unifyLineEnds text.toList)
  let (reading, stopped) := Reading.readLines file 1 lines Reading.start
  let skipped : Option ReadFault :=
    if reading.unreadable.isEmpty then none else some (.unreadableLines file reading.unreadable)
  (reading.document, stopped <|> skipped)

namespace Document

def parse (file text : String) : Except ReadFault Document :=
  match Document.read file text with
  | (document, none) => .ok document
  | (_, some fault) => .error fault

variable {document : Document} {file text : String}

theorem read_of_parse (parsed : parse file text = .ok document) : read file text = (document, none) := by
  unfold parse at parsed
  split at parsed
  next whole =>
    cases parsed
    exact whole
  next => cases parsed

theorem fault_of_parse {fault : ReadFault} (parsed : parse file text = .error fault) :
    (read file text).2 = some fault := by
  unfold parse at parsed
  split at parsed
  next => cases parsed
  next spoiled =>
    cases parsed
    rw [spoiled]

end Document

end SpokenArithmetic.Settings

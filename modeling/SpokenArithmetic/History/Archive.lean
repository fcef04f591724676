import SpokenArithmetic.History.Table

set_option autoImplicit false

namespace SpokenArithmetic.Archive

def escape : List Char -> List Char
  | [] => []
  | c :: rest =>
    if c = '\\' then '\\' :: '\\' :: escape rest
    else if c = '\t' then '\\' :: 't' :: escape rest
    else if c = '\n' then '\\' :: 'n' :: escape rest
    else c :: escape rest

def unescape? : List Char -> Option (List Char)
  | [] => some []
  | '\\' :: '\\' :: rest => ('\\' :: ·) <$> unescape? rest
  | '\\' :: 't' :: rest => ('\t' :: ·) <$> unescape? rest
  | '\\' :: 'n' :: rest => ('\n' :: ·) <$> unescape? rest
  | '\\' :: _ => none
  | c :: rest => (c :: ·) <$> unescape? rest

theorem unescape?_escape (field : List Char) : unescape? (escape field) = some field := by
  induction field with
  | nil => rfl
  | cons c rest ih =>
    unfold escape
    split
    case isTrue h => simp [h, unescape?, ih]
    case isFalse notBackslash =>
      split
      case isTrue h => simp [h, unescape?, ih]
      case isFalse =>
        split
        case isTrue h => simp [h, unescape?, ih]
        case isFalse => simp [unescape?, notBackslash, ih]

def field (text : String) : String :=
  String.ofList (escape text.toList)

def field? (text : String) : Option String :=
  String.ofList <$> unescape? text.toList

def heading : String := "spoken-calc history"

def entryLine (entry : Entry) : String :=
  "\t".intercalate [toString entry.id, entry.createdAt.written, field entry.transcript,
    field entry.expression, field entry.result]

def entry? (line : String) : Option Entry := do
  match line.splitOn "\t" with
  | [id, createdAt, transcript, expression, result] =>
    return { id := <- id.toNat?, createdAt := <- Moment.ofText? createdAt
             transcript := <- field? transcript, expression := <- field? expression
             result := <- field? result }
  | _ => none

def encode (table : Table) : String :=
  String.join ((heading :: table.entries.map entryLine).map (· ++ "\n"))

/-- The table that a text keeps. An empty text is an empty table. -/
def decode? (text : String) : Option Table :=
  match (text.splitOn "\n").filter (!·.isEmpty) with
  | [] => some .empty
  | first :: lines =>
    if first = heading then (fun entries => { entries }) <$> lines.mapM entry? else none

end SpokenArithmetic.Archive

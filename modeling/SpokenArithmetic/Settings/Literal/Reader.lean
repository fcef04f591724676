import SpokenArithmetic.Settings.Literal.Token

set_option autoImplicit false

namespace SpokenArithmetic.Settings.Literal

open Number

inductive Reading where
  | number (value : Value)
  | value (value : Value)
  | set
  | other (isName : Bool)
  | unhashable

inductive Stop where
  | ended
  | fault (fault : SyntaxFault)

abbrev Reader (A : Type) := List Token -> Except Stop (A × List Token)

def stop {A : Type} (kind : FaultKind) (line : Nat) : Except Stop A :=
  .error (.fault ⟨kind, line⟩)

def stopAt {A : Type} : List Token -> Except Stop A
  | [] => stop .malformed 1
  | token :: _ =>
    match token.lexeme with
    | .cut => .error .ended
    | _ => stop .malformed token.line

def afterMark? (mark : String) : List Token -> Option (List Token)
  | token :: rest =>
    match token.lexeme with
    | .mark chars => if chars = mark.toList then some rest else none
    | _ => none
  | [] => none

def afterName? (name : String) : List Token -> Option (List Token)
  | token :: rest =>
    match token.lexeme with
    | .name chars => if chars = name.toList then some rest else none
    | _ => none
  | [] => none

/-- The readers one level deeper: of an expression, and of another one where the first has ended, which
is not there while such a place is looked at. -/
structure Deeper where
  expression : Reader Reading
  probe : Option (Reader Reading)

def lineOf (tokens : List Token) : Nat :=
  tokens.head?.elim 1 Token.line

def operatorMarks : List String :=
  ["+", "-", "*", "/", "//", "%", "@", "**", "<<", ">>", "&", "|", "^", "<", ">", "==", "!=", "<=",
    ">="]

def afterOperator? (tokens : List Token) : Option (List Token) :=
  operatorMarks.findSome? (afterMark? · tokens) <|>
    ["and", "or", "in"].findSome? (afterName? · tokens) <|>
    ((afterName? "is" tokens).map fun rest => (afterName? "not" rest).getD rest) <|>
    (afterName? "not" tokens).bind (afterName? "in")

def reserved : List String :=
  ["and", "as", "assert", "async", "await", "break", "class", "continue", "def", "del", "elif",
    "else", "except", "finally", "for", "from", "global", "if", "import", "in", "is", "lambda",
    "nonlocal", "not", "or", "pass", "raise", "return", "try", "while", "with", "yield"]

def isWord (chars : List Char) : Bool :=
  ("None" :: "True" :: "False" :: reserved).any (·.toList == chars)

def isCut : List Token -> Bool
  | token :: _ =>
    match token.lexeme with
    | .cut => true
    | _ => false
  | [] => false

def startsOddly : List Token -> Bool
  | ⟨.name chars, _⟩ :: ⟨.text _, _⟩ :: _ => !isWord chars
  | ⟨.name chars, _⟩ :: _ => ["match", "case", "_"].any (·.toList == chars)
  | _ => false

def afterPlainName? : List Token -> Option (List Token)
  | ⟨.name chars, _⟩ :: rest =>
    if isWord chars || (afterMark? "(" rest).isSome then none else some rest
  | _ => none

/-- Looks for a reason why nothing can follow the expression at the front: inside brackets a comma
is forgotten where another one follows. Behind a name it looks further on. -/
def explain (expression probe : Reader Reading) (bracketed : Bool) :
    (rounds : Nat) -> List Token -> Except Stop Unit
  | 0, _ => .ok ()
  | rounds + 1, start =>
    match expression start with
    | .error (.fault ⟨.malformed, _⟩) => .ok ()
    | .error stopped => .error stopped
    | .ok (_, rest) => do
      if !startsOddly start then
        match probe rest with
        | .ok (_, behind) =>
          if isCut behind then .error .ended
          else if bracketed then stop .forgottenComma (lineOf start)
          else .ok ()
        | .error .ended => .error .ended
        | .error (.fault _) => .ok ()
      match afterPlainName? start with
      | some rest => explain expression probe bracketed rounds rest
      | none => .ok ()

def stuckAt {A : Type} (deeper : Deeper) (bracketed : Bool) (start rest : List Token) :
    Except Stop A :=
  match deeper.probe with
  | none => stopAt rest
  | some probe => do
    explain deeper.expression probe bracketed start.length start
    stopAt rest

def stopAssignment {A : Type} (deeper : Deeper) (kind : FaultKind) (start found rest : List Token) :
    Except Stop A :=
  match deeper.probe with
  | none => stopAt rest
  | some probe =>
    match probe found with
    | .ok (_, behind) => if isCut behind then .error .ended else stop kind (lineOf start)
    | .error .ended => .error .ended
    | .error (.fault _) => stopAt rest

-- Stops behind an expression in brackets: another one may stand there where a comma should, or an
-- equals sign where two should.
def stuck {A : Type} (deeper : Deeper) (start : List Token) (reading : Reading)
    (rest : List Token) : Except Stop A :=
  match afterMark? "=" rest, reading with
  | some behind, .other true => stopAssignment deeper .assignedName start behind rest
  | some behind, .number _ => stopAssignment deeper .assignedLiteral start behind rest
  | some behind, .value (.text _) => stopAssignment deeper .assignedLiteral start behind rest
  | _, _ => stuckAt deeper true start rest

def itemsFrom (deeper : Deeper) (item : Reader Reading) (closing : String) :
    (rounds : Nat) -> Reader (List Reading × Bool)
  | 0, tokens => stopAt tokens
  | rounds + 1, tokens =>
    match afterMark? closing tokens with
    | some rest => .ok (([], true), rest)
    | none => do
      let (first, rest) <- item tokens
      match afterMark? "," rest, afterMark? closing rest with
      | some rest, _ =>
        let ((others, comma), rest) <- itemsFrom deeper item closing rounds rest
        return ((first :: others, comma), rest)
      | none, some rest => return (([first], false), rest)
      | none, none => stuck deeper tokens first rest

def items (deeper : Deeper) (closing : String) : Reader (List Reading × Bool) := fun tokens =>
  itemsFrom deeper deeper.expression closing tokens.length tokens

def entryValue (deeper : Deeper) (colon : Nat) : Reader Reading := fun tokens =>
  if (afterMark? "\x7d" tokens <|> afterMark? "," tokens).isSome then stop .missingValue colon
  else deeper.expression tokens

def entriesFrom (deeper : Deeper) (key : Reading) :
    (rounds : Nat) -> Reader (List (Reading × Reading))
  | 0, tokens => stopAt tokens
  | rounds + 1, tokens => do
    let (value, rest) <- entryValue deeper (lineOf tokens) (tokens.drop 1)
    match afterMark? "," rest, afterMark? "\x7d" rest with
    | none, none => stuck deeper (tokens.drop 1) value rest
    | none, some rest => return ([(key, value)], rest)
    | some rest, _ =>
      match afterMark? "\x7d" rest with
      | some rest => return ([(key, value)], rest)
      | none =>
        let (next, behind) <- deeper.expression rest
        if (afterMark? ":" behind).isSome then
          let (others, rest) <- entriesFrom deeper next rounds behind
          return ((key, value) :: others, rest)
        else if isCut behind then .error .ended
        else stop .missingColon (lineOf rest)

def valueOf? : Reading -> Option Value
  | .number found => some found
  | .value found => some found
  | _ => none

def Reading.isUnhashable : Reading -> Bool
  | unhashable => true
  | _ => false

def gather (make : List Value -> Reading) (readings : List Reading) : Reading :=
  match readings.mapM valueOf? with
  | some values => make values
  | none => if readings.any Reading.isUnhashable then .unhashable else .other false

def canBeKey : Value -> Bool
  | .list _ | .dictionary _ => false
  | .tuple items => (items.map canBeKey).all id
  | _ => true

def keyNumber : Value -> Value
  | .flag set => .whole (if set then 1 else 0)
  | .real x => (integer? x).elim (.real x) .whole
  | .tuple items => .tuple (items.map keyNumber)
  | other => other

def sameKey (first second : Value) : Bool :=
  (keyNumber first).written == (keyNumber second).written

def putKey (key value : Value) : List (Value × Value) -> List (Value × Value)
  | [] => [(key, value)]
  | (other, old) :: rest =>
    if sameKey other key then (other, value) :: rest else (other, old) :: putKey key value rest

def dictionaryOf (keys values : List Value) : Reading :=
  if keys.all canBeKey then
    .value (.dictionary ((keys.zip values).foldl (fun entries (key, value) =>
      putKey key value entries) []))
  else .unhashable

def Reading.isSet : Reading -> Bool
  | set => true
  | _ => false

def dictionary (entries : List (Reading × Reading)) : Reading :=
  if entries.any (·.1.isSet) then .unhashable
  else gather (fun values => dictionaryOf (values.take entries.length) (values.drop entries.length))
    (entries.map (·.1) ++ entries.map (·.2))

def setOf (items : List Reading) : Reading :=
  if items.any Reading.isSet then .unhashable
  else gather (fun values => if values.all canBeKey then .set else .unhashable) items

def signed (negative : Bool) : Reading -> Reading
  | .number (.whole n) => .value (.whole (if negative then -n else n))
  | .number (.real x) => .value (.real (if negative then -x else x))
  | _ => .other false

def nameReading (chars : List Char) : Reading :=
  (([("None", Value.null), ("True", .flag true), ("False", .flag false)].find? fun (name, _) =>
    name.toList == chars).map fun (_, value) => .value value).getD (.other true)

def texts : List Token -> Except Stop (List Char × List Token)
  | [] => .ok ([], [])
  | token :: rest =>
    match token.lexeme with
    | .text chars => do
      let (others, rest) <- texts rest
      return (chars ++ others, rest)
    | .bytes => stop .mixedTexts token.line
    | .faulty kind => stop kind token.line
    | _ => .ok ([], token :: rest)

def afterBytes : List Token -> Except Stop (List Token)
  | [] => .ok []
  | token :: rest =>
    match token.lexeme with
    | .bytes => afterBytes rest
    | .text _ => stop .mixedTexts token.line
    | _ => .ok (token :: rest)

def braced (deeper : Deeper) : Reader Reading := fun tokens =>
  match afterMark? "\x7d" tokens with
  | some rest => .ok (dictionary [], rest)
  | none => do
    let (first, rest) <- deeper.expression tokens
    if (afterMark? ":" rest).isSome then
      let (entries, rest) <- entriesFrom deeper first rest.length rest
      return (dictionary entries, rest)
    else
      match afterMark? "," rest, afterMark? "\x7d" rest with
      | some rest, _ =>
        let ((others, _), rest) <- items deeper "\x7d" rest
        return (setOf (first :: others), rest)
      | none, some rest => return (setOf [first], rest)
      | none, none => stuck deeper tokens first rest

def atom (deeper : Deeper) : Reader Reading
  | [] => stopAt []
  | token :: rest =>
    match token.lexeme with
    | .number value => .ok (.number value, rest)
    | .faulty kind => stop kind token.line
    | .foreign => .ok (.other false, rest)
    | .bytes => (fun rest => (.other false, rest)) <$> afterBytes rest
    | .text _ => do
      let (chars, rest) <- texts (token :: rest)
      return (.value (.text (String.ofList chars)), rest)
    | .name chars =>
      if reserved.any (·.toList == chars) then stopAt (token :: rest)
      else .ok (nameReading chars, rest)
    | .mark ['['] => do
      let ((found, _), rest) <- items deeper "]" rest
      return (gather (fun values => .value (.list values)) found, rest)
    | .mark ['('] => do
      let ((found, comma), rest) <- items deeper ")" rest
      match found, comma with
      | [item], false => return (item, rest)
      | _, _ => return (gather (fun values => .value (.tuple values)) found, rest)
    | .mark ['\x7b'] => braced deeper rest
    | _ => stopAt (token :: rest)

def argument (deeper : Deeper) : Reader Reading := fun tokens => do
  let (reading, rest) <- deeper.expression tokens
  match afterMark? "=" rest with
  | some rest => deeper.expression rest
  | none => return (reading, rest)

def trailers (deeper : Deeper) : (rounds : Nat) -> Reading -> Reader Reading
  | 0, _, tokens => stopAt tokens
  | rounds + 1, reading, tokens =>
    match afterMark? "(" tokens, afterMark? "[" tokens, afterMark? "." tokens with
    | some rest, _, _ => do
      let (_, rest) <- itemsFrom deeper (argument deeper) ")" rest.length rest
      trailers deeper rounds (.other false) rest
    | _, some rest, _ =>
      if (afterMark? "]" rest).isSome then .ok (reading, tokens)
      else do
        let (_, rest) <- items deeper "]" rest
        trailers deeper rounds (.other false) rest
    | _, _, some rest =>
      match rest with
      | ⟨.name chars, line⟩ :: rest =>
        if isWord chars then stop .malformed line else trailers deeper rounds (.other false) rest
      | rest => stopAt rest
    | none, none, none => .ok (reading, tokens)

def operand (deeper : Deeper) : Reader Reading := fun tokens =>
  let marked (mark : String) := afterMark? mark tokens
  let next (change : Reading -> Reading) (rest : List Token) :=
    (fun (reading, rest) => (change reading, rest)) <$> deeper.expression rest
  match marked "-", marked "+", marked "~" <|> afterName? "not" tokens with
  | some rest, _, _ => next (signed true) rest
  | _, some rest, _ => next (signed false) rest
  | _, _, some rest => next (fun _ => .other false) rest
  | none, none, none => do
    let (reading, rest) <- atom deeper tokens
    trailers deeper tokens.length reading rest

/-- An expression: operands with operators between them, perhaps chosen by a condition. It ends before
an operator that no operand follows. -/
def chosen (deeper : Deeper) : Reader Reading := fun tokens => do
  let (reading, rest) <- operand deeper tokens
  match afterOperator? rest, afterName? "if" rest with
  | some behind, _ =>
    match deeper.expression behind with
    | .ok (_, rest) => return (.other false, rest)
    | .error (.fault ⟨.malformed, _⟩) => return (reading, rest)
    | .error stopped => .error stopped
  | none, some behind =>
    let (_, behind) <- deeper.expression behind
    match afterName? "else" behind with
    | some behind =>
      let (_, behind) <- deeper.expression behind
      return (.other false, behind)
    | none =>
      if isCut behind then .error .ended
      else if deeper.probe.isNone || (afterMark? ":" behind).isSome then stopAt behind
      else stop .missingElse (lineOf tokens)
  | none, none => return (reading, rest)

def probe : (levels : Nat) -> Reader Reading
  | 0, tokens => stopAt tokens
  | levels + 1, tokens => chosen ⟨probe levels, none⟩ tokens

def expression : (levels : Nat) -> Reader Reading
  | 0, tokens => stopAt tokens
  | levels + 1, tokens => chosen ⟨expression levels, some (probe levels)⟩ tokens

def checkEnd (deeper : Deeper) (start : List Token) : List Token -> Except Stop Unit
  | [] => .ok ()
  | token :: rest =>
    match token.lexeme with
    | .newline => checkEnd deeper start rest
    | .finish => .ok ()
    | _ => stuckAt deeper false start (token :: rest)

def row (deeper : Deeper) : (rounds : Nat) -> List Token -> Except Stop (List Reading × Bool)
  | 0, tokens => stopAt tokens
  | rounds + 1, tokens => do
    let (first, rest) <- deeper.expression tokens
    match afterMark? "," rest with
    | none =>
      checkEnd deeper tokens rest
      return ([first], false)
    | some rest =>
      match rest.head?.map Token.lexeme with
      | some .finish | some .newline =>
        checkEnd deeper rest rest
        return ([first], true)
      | _ =>
        let (others, _) <- row deeper rounds rest
        return (first :: others, true)

def readWhole (tokens : List Token) : Except Stop Reading := do
  let deeper : Deeper := ⟨expression tokens.length, some (probe tokens.length)⟩
  let (items, comma) <- row deeper tokens.length tokens
  match items, comma with
  | [item], false => return item
  | _, _ => return gather (fun values => .value (.tuple values)) items

inductive Fault where
  | form (fault : SyntaxFault)
  | notLiteral
  | unhashable

def Fault.message : Fault -> String
  | form fault => fault.message
  | notLiteral => "malformed node or string"
  | unhashable => "unhashable type"

/-- The fault that is reported for a stop. A bracket of an earlier line that is never closed comes
before whatever is wrong behind it. -/
def reported (unclosed : Option Opening) : Stop -> SyntaxFault
  | .ended =>
    unclosed.elim ⟨.malformed, 1⟩ fun opening => ⟨.neverClosed opening.mark, opening.line⟩
  | .fault fault =>
    match unclosed with
    | some opening =>
      if opening.line < fault.line then ⟨.neverClosed opening.mark, opening.line⟩ else fault
    | none => fault

def parse (text : List Char) : Except Fault Value :=
  let text := text.dropWhile fun c => c = ' ' || c = '\t'
  if text.isEmpty then .error (.form ⟨.malformed, 0⟩)
  else
    match scan text with
    | .error fault => .error (.form fault)
    | .ok found =>
      let isNewline (token : Token) : Bool :=
        match token.lexeme with
        | .newline => true
        | _ => false
      match readWhole (found.tokens.dropWhile isNewline) with
      | .error stopped => .error (.form (reported found.unclosed stopped))
      | .ok (.number value) => .ok value
      | .ok (.value value) => .ok value
      | .ok (.other _) | .ok .set => .error .notLiteral
      | .ok .unhashable => .error .unhashable

end SpokenArithmetic.Settings.Literal

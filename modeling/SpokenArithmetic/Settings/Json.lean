import SpokenArithmetic.Settings.Value

set_option autoImplicit false

namespace SpokenArithmetic.Settings.Json

open Number

inductive FaultKind where
  | expectingValue
  | expectingName
  | expectingColon
  | expectingComma
  | unterminatedString
  | controlCharacter
  | badEscape
  | badCodePoint
  | extraData
  | byteOrderMark
  deriving DecidableEq, Repr

def FaultKind.message : FaultKind -> String
  | expectingValue => "Expecting value"
  | expectingName => "Expecting property name enclosed in double quotes"
  | expectingColon => "Expecting ':' delimiter"
  | expectingComma => "Expecting ',' delimiter"
  | unterminatedString => "Unterminated string starting at"
  | controlCharacter => "Invalid control character at"
  | badEscape => "Invalid \\escape"
  | badCodePoint => "Invalid \\uXXXX escape"
  | extraData => "Extra data"
  | byteOrderMark => "Unexpected UTF-8 BOM (decode using utf-8-sig)"

inductive Fault where
  | at (kind : FaultKind) (rest : List Char)
  | overlong (overlong : Overlong)

def place (text : List Char) (position : Nat) : String :=
  let before := text.take position
  let line := before.count '\n' + 1
  let column := (before.reverse.takeWhile (· != '\n')).length + 1
  s!": line {line} column {column} (char {position})"

abbrev Reader (A : Type) := List Char -> Except Fault (A × List Char)

def isSpace (c : Char) : Bool :=
  c == ' ' || c == '\t' || c == '\n' || c == '\r'

def skip (text : List Char) : List Char :=
  text.dropWhile isSpace

def isAsciiDigit (c : Char) : Bool :=
  c.isDigit

def hexValue? (c : Char) : Option Nat :=
  if c.isDigit then some (c.toNat - 48)
  else if 'a' <= c && c <= 'f' then some (c.toNat - 87)
  else if 'A' <= c && c <= 'F' then some (c.toNat - 55)
  else none

def fourDigits? : List Char -> Option (Nat × List Char)
  | a :: b :: c :: d :: rest => do
    let value := 4096 * (<- hexValue? a) + 256 * (<- hexValue? b) + 16 * (<- hexValue? c)
    return (value + (<- hexValue? d), rest)
  | _ => none

def simpleEscape? : Char -> Option Char
  | '"' => some '"'
  | '\\' => some '\\'
  | '/' => some '/'
  | 'b' => some '\x08'
  | 'f' => some '\x0c'
  | 'n' => some '\n'
  | 'r' => some '\r'
  | 't' => some '\t'
  | _ => none

def escapeDigits (start : List Char) : Except Fault (Nat × List Char) :=
  match fourDigits? start.tail with
  | some (value, next :: rest) => .ok (value, next :: rest)
  | _ => .error (.at .badCodePoint start)

def isHighHalf (point : Nat) : Bool :=
  0xD800 <= point && point < 0xDC00

def isLowHalf (point : Nat) : Bool :=
  0xDC00 <= point && point < 0xE000

/-- The character of an escape whose `u` comes first; two halves of a pair are one character. -/
def codePoint (start : List Char) : Except Fault (Char × List Char) := do
  let (high, rest) <- escapeDigits start
  match rest with
  | '\\' :: 'u' :: digits =>
    if isHighHalf high && digits.length > 4 then
      let (low, behind) <- escapeDigits ('u' :: digits)
      if isLowHalf low then
        return (Char.ofNat (0x10000 + (high - 0xD800) * 0x400 + (low - 0xDC00)), behind)
      else return (Char.ofNat high, rest)
    else return (Char.ofNat high, rest)
  | _ => return (Char.ofNat high, rest)

def stringFrom (start : List Char) : (rounds : Nat) -> Reader (List Char)
  | 0, _ => .error (.at .unterminatedString start)
  | rounds + 1, text =>
    match text with
    | [] => .error (.at .unterminatedString start)
    | '"' :: rest => .ok ([], rest)
    | ['\\'] => .error (.at .unterminatedString start)
    | '\\' :: 'u' :: rest => do
      let (c, rest) <- codePoint ('u' :: rest)
      let (others, rest) <- stringFrom start rounds rest
      return (c :: others, rest)
    | '\\' :: mark :: rest =>
      match simpleEscape? mark with
      | none => .error (.at .badEscape text)
      | some c => do
        let (others, rest) <- stringFrom start rounds rest
        return (c :: others, rest)
    | c :: rest =>
      if c.toNat < 32 then .error (.at .controlCharacter text)
      else do
        let (others, rest) <- stringFrom start rounds rest
        return (c :: others, rest)

def string (text : List Char) : Except Fault (String × List Char) := do
  let (chars, rest) <- stringFrom text text.length text.tail
  return (String.ofList chars, rest)

def wholeDigits? : List Char -> Option (List Char × List Char)
  | '0' :: rest => some (['0'], rest)
  | text =>
    match text.takeWhile isAsciiDigit with
    | [] => none
    | digits => some (digits, text.dropWhile isAsciiDigit)

def fractionDigits : List Char -> List Char × List Char
  | '.' :: rest =>
    match rest.takeWhile isAsciiDigit with
    | [] => ([], '.' :: rest)
    | digits => (digits, rest.dropWhile isAsciiDigit)
  | text => ([], text)

def power? : List Char -> Option (Int × List Char)
  | mark :: rest =>
    if mark == 'e' || mark == 'E' then
      let (negative, rest) := splitSign rest
      match rest.takeWhile isAsciiDigit with
      | [] => none
      | digits =>
        let value : Int := ofDigits digits
        some (if negative then -value else value, rest.dropWhile isAsciiDigit)
    else none
  | [] => none

def number (text : List Char) : Except Fault (Value × List Char) :=
  let (negative, unsigned) :=
    match text with
    | '-' :: rest => (true, rest)
    | _ => (false, text)
  match wholeDigits? unsigned with
  | none => .error (.at .expectingValue text)
  | some (whole, rest) =>
    let (fraction, rest) := fractionDigits rest
    match fraction, power? rest with
    | [], none =>
      match checkReading whole with
      | some overlong => .error (.overlong overlong)
      | none => .ok (.whole (if negative then -(ofDigits whole : Int) else ofDigits whole), rest)
    | _, power =>
      let (exponent, rest) := power.getD (0, rest)
      let value := ofDecimal (ofDigits (whole ++ fraction)) (exponent - fraction.length)
      .ok (.real (if negative then -value else value), rest)

def words : List (String × Value) :=
  [("null", .null), ("true", .flag true), ("false", .flag false), ("NaN", .real notANumber),
    ("Infinity", .real infinity), ("-Infinity", .real (-infinity))]

def word? (text : List Char) : Option (Value × List Char) :=
  words.findSome? fun (word, value) =>
    if word.toList.isPrefixOf text then some (value, text.drop word.length) else none

def itemsFrom (value : Reader Value) : (rounds : Nat) -> Reader (List Value)
  | 0, text => .error (.at .expectingValue text)
  | rounds + 1, text => do
    let (item, rest) <- value text
    match skip rest with
    | ']' :: rest => return ([item], rest)
    | ',' :: rest =>
      let (others, rest) <- itemsFrom value rounds (skip rest)
      return (item :: others, rest)
    | rest => .error (.at .expectingComma rest)

def entriesFrom (value : Reader Value) :
    (rounds : Nat) -> List (Value × Value) -> Reader (List (Value × Value))
  | 0, _, text => .error (.at .expectingName text)
  | rounds + 1, before, text =>
    if text.head? != some '"' then .error (.at .expectingName text)
    else do
      let (key, rest) <- string text
      match skip rest with
      | ':' :: rest =>
        let (item, rest) <- value (skip rest)
        let entries := Value.putText key item before
        match skip rest with
        | '\x7d' :: rest => return (entries, rest)
        | ',' :: rest => entriesFrom value rounds entries (skip rest)
        | rest => .error (.at .expectingComma rest)
      | rest => .error (.at .expectingColon rest)

def value : (levels : Nat) -> Reader Value
  | 0, text => .error (.at .expectingValue text)
  | levels + 1, text =>
    match text with
    | '"' :: _ => do
      let (content, rest) <- string text
      return (.text content, rest)
    | '[' :: rest =>
      match skip rest with
      | ']' :: rest => .ok (.list [], rest)
      | rest => do
        let (items, rest) <- itemsFrom (value levels) text.length rest
        return (.list items, rest)
    | '\x7b' :: rest =>
      match skip rest with
      | '\x7d' :: rest => .ok (.dictionary [], rest)
      | rest => do
        let (entries, rest) <- entriesFrom (value levels) text.length [] rest
        return (.dictionary entries, rest)
    | _ =>
      match word? text with
      | some found => .ok found
      | none => number text

def parse (text : List Char) : Except Fault Value := do
  if text.head? = some '\ufeff' then .error (.at .byteOrderMark text)
  else
    let (found, rest) <- value (text.length + 1) (skip text)
    match skip rest with
    | [] => return found
    | rest => .error (.at .extraData rest)

def Fault.message (text : List Char) : Fault -> String
  | .at kind rest => kind.message ++ place text (text.length - rest.length)
  | .overlong found => found.message

end SpokenArithmetic.Settings.Json

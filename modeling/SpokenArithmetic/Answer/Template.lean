import SpokenArithmetic.Answer.Template.Format
import SpokenArithmetic.Answer.Template.Member

set_option autoImplicit false

namespace SpokenArithmetic.Template

structure Name where
  text : List Char
  stop : Char
  rest : List Char

def readName : (inBrackets : Bool) -> List Char -> Except Fault Name
  | _, [] => .error .unclosedField
  | true, c :: rest => do
    let name <- readName (c != ']') rest
    return { name with text := c :: name.text }
  | false, c :: rest =>
    if c = '{' then .error .openingInName
    else if c = '}' || c = ':' || c = '!' then .ok ⟨[], c, rest⟩
    else do
      let name <- readName (c == '[') rest
      return { name with text := c :: name.text }

def readFormat : (nested : Nat) -> List Char -> Except Fault (List Char × List Char)
  | _, [] => .error .unclosedFormat
  | nested, c :: rest =>
    if c = '}' then
      match nested with
      | 0 => .ok ([], rest)
      | outer + 1 => (fun (format, rest) => (c :: format, rest)) <$> readFormat outer rest
    else if c = '{' then
      (fun (format, rest) => (c :: format, rest)) <$> readFormat (nested + 1) rest
    else (fun (format, rest) => (c :: format, rest)) <$> readFormat nested rest

structure Field where
  name : List Char
  conversion : Option Char
  format : List Char

def readField (text : List Char) : Except Fault (Field × List Char) := do
  let name <- readName false text
  if name.stop = '}' then return (⟨name.text, none, []⟩, name.rest)
  else if name.stop = ':' then
    let (format, rest) <- readFormat 0 name.rest
    return (⟨name.text, none, format⟩, rest)
  else
    match name.rest with
    | [] => .error .missingConversion
    | conversion :: '}' :: rest => return (⟨name.text, some conversion, []⟩, rest)
    | conversion :: ':' :: rest =>
      let (format, rest) <- readFormat 0 rest
      return (⟨name.text, some conversion, format⟩, rest)
    | [_] => .error .unclosedFormat
    | _ => .error .missingColon

def startsAccess (c : Char) : Bool :=
  c == '.' || c == '['

def part (index : Option Nat) (found : Found) : Except Fault Found :=
  match found, index with
  | .text chars, some index =>
    chars[index]?.elim (.error (.indexOutOfRange "string")) fun c => .ok (.text [c])
  | .row kinds, some index =>
    kinds[index]?.elim (.error (.indexOutOfRange "tuple")) fun k => .ok (.kind k)
  | .text _, none | .row _, none => .error .textIndex
  | .kind k, _ => .error (.notIndexed ("type '" ++ k.name ++ "'"))
  | other, _ => .error (.notIndexed other.holder)

def member (name : String) (found : Found) : Except Fault Found :=
  (found.pick? name).elim (.error (.noMember (found.lacking name))) .ok

def access : (rounds : Nat) -> (path : List Char) -> Found -> Except Fault Found
  | 0, _, found => .ok found
  | rounds + 1, path, found =>
    match path with
    | [] => .ok found
    | '.' :: rest =>
      match rest.takeWhile (!startsAccess ·) with
      | [] => .error .emptyAttribute
      | name => do
        access rounds (rest.drop name.length) (<- member (String.ofList name) found)
    | '[' :: rest =>
      match rest.dropWhile (· != ']') with
      | [] => .error .unclosedIndex
      | _ :: behind => do
        let key := rest.takeWhile (· != ']')
        let index <- index? key
        if key.isEmpty then .error .emptyAttribute
        else access rounds behind (<- part index found)
    | _ => .error .strayAfterIndex

def lookUp (result name : List Char) : Except Fault Found := do
  let first := name.takeWhile (!startsAccess ·)
  let path := name.dropWhile (!startsAccess ·)
  let index <- index? first
  if first.isEmpty then .error (.positional 0)
  else
    match index with
    | some index => .error (.positional index)
    | none =>
      if first = "result".toList then access path.length path (.text result)
      else .error (.unknownField first)

def convert (found : Found) : Option Char -> Except Fault Found
  | none => .ok found
  | some 's' => .ok (.text found.shown)
  | some 'r' => .ok (.text found.quoted)
  | some 'a' => .ok (.text found.quotedAscii)
  | some c => .error (.unknownConversion c)

def column (format : List Char) : Found -> Except Fault (List Char)
  | .text chars => (Format.parse format).bind (·.apply chars)
  | other => if format.isEmpty then .ok other.shown else .error (.noFormat other.kindOf.name)

/-- Fills the fields of a template; `expand` fills a format that has fields of its own. -/
def fillFrom (expand : List Char -> Except Fault (List Char)) (result : List Char) :
    (rounds : Nat) -> List Char -> Except Fault (List Char)
  | 0, _ => .ok []
  | rounds + 1, text =>
    match text with
    | [] => .ok []
    | '{' :: '{' :: rest => ('{' :: ·) <$> fillFrom expand result rounds rest
    | '}' :: '}' :: rest => ('}' :: ·) <$> fillFrom expand result rounds rest
    | ['{'] => .error .loneOpening
    | '}' :: _ => .error .loneClosing
    | '{' :: rest => do
      let (field, rest) <- readField rest
      let found <- convert (<- lookUp result field.name) field.conversion
      let format <- if field.format.contains '{' then expand field.format else .ok field.format
      let shown <- column format found
      (shown ++ ·) <$> fillFrom expand result rounds rest
    | c :: rest => (c :: ·) <$> fillFrom expand result rounds rest

def fillLevels (result : List Char) : (levels : Nat) -> List Char -> Except Fault (List Char)
  | 0, _ => .error .tooNested
  | levels + 1, template => fillFrom (fillLevels result levels) result template.length template

def fill (template result : String) : Except Fault String :=
  String.ofList <$> fillLevels result.toList 2 template.toList

end SpokenArithmetic.Template

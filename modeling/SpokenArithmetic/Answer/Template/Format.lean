import SpokenArithmetic.Answer.Template.Fault
import SpokenArithmetic.Number.Digits

set_option autoImplicit false

namespace SpokenArithmetic.Template

def maxInteger : Nat := 9223372036854775807

def integer? (text : List Char) : Except Fault (Option Nat × List Char) :=
  match text.takeWhile Text.isDigit with
  | [] => .ok (none, text)
  | digits =>
    if maxInteger < Number.ofDigits digits then .error .tooManyDigits
    else .ok (some (Number.ofDigits digits), text.dropWhile Text.isDigit)

def index? (text : List Char) : Except Fault (Option Nat) :=
  if text.all Text.isDigit then (·.1) <$> integer? text else .ok none

inductive Align where
  | left
  | right
  | center
  | sign
  deriving DecidableEq, Repr

def Align.ofChar? : Char -> Option Align
  | '<' => some left
  | '>' => some right
  | '^' => some center
  | '=' => some sign
  | _ => none

structure Format where
  fill : Char := ' '
  align : Align := .left
  sign : Option Char := none
  coercesZero : Bool := false
  alternate : Bool := false
  width : Option Nat := none
  separator : Option Char := none
  precision : Option Nat := none
  code : Char := 's'

namespace Format

def readAlign (text : List Char) : Option Char × Option Align × List Char :=
  match text with
  | fill :: mark :: rest =>
    match Align.ofChar? mark, Align.ofChar? fill with
    | some align, _ => (some fill, some align, rest)
    | none, some align => (none, some align, mark :: rest)
    | none, none => (none, none, text)
  | [mark] =>
    match Align.ofChar? mark with
    | some align => (none, some align, [])
    | none => (none, none, text)
  | [] => (none, none, [])

def readMark (marks : List Char) : List Char -> Option Char × List Char
  | c :: rest => if c ∈ marks then (some c, rest) else (none, c :: rest)
  | [] => (none, [])

def readSeparator (text : List Char) : Except Fault (Option Char × List Char) := do
  let (comma, rest) := readMark [','] text
  let (underscore, rest) := readMark ['_'] rest
  if comma.isSome && underscore.isSome then .error .separators
  else if underscore.isSome && rest.head? = some ',' then .error .separators
  else .ok (comma <|> underscore, rest)

def readPrecision (text : List Char) : Except Fault (Option Nat × List Char) :=
  match text with
  | '.' :: rest => do
    match <- integer? rest with
    | (none, _) => .error .missingPrecision
    | (precision, rest) => .ok (precision, rest)
  | _ => .ok (none, text)

def separable (separator code : Char) : Bool :=
  "defgEG%F".toList.contains code || (separator == '_' && "boxX".toList.contains code)

def parse (text : List Char) : Except Fault Format := do
  let (fill, align, rest) := readAlign text
  let (sign, rest) := readMark [' ', '+', '-'] rest
  let (zero, rest) := readMark ['z'] rest
  let (alternate, rest) := readMark ['#'] rest
  let (zeros, rest) := if fill.isSome then (none, rest) else readMark ['0'] rest
  let (width, rest) <- integer? rest
  let (separator, rest) <- readSeparator rest
  let (precision, rest) <- readPrecision rest
  let code <- match rest with
    | [] => .ok 's'
    | [code] => .ok code
    | _ => .error (.invalidFormat text)
  match separator with
  | some separator =>
    if separable separator code then pure () else .error (.separatorWith separator code)
  | none => pure ()
  return { fill := (fill <|> zeros).getD ' ', align := align.getD .left, sign
           coercesZero := zero.isSome, alternate := alternate.isSome, width, separator, precision
           code }

def pad (format : Format) (text : List Char) : List Char :=
  let missing := format.width.getD 0 - text.length
  let before :=
    match format.align with
    | .right => missing
    | .center => missing / 2
    | _ => 0
  List.replicate before format.fill ++ text ++ List.replicate (missing - before) format.fill

def apply (format : Format) (text : List Char) : Except Fault (List Char) :=
  if format.code != 's' then .error (.unknownFormat format.code)
  else if format.sign = some ' ' then .error .spaceInFormat
  else if format.sign.isSome then .error .signInFormat
  else if format.coercesZero then .error .zeroInFormat
  else if format.alternate then .error .alternateForm
  else if format.align = .sign then .error .signAlignment
  else .ok (format.pad (format.precision.elim text text.take))

end Format

end SpokenArithmetic.Template

import SpokenArithmetic.Settings.Json

set_option autoImplicit false

namespace SpokenArithmetic.Settings.Literal

open Number

inductive EscapeFault where
  | truncated (mark : Char) (width : Nat)
  | illegal
  deriving DecidableEq, Repr

def EscapeFault.message : EscapeFault -> String
  | truncated mark width =>
    "truncated \\" ++ mark.toString ++ String.ofList (List.replicate width 'X') ++ " escape"
  | illegal => "illegal Unicode character"

inductive FaultKind where
  | malformed
  | forgottenComma
  | missingColon
  | missingValue
  | missingElse
  | assignedName
  | assignedLiteral
  | neverClosed (opening : Char)
  | unmatched (closing : Char)
  | mismatched (closing opening : Char) (line : Option Nat)
  | tooManyBrackets
  | unterminatedText (line : Nat)
  | unterminatedBlock (line : Nat)
  | invalidNumber (base : String)
  | invalidDigit (digit : Char) (base : String)
  | leadingZeros
  | strayBackslash
  | mixedTexts
  | invalidCharacter (c : Char)
  | hiddenCharacter (c : Char)
  | escape (first last : Nat) (fault : EscapeFault)
  | overlong (overlong : Overlong)
  deriving DecidableEq, Repr

def pointName (c : Char) : String :=
  let digits := (Nat.toDigits 16 c.toNat).map Char.toUpper
  "U+" ++ String.ofList (List.replicate (4 - digits.length) '0' ++ digits)

def quotedMark (c : Char) : String :=
  "'" ++ c.toString ++ "'"

def FaultKind.message : FaultKind -> String
  | malformed => "invalid syntax"
  | forgottenComma => "invalid syntax. Perhaps you forgot a comma?"
  | missingColon => "':' expected after dictionary key"
  | missingValue => "expression expected after dictionary key and ':'"
  | missingElse => "expected 'else' after 'if' expression"
  | assignedName => "invalid syntax. Maybe you meant '==' or ':=' instead of '='?"
  | assignedLiteral => "cannot assign to literal here. Maybe you meant '==' instead of '='?"
  | neverClosed opening => quotedMark opening ++ " was never closed"
  | unmatched closing => "unmatched " ++ quotedMark closing
  | mismatched closing opening line =>
    "closing parenthesis " ++ quotedMark closing ++ " does not match opening parenthesis "
      ++ quotedMark opening ++ line.elim "" fun line => s!" on line {line}"
  | tooManyBrackets => "too many nested parentheses"
  | unterminatedText line => s!"unterminated string literal (detected at line {line})"
  | unterminatedBlock line => s!"unterminated triple-quoted string literal (detected at line {line})"
  | invalidNumber base => "invalid " ++ base ++ " literal"
  | invalidDigit digit base => "invalid digit " ++ quotedMark digit ++ " in " ++ base ++ " literal"
  | leadingZeros =>
    "leading zeros in decimal integer literals are not permitted; "
      ++ "use an 0o prefix for octal integers"
  | mixedTexts => "cannot mix bytes and nonbytes literals"
  | strayBackslash => "unexpected character after line continuation character"
  | invalidCharacter c => "invalid character " ++ quotedMark c ++ " (" ++ pointName c ++ ")"
  | hiddenCharacter c => "invalid non-printable character " ++ pointName c
  | escape first last fault =>
    s!"(unicode error) 'unicodeescape' codec can't decode bytes in position {first}-{last}: "
      ++ fault.message
  | overlong found =>
    found.message ++ " - Consider hexadecimal for huge integer literals "
      ++ "to avoid decimal conversion limits."

inductive Lexeme where
  | number (value : Value)
  | text (chars : List Char)
  | bytes
  | faulty (kind : FaultKind)
  | foreign
  | name (chars : List Char)
  | mark (chars : List Char)
  | newline
  | finish
  | cut

structure Token where
  lexeme : Lexeme
  line : Nat

abbrev Scanner (A : Type) := List Char -> Except FaultKind (A × List Char)

def push {E : Type} (c : Char) (next : Except E (List Char × List Char)) :
    Except E (List Char × List Char) :=
  (fun (chars, rest) => (c :: chars, rest)) <$> next

def digitRun (isDigit : Char -> Bool) (fault : FaultKind) : Scanner (List Char)
  | [] => .ok ([], [])
  | '_' :: rest =>
    match rest with
    | [] => .error fault
    | d :: behind => if isDigit d then push d (digitRun isDigit fault behind) else .error fault
  | c :: rest => if isDigit c then push c (digitRun isDigit fault rest) else .ok ([], c :: rest)

def isNamePart (c : Char) : Bool :=
  c.isAlphanum || c == '_'

def numberEnds : List String :=
  ["and", "else", "for", "or", "not"]

-- A text starts with a word that may follow a number; of the short ones two letters are enough.
def endsNumber (text : List Char) : Bool :=
  ["if", "in", "is"].any (fun word => word.toList.isPrefixOf text) ||
    numberEnds.any (·.toList == text.takeWhile isNamePart)

def checkNumberEnd (base : String) (rest : List Char) : Except FaultKind Unit :=
  if rest.head?.any isNamePart && !endsNumber rest then .error (.invalidNumber base) else .ok ()

def integerIn (radix : Nat) (base : String) : Scanner Lexeme := fun text => do
  let isDigit (c : Char) : Bool := (Json.hexValue? c).any (· < radix)
  let misplaced (rest : List Char) : Except FaultKind Unit :=
    match rest with
    | c :: _ => if c.isDigit && radix < 10 then .error (.invalidDigit c base) else .ok ()
    | [] => .ok ()
  let (digits, rest) <- digitRun isDigit (.invalidNumber base) text
  misplaced rest
  if digits.isEmpty then .error (.invalidNumber base)
  checkNumberEnd base rest
  let value := digits.foldl (fun value c => radix * value + (Json.hexValue? c).getD 0) 0
  return (.number (.whole value), rest)

def fraction? : Scanner (Option (List Char))
  | '.' :: rest =>
    if rest.head?.any Char.isDigit then
      (fun (digits, rest) => (some digits, rest)) <$>
        digitRun Char.isDigit (.invalidNumber "decimal") rest
    else .ok (some [], rest)
  | text => .ok (none, text)

def powerOfTen? : Scanner (Option (List Char)) := fun text =>
  let digits (before rest : List Char) : Except FaultKind (Option (List Char) × List Char) :=
    (fun (digits, rest) => (some (before ++ digits), rest)) <$>
      digitRun Char.isDigit (.invalidNumber "decimal") rest
  match text with
  | mark :: rest =>
    if mark != 'e' && mark != 'E' then .ok (none, text)
    else
      match rest with
      | [] => .ok (none, text)
      | c :: behind =>
        if c.isDigit then digits [] rest
        else if c = '+' || c = '-' then
          if behind.head?.any Char.isDigit then digits [c] behind
          else .error (.invalidNumber "decimal")
        else .ok (none, text)
  | [] => .ok (none, [])

def wholeNumber (digits : List Char) : Except FaultKind Lexeme :=
  if digits.head? = some '0' && digits.any (· != '0') then .error .leadingZeros
  else
    match checkReading digits with
    | some found => .ok (.faulty (.overlong found))
    | none => .ok (.number (.whole (ofDigits digits)))

def decimalNumber : Scanner Lexeme := fun text => do
  let (whole, rest) <- digitRun Char.isDigit (.invalidNumber "decimal") text
  let (fraction, rest) <- fraction? rest
  let (power, rest) <- powerOfTen? rest
  if rest.head? = some 'j' || rest.head? = some 'J' then
    checkNumberEnd "imaginary" (rest.drop 1)
    return (.foreign, rest.drop 1)
  let lexeme <-
    match fraction, power with
    | none, none => wholeNumber whole
    | _, _ =>
      let written := whole ++ '.' :: fraction.getD [] ++ power.elim [] ('e' :: ·)
      .ok (.number (.real ((unsignedDecimal? written).getD notANumber)))
  checkNumberEnd "decimal" rest
  return (lexeme, rest)

def number : Scanner Lexeme := fun text =>
  match text with
  | '0' :: mark :: rest =>
    if mark = 'x' || mark = 'X' then integerIn 16 "hexadecimal" rest
    else if mark = 'o' || mark = 'O' then integerIn 8 "octal" rest
    else if mark = 'b' || mark = 'B' then integerIn 2 "binary" rest
    else decimalNumber text
  | _ => decimalNumber text

-- What stands up to a closing quote in the same line, or the lines that were passed in search of
-- it. A backslash takes the character behind it along.
def lineBody (quote : Char) : (passed : Nat) -> List Char -> Except Nat (List Char × List Char)
  | passed, [] => .error passed
  | passed, '\\' :: c :: rest =>
    push '\\' (push c (lineBody quote (if c = '\n' then passed + 1 else passed) rest))
  | passed, c :: rest =>
    if c = quote then .ok ([], rest)
    else if c = '\n' then .error passed
    else push c (lineBody quote passed rest)

def blockBody (quote : Char) : List Char -> Except Unit (List Char × List Char)
  | [] => .error ()
  | '\\' :: c :: rest => push '\\' (push c (blockBody quote rest))
  | c :: rest =>
    if c = quote && rest.take 2 == [quote, quote] then .ok ([], rest.drop 2)
    else push c (blockBody quote rest)

def simpleEscape? (c : Char) : Option Char :=
  [('\\', '\\'), ('\'', '\''), ('"', '"'), ('a', '\x07'), ('b', '\x08'), ('f', '\x0c'),
    ('n', '\n'), ('r', '\r'), ('t', '\t'), ('v', '\x0b')].lookup c

def escapeWidth? : Char -> Option Nat
  | 'x' => some 2
  | 'u' => some 4
  | 'U' => some 8
  | _ => none

def isOctal (c : Char) : Bool :=
  '0' <= c && c <= '7'

def escapedPoint (place : Nat) (mark : Char) (width : Nat) (rest : List Char) :
    Except FaultKind Char :=
  let digits := (rest.take width).takeWhile fun c => (Json.hexValue? c).isSome
  let value := digits.foldl (fun value c => 16 * value + (Json.hexValue? c).getD 0) 0
  if digits.length < width then
    .error (.escape place (place + 1 + digits.length) (.truncated mark width))
  else if 0x110000 <= value then .error (.escape place (place + 1 + width) .illegal)
  else .ok (Char.ofNat value)

-- The place behind a character; past ASCII it is counted as the escape that stands for it.
def placeAfter (place : Nat) (c : Char) : Nat :=
  place + if c.toNat < 128 then 1 else 10

def unescapeFrom : (place skip : Nat) -> List Char -> Except FaultKind (List Char)
  | _, _, [] => .ok []
  | place, skip + 1, c :: rest => unescapeFrom (placeAfter place c) skip rest
  | place, 0, '\\' :: '\n' :: rest => unescapeFrom (place + 2) 0 rest
  | place, 0, '\\' :: mark :: rest =>
    match simpleEscape? mark, escapeWidth? mark with
    | some c, _ => (c :: ·) <$> unescapeFrom (place + 2) 0 rest
    | none, some width => do
      let c <- escapedPoint place mark width rest
      (c :: ·) <$> unescapeFrom (place + 2) width rest
    | none, none =>
      if isOctal mark then
        let digits := mark :: (rest.take 2).takeWhile isOctal
        (Char.ofNat (ofDigits8 digits) :: ·) <$> unescapeFrom (place + 2) (digits.length - 1) rest
      else
        (fun chars => '\\' :: mark :: chars) <$> unescapeFrom (placeAfter (place + 1) mark) 0 rest
  | place, 0, c :: rest => (c :: ·) <$> unescapeFrom (placeAfter place c) 0 rest
where
  ofDigits8 (digits : List Char) : Nat :=
    digits.foldl (fun value c => 8 * value + (c.toNat - 48)) 0

def bodyLexeme (letters body : List Char) : Lexeme :=
  let letters := letters.map Char.toLower
  if letters.contains 'b' then .bytes
  else if letters.contains 'f' then .foreign
  else if letters.contains 'r' then .text body
  else
    match unescapeFrom 0 0 body with
    | .ok chars => .text chars
    | .error kind => .faulty kind

def isQuoteLetters (letters : List Char) : Bool :=
  ["", "r", "u", "b", "f", "br", "rb", "fr", "rf"].any fun known =>
    known.toList == letters.map Char.toLower

def isQuote (c : Char) : Bool :=
  c == '\'' || c == '"'

def quotedText (line : Nat) (letters : List Char) (quote : Char) : Scanner Lexeme := fun text =>
  if text.take 2 == [quote, quote] then
    match blockBody quote (text.drop 2) with
    | .ok (body, rest) => .ok (bodyLexeme letters body, rest)
    | .error () => .error (.unterminatedBlock (line + text.count '\n'))
  else
    match lineBody quote 0 text with
    | .ok (body, rest) => .ok (bodyLexeme letters body, rest)
    | .error passed => .error (.unterminatedText (line + passed))

def longMarks : List String :=
  ["**=", "//=", ">>=", "<<=", "...", "**", "//", "<<", ">>", "<=", ">=", "==", "!=", "->", "+=",
    "-=", "*=", "/=", "%=", "&=", "|=", "^=", "@=", ":=", "<>"]

def markAt (c : Char) (rest : List Char) : List Char :=
  ((longMarks.find? fun mark => mark.toList.isPrefixOf (c :: rest)).map String.toList).getD [c]

def isNameStart (c : Char) : Bool :=
  c.isAlpha || c == '_' || (128 <= c.toNat && Text.isWord c)

def nameAt (text : List Char) : List Char :=
  text.takeWhile fun c => c.isDigit || isNameStart c

def lexeme (line : Nat) : Scanner Lexeme
  | [] => .ok (.finish, [])
  | c :: rest =>
    let word := nameAt (c :: rest)
    let behind := (c :: rest).drop word.length
    if c.isDigit || (c == '.' && rest.head?.any Char.isDigit) then number (c :: rest)
    else if isQuote c then quotedText line [] c rest
    else if !word.isEmpty then
      match behind with
      | quote :: body =>
        if isQuote quote && isQuoteLetters word then quotedText line word quote body
        else .ok (.name word, behind)
      | [] => .ok (.name word, behind)
    else if Text.isHidden c then .error (.hiddenCharacter c)
    else if 128 <= c.toNat then .error (.invalidCharacter c)
    else
      let mark := markAt c rest
      .ok (if mark = "...".toList then .foreign else .mark mark, (c :: rest).drop mark.length)

structure Opening where
  mark : Char
  line : Nat

structure SyntaxFault where
  kind : FaultKind
  line : Nat

def SyntaxFault.message (fault : SyntaxFault) : String :=
  fault.kind.message ++ s!" (<unknown>, line {fault.line})"

def closing? : Char -> Option Char
  | '(' => some ')'
  | '[' => some ']'
  | '\x7b' => some '\x7d'
  | _ => none

def maxBrackets : Nat := 200

def close (line : Nat) (mark : Char) : List Opening -> Except SyntaxFault (List Opening)
  | [] => .error ⟨.unmatched mark, line⟩
  | top :: below =>
    if closing? top.mark = some mark then .ok below
    else
      .error ⟨.mismatched mark top.mark (if top.line = line then none else some top.line), line⟩

structure Scan where
  tokens : List Token
  unclosed : Option Opening

def Scan.add (token : Token) (scan : Scan) : Scan :=
  { scan with tokens := token :: scan.tokens }

def scanFrom : (rounds line : Nat) -> List Opening -> List Char -> Except SyntaxFault Scan
  | 0, line, opened, _ => .ok (ending line opened)
  | rounds + 1, line, opened, text =>
    match text with
    | [] => .ok (ending line opened)
    | c :: rest =>
      if c = ' ' || c = '\t' || c = '\x0c' then scanFrom rounds line opened rest
      else if c = '\n' then
        Scan.add? opened.isEmpty ⟨.newline, line⟩ <$> scanFrom rounds (line + 1) opened rest
      else if c = '#' then scanFrom rounds line opened (rest.dropWhile (· != '\n'))
      else if c = '\\' then
        match rest with
        | '\n' :: rest => scanFrom rounds (line + 1) opened rest
        | _ => .error ⟨.strayBackslash, line⟩
      else if (closing? c).isSome then
        if maxBrackets <= opened.length then .error ⟨.tooManyBrackets, line⟩
        else Scan.add ⟨.mark [c], line⟩ <$> scanFrom rounds line (⟨c, line⟩ :: opened) rest
      else if c = ')' || c = ']' || c = '\x7d' then do
        let below <- close line c opened
        Scan.add ⟨.mark [c], line⟩ <$> scanFrom rounds line below rest
      else
        match lexeme line (c :: rest) with
        | .error kind => .error ⟨kind, line⟩
        | .ok (lexeme, behind) =>
          let taken := (c :: rest).take (rest.length + 1 - behind.length)
          Scan.add ⟨lexeme, line⟩ <$> scanFrom rounds (line + taken.count '\n') opened behind
where
  ending (line : Nat) (opened : List Opening) : Scan :=
    { tokens := [⟨if opened.isEmpty then .finish else .cut, line⟩], unclosed := opened.head? }
  Scan.add? (added : Bool) (token : Token) (scan : Scan) : Scan :=
    if added then scan.add token else scan

def scan (text : List Char) : Except SyntaxFault Scan :=
  scanFrom (text.length + 1) 1 [] text

end SpokenArithmetic.Settings.Literal

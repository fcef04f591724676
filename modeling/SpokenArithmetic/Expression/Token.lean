import SpokenArithmetic.Expression.Operation
import SpokenArithmetic.Text.Numeral

set_option autoImplicit false

namespace SpokenArithmetic

open Text

inductive Mark where
  | operator (operator : Operator)
  | opening
  | closing
  | comma
  | less
  | greater
  | equals
  deriving DecidableEq, Repr

namespace Mark

def all : List Mark :=
  Operator.all.map operator ++ [opening, closing, comma, less, greater, equals]

def char : Mark -> Char
  | operator o => o.symbol
  | opening => '('
  | closing => ')'
  | comma => ','
  | less => '<'
  | greater => '>'
  | equals => '='

def ofChar? (c : Char) : Option Mark :=
  all.find? fun mark => mark.char == c

def isRelation : Mark -> Bool
  | less | greater | equals => true
  | _ => false

theorem ofChar?_char (mark : Mark) : ofChar? mark.char = some mark := by
  cases mark with
  | operator o => cases o <;> decide
  | _ => decide

end Mark

inductive Lexeme where
  | numeral (text : List Char)
  | name (text : List Char)
  | mark (mark : Mark)
  deriving DecidableEq, Repr

def Lexeme.text : Lexeme -> List Char
  | numeral text => text
  | name text => text
  | mark m => [m.char]

structure Token where
  lexeme : Lexeme
  position : Nat
  deriving DecidableEq, Repr

namespace Token

def isNameStart (c : Char) : Bool :=
  c.isAlpha || c == '_'

def isNamePart (c : Char) : Bool :=
  c.isAlphanum || c == '_'

def fraction? (text : List Char) : Option (List Char × List Char) :=
  match text with
  | '.' :: rest => (digits? rest).map fun (digits, rest) => ('.' :: digits, rest)
  | _ => none

def powerOfTen? (text : List Char) : Option (List Char × List Char) :=
  match text with
  | [] => none
  | mark :: rest =>
    if mark == 'e' || mark == 'E' then
      match rest with
      | '+' :: rest => (digits? rest).map fun (digits, rest) => (mark :: '+' :: digits, rest)
      | '-' :: rest => (digits? rest).map fun (digits, rest) => (mark :: '-' :: digits, rest)
      | _ => (digits? rest).map fun (digits, rest) => (mark :: digits, rest)
    else none

/-- The longest literal at the start of a text: a numeral or a fraction, perhaps a power of ten. -/
def literal? (text : List Char) : Option (List Char × List Char) := do
  let (mantissa, rest) <- numeral? text <|> fraction? text
  match powerOfTen? rest with
  | some (power, rest) => some (mantissa ++ power, rest)
  | none => some (mantissa, rest)

def lexeme? (text : List Char) : Option (Lexeme × List Char) :=
  match literal? text with
  | some (literal, rest) => some (.numeral literal, rest)
  | none =>
    match text with
    | [] => none
    | c :: rest =>
      if isNameStart c then some (.name (c :: rest.takeWhile isNamePart), rest.dropWhile isNamePart)
      else (Mark.ofChar? c).map fun mark => (.mark mark, rest)

structure Stray where
  char : Char
  position : Nat
  deriving DecidableEq, Repr

/-- The tokens in the rest of a text, of which `skip` characters belong to the token before. -/
def scanFrom : (position skip : Nat) -> List Char -> Except Stray (List Token)
  | _, _, [] => .ok []
  | position, skip + 1, _ :: rest => scanFrom (position + 1) skip rest
  | position, 0, c :: rest =>
    if isSpace c then scanFrom (position + 1) 0 rest
    else
      match lexeme? (c :: rest) with
      | none => .error ⟨c, position⟩
      | some (lexeme, behind) => do
        let tokens <- scanFrom (position + 1) (rest.length - behind.length) rest
        return ⟨lexeme, position⟩ :: tokens

/-- The tokens of a text. Blanks at its end are no part of it. -/
def scan (text : List Char) : Except Stray (List Token) :=
  scanFrom 0 0 (stripEnd text)

end Token

end SpokenArithmetic

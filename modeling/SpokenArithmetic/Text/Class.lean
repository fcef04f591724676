import SpokenArithmetic.Text.Property

set_option autoImplicit false

namespace SpokenArithmetic.Text

def digitValue? (c : Char) : Option Nat :=
  if c.toNat < 128 then
    if c.isDigit then some (c.toNat - 48) else none
  else
    (Property.digitZeros.find? fun first => first <= c.toNat && c.toNat < first + 10).map
      fun first => c.toNat - first

def isDigit (c : Char) : Bool :=
  (digitValue? c).isSome

def isWord (c : Char) : Bool :=
  if c.toNat < 128 then c.isAlphanum || c == '_' else Property.holds Property.word c.toNat

def isSpace (c : Char) : Bool :=
  Property.holds Property.space c.toNat

/-- White space and the information separators, which are cut from the ends of a text. -/
def isBlank (c : Char) : Bool :=
  isSpace c || (0x1C <= c.toNat && c.toNat <= 0x1F)

def stripStart (text : List Char) : List Char :=
  text.dropWhile isBlank

def stripEnd (text : List Char) : List Char :=
  (text.reverse.dropWhile isBlank).reverse

def strip (text : List Char) : List Char :=
  stripEnd (stripStart text)

def stripped (text : String) : String :=
  String.ofList (strip text.toList)

theorem isBlank_of_isSpace {c : Char} (space : isSpace c = true) : isBlank c = true := by
  simp [isBlank, space]

end SpokenArithmetic.Text

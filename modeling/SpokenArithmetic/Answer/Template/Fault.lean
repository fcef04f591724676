set_option autoImplicit false

namespace SpokenArithmetic.Template

inductive Fault where
  | loneOpening
  | loneClosing
  | unclosedField
  | openingInName
  | missingConversion
  | missingColon
  | unclosedFormat
  | tooNested
  | positional (index : Nat)
  | unknownField (name : List Char)
  | tooManyDigits
  | emptyAttribute
  | unclosedIndex
  | strayAfterIndex
  | indexOutOfRange (sequence : String)
  | notIndexed (holder : String)
  | textIndex
  | noMember (message : String)
  | unknownConversion (c : Char)
  | invalidFormat (format : List Char)
  | separators
  | separatorWith (separator c : Char)
  | missingPrecision
  | unknownFormat (c : Char)
  | signInFormat
  | spaceInFormat
  | zeroInFormat
  | alternateForm
  | signAlignment
  | noFormat (kind : String)
  deriving DecidableEq, Repr

def visible (bound : Nat) (c : Char) : String :=
  if 32 < c.toNat && c.toNat < bound then c.toString
  else "\\x" ++ String.ofList (Nat.toDigits 16 c.toNat)

def Fault.message : Fault -> String
  | loneOpening => "Single '\x7b' encountered in format string"
  | loneClosing => "Single '\x7d' encountered in format string"
  | unclosedField => "expected '\x7d' before end of string"
  | openingInName => "unexpected '\x7b' in field name"
  | missingConversion => "end of string while looking for conversion specifier"
  | missingColon => "expected ':' after conversion specifier"
  | unclosedFormat => "unmatched '\x7b' in format spec"
  | tooNested => "Max string recursion exceeded"
  | positional index => s!"Replacement index {index} out of range for positional args tuple"
  | unknownField name => String.ofList name
  | tooManyDigits => "Too many decimal digits in format string"
  | emptyAttribute => "Empty attribute in format string"
  | unclosedIndex => "Missing ']' in format string"
  | strayAfterIndex => "Only '.' or '[' may follow ']' in format field specifier"
  | indexOutOfRange sequence => sequence ++ " index out of range"
  | notIndexed holder => holder ++ " is not subscriptable"
  | textIndex => "string indices must be integers, not 'str'"
  | noMember message => message
  | unknownConversion c => "Unknown conversion specifier " ++ visible 127 c
  | invalidFormat format =>
    "Invalid format specifier '" ++ String.ofList format ++ "' for object of type 'str'"
  | separators => "Cannot specify both ',' and '_'."
  | separatorWith separator c =>
    "Cannot specify '" ++ separator.toString ++ "' with '" ++ visible 128 c ++ "'."
  | missingPrecision => "Format specifier missing precision"
  | unknownFormat c => "Unknown format code '" ++ visible 128 c ++ "' for object of type 'str'"
  | signInFormat => "Sign not allowed in string format specifier"
  | spaceInFormat => "Space not allowed in string format specifier"
  | zeroInFormat => "Negative zero coercion (z) not allowed in string format specifier"
  | alternateForm => "Alternate form (#) not allowed in string format specifier"
  | signAlignment => "'=' alignment not allowed in string format specifier"
  | noFormat kind => "unsupported format string passed to " ++ kind ++ ".__format__"

end SpokenArithmetic.Template

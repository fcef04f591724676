import SpokenArithmetic.Journal

set_option autoImplicit false

namespace SpokenArithmetic

structure Banner where
  message : String
  loud : Bool := false
  chunk : String := "¡@#!-$?%^_¿"
  ending : String := "\n\n"
  spaced : Bool := false

namespace Banner

def width : Nat := 80

def bar (piece : String) : String :=
  String.join (List.replicate ((width + piece.length - 1) / piece.length) piece)

def text (banner : Banner) : String :=
  let bar := bar (if banner.loud then banner.chunk else "-")
  let body :=
    if banner.loud then
      banner.chunk ++ "\n" ++ banner.chunk ++ " " ++ banner.message ++ "\n" ++ banner.chunk ++ "\n"
    else "- " ++ banner.message ++ "\n"
  (if banner.spaced then "\n" else "") ++ bar ++ "\n" ++ body ++ bar ++ banner.ending

def event (banner : Banner) : Event :=
  .printed banner.text

def ofError (explanation caller : String) (spaced : Bool) : Banner :=
  { message := "ERROR: " ++ explanation ++ " in " ++ caller, loud := true, spaced }

end Banner

/-- A text that is too long, cut to a length, with three points behind it. A length below zero counts
from the end of the text. -/
def truncated (text : String) (limit : Int) : String :=
  if limit < text.length then
    let kept := if limit < 0 then text.length - limit.natAbs else limit.toNat
    String.ofList (text.toList.take kept) ++ "..."
  else text

def phraseWidth : Int := 64

end SpokenArithmetic

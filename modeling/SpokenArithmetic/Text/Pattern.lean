import SpokenArithmetic.Text.Class

set_option autoImplicit false

namespace SpokenArithmetic.Text

/-- Tells what was found at the start of a text and what follows the match, which is not empty. -/
abbrev Pattern (A : Type) := (before : Option Char) -> (text : List Char) -> Option (A × List Char)

namespace Pattern

variable {A B : Type}

def unlessBehind (isBarred : Char -> Bool) (pattern : Pattern A) : Pattern A := fun before text =>
  if before.any isBarred then none else pattern before text

/-- Replaces the matches in the rest of a text, of which `skip` characters belong to a match. -/
def replaceFrom (pattern : Pattern A) (render : A -> List Char) :
    (before : Option Char) -> (skip : Nat) -> List Char -> List Char
  | _, _, [] => []
  | _, skip + 1, c :: rest => replaceFrom pattern render (some c) skip rest
  | before, 0, c :: rest =>
    match pattern before (c :: rest) with
    | some (found, behind) =>
      render found ++ replaceFrom pattern render (some c) (rest.length - behind.length) rest
    | none => c :: replaceFrom pattern render (some c) 0 rest

def replace (pattern : Pattern A) (render : A -> List Char) (text : List Char) : List Char :=
  replaceFrom pattern render none 0 text

def complaintFrom (pattern : Pattern A) (complain : A -> Option B) :
    (before : Option Char) -> (skip : Nat) -> List Char -> Option B
  | _, _, [] => none
  | _, skip + 1, c :: rest => complaintFrom pattern complain (some c) skip rest
  | before, 0, c :: rest =>
    match pattern before (c :: rest) with
    | some (found, behind) =>
      complain found <|>
        complaintFrom pattern complain (some c) (rest.length - behind.length) rest
    | none => complaintFrom pattern complain (some c) 0 rest

def complaint? (pattern : Pattern A) (complain : A -> Option B) (text : List Char) : Option B :=
  complaintFrom pattern complain none 0 text

end Pattern

def after? : (start text : List Char) -> Option (List Char)
  | [], text => some text
  | _ :: _, [] => none
  | c :: start, d :: text => if c = d then after? start text else none

def skipSpace (text : List Char) : List Char :=
  text.dropWhile isSpace

def gap? (text : List Char) : Option (List Char) :=
  if text.head?.any isSpace then some (skipSpace text) else none

def literally (phrase : List Char) : Pattern Unit := fun _ text =>
  (after? phrase text).map fun rest => ((), rest)

def asWords (phrase : List Char) : Pattern Unit :=
  Pattern.unlessBehind isWord fun _ text => do
    let rest <- after? phrase text
    if rest.head?.any isWord then none else some ((), rest)

theorem after?_eq_some {start text rest : List Char} :
    after? start text = some rest ↔ text = start ++ rest := by
  induction start generalizing text with
  | nil => simp [after?, eq_comm]
  | cons c start ih =>
    cases text with
    | nil => simp [after?]
    | cons d text =>
      by_cases same : c = d
      next =>
        subst same
        simp [after?, ih]
      next => simp [after?, same, Ne.symm same]

end SpokenArithmetic.Text

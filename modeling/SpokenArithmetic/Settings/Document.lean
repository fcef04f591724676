import SpokenArithmetic.Text.Case
import SpokenArithmetic.Text.Quoted
import SpokenArithmetic.Text.Pattern

set_option autoImplicit false

namespace SpokenArithmetic.Settings

open Text

/-- Keys and their values, in the order in which the keys were first set. -/
abbrev Entries := List (String × String)

namespace Entries

def keys (entries : Entries) : List String :=
  entries.map (·.1)

def find? (key : String) (entries : Entries) : Option String :=
  entries.lookup key

def put (key value : String) : Entries -> Entries
  | [] => [(key, value)]
  | (other, old) :: rest =>
    if other = key then (key, value) :: rest else (other, old) :: put key value rest

theorem find?_put_self (key value : String) (entries : Entries) :
    find? key (put key value entries) = some value := by
  induction entries with
  | nil => simp [put, find?]
  | cons entry rest ih =>
    obtain ⟨other, old⟩ := entry
    by_cases same : other = key
    next => simp [put, find?, same]
    next =>
      have differs : (key == other) = false := by simpa using fun h => same h.symm
      simpa [put, find?, same, List.lookup_cons, differs] using ih

theorem find?_put_of_ne {key other : String} (differs : other ≠ key) (value : String)
    (entries : Entries) : find? other (put key value entries) = find? other entries := by
  induction entries with
  | nil =>
    have differs' : (other == key) = false := by simpa using differs
    simp [put, find?, List.lookup_cons, differs']
  | cons entry rest ih =>
    obtain ⟨first, old⟩ := entry
    by_cases same : first = key
    next =>
      subst same
      have differs' : (other == first) = false := by simpa using differs
      simp [put, find?, List.lookup_cons, differs']
    next =>
      by_cases hit : other == first
      next => simp [put, find?, same, List.lookup_cons, hit]
      next => simpa [put, find?, same, List.lookup_cons, hit] using ih

end Entries

structure Document where
  fallback : Entries
  sections : List (String × Entries)

def fallbackName : String := "DEFAULT"

inductive LookupFault where
  | noSection (name : String)
  | noOption (key name : String)
  | unknownReference (key name reference raw : String)
  | malformedReference (rest : String)
  | strayPercent (rest : String)
  | tooDeep (key name raw : String)
  | percentRefused (value : String) (position : Nat)
  deriving DecidableEq, Repr

def maxReferences : Nat := 10

def LookupFault.message : LookupFault -> String
  | noSection name => "No section: " ++ inQuotes name
  | noOption key name => "No option " ++ inQuotes key ++ " in section: " ++ inQuotes name
  | unknownReference key name reference raw =>
    "Bad value substitution: option " ++ inQuotes key ++ " in section " ++ inQuotes name ++
      " contains an interpolation key " ++ inQuotes reference ++
      " which is not a valid option name. Raw value: " ++ inQuotes raw
  | malformedReference rest => "bad interpolation variable reference " ++ inQuotes rest
  | strayPercent rest => "'%' must be followed by '%' or '(', found: " ++ inQuotes rest
  | tooDeep key name raw =>
    "Recursion limit exceeded in value substitution: option " ++ inQuotes key ++ " in section " ++
      inQuotes name ++ s!" contains an interpolation key which cannot be substituted in {maxReferences}"
      ++ " steps. Raw value: " ++ inQuotes raw
  | percentRefused value position =>
    "invalid interpolation syntax in " ++ inQuotes value ++ s!" at position {position}"

namespace Reference

def pattern : Pattern (List Char) := fun _ text => do
  let rest <- after? ['%', '('] text
  let key := rest.takeWhile (· != ')')
  let behind <- after? [')', 's'] (rest.dropWhile (· != ')'))
  if key.isEmpty then none else some (key, behind)

def fillFrom (malformed : List Char -> LookupFault) (unknown : String -> LookupFault)
    (value? : String -> Option String) (expand : List Char -> Except LookupFault (List Char)) :
    (rounds : Nat) -> List Char -> Except LookupFault (List Char)
  | 0, _ => .ok []
  | rounds + 1, text =>
    match text with
    | [] => .ok []
    | '%' :: '%' :: rest => ('%' :: ·) <$> fillFrom malformed unknown value? expand rounds rest
    | '%' :: '(' :: _ =>
      match pattern none text with
      | none => .error (malformed text)
      | some (key, rest) =>
        let key := String.ofList (lower key)
        match value? key with
        | none => .error (unknown key)
        | some value => do
          let filled <-
            if value.toList.contains '%' then expand value.toList else .ok value.toList
          (filled ++ ·) <$> fillFrom malformed unknown value? expand rounds rest
    | '%' :: _ => .error (.strayPercent (String.ofList text))
    | c :: rest => (c :: ·) <$> fillFrom malformed unknown value? expand rounds rest

/-- Fills the references of a text, and of their values down to so many levels. -/
def fill (tooDeep : LookupFault) (unknown : String -> LookupFault)
    (value? : String -> Option String) : (levels : Nat) -> List Char ->
    Except LookupFault (List Char)
  | 0, _ => .error tooDeep
  | levels + 1, text =>
    fillFrom (fun rest => .malformedReference (String.ofList rest)) unknown value?
      (fill tooDeep unknown value? levels) text.length text

def strayPercent? (value : List Char) : Option Nat :=
  let single := (literally ['%', '%']).replace (fun _ => []) value
  let plain := pattern.replace (fun _ => []) single
  if plain.contains '%' then some (plain.takeWhile (· != '%')).length else none

end Reference

namespace Document

def empty : Document :=
  { fallback := [], sections := [] }

def sectionNames (document : Document) : List String :=
  document.sections.map (·.1)

def section? (document : Document) (name : String) : Option Entries :=
  document.sections.lookup name

def hasSection (document : Document) (name : String) : Bool :=
  document.sectionNames.contains name

def keys (document : Document) (name : String) : Except LookupFault (List String) :=
  match document.section? name with
  | none => .error (.noSection name)
  | some entries =>
    .ok (entries.keys ++ document.fallback.keys.filter (!entries.keys.contains ·))

def raw? (document : Document) (entries : Entries) (key : String) : Option String :=
  entries.find? key <|> document.fallback.find? key

def hasKey (document : Document) (name key : String) : Bool :=
  match document.section? name with
  | none => false
  | some entries => (document.raw? entries (lowered key)).isSome

def get (document : Document) (name key : String) : Except LookupFault String :=
  match document.section? name with
  | none => .error (.noSection name)
  | some entries =>
    match document.raw? entries (lowered key) with
    | none => .error (.noOption (lowered key) name)
    | some raw =>
      String.ofList <$> Reference.fill (.tooDeep (lowered key) name raw)
        (fun reference => .unknownReference (lowered key) name reference raw)
        (document.raw? entries) maxReferences raw.toList

def changeSection (name : String) (change : Entries -> Entries) :
    List (String × Entries) -> List (String × Entries)
  | [] => []
  | (other, entries) :: rest =>
    if other = name then (other, change entries) :: rest
    else (other, entries) :: changeSection name change rest

/-- Sets a key of a section. A value with a stray percent sign is refused. -/
def set (document : Document) (name key value : String) : Except LookupFault Document :=
  match Reference.strayPercent? value.toList with
  | some position => .error (.percentRefused value position)
  | none =>
    let change := Entries.put (lowered key) value
    if name = "" || name = fallbackName then
      .ok { document with fallback := change document.fallback }
    else if document.hasSection name then
      .ok { document with sections := changeSection name change document.sections }
    else .error (.noSection name)

end Document

end SpokenArithmetic.Settings

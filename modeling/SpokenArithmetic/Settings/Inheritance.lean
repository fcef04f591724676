import SpokenArithmetic.Journal
import SpokenArithmetic.Settings.Document

set_option autoImplicit false

namespace SpokenArithmetic.Settings

open Text

inductive BlockFault where
  | missingBlock (name : String)
  | cycle (name : String)
  | lookup (fault : LookupFault)
  deriving DecidableEq, Repr

def BlockFault.message : BlockFault -> String
  | missingBlock name => "Configuration block doesn't exist: [" ++ name ++ "] Check spelling?"
  | cycle name => "Configuration inheritance cycle at [" ++ name ++ "]"
  | lookup fault => fault.message

def defaultBlock : String := "default"

def parentKey : String := "inherits"

namespace Document

def checkBlock (document : Document) (name : String) : Except BlockFault Unit :=
  if document.hasSection name then .ok () else .error (.missingBlock name)

def parent? (document : Document) (block : String) : Except BlockFault (Option String) := do
  if document.hasKey block parentKey then
    let value <- (document.get block parentKey).mapError .lookup
    let parent := stripped value
    document.checkBlock parent
    return some parent
  else return none

-- The ancestors of `block` behind those already found, nearest first. A round finds a new one.
def ancestorsFrom (document : Document) (block : String) :
    (rounds : Nat) -> (current : String) -> (found : List String) ->
    Except BlockFault (List String)
  | 0, _, found => .ok found
  | rounds + 1, current, found => do
    match <- document.parent? current with
    | none => return found
    | some parent =>
      if parent = block || found.contains parent then .error (.cycle parent)
      else ancestorsFrom document block rounds parent (found ++ [parent])

def ancestors (document : Document) (block : String) : Except BlockFault (List String) :=
  document.ancestorsFrom block (document.sections.length + 1) block []

def collect (document : Document) (name : String) :
    (keys : List String) -> Entries -> Except BlockFault Entries
  | [], collected => .ok collected
  | key :: rest, collected => do
    let value <- (document.get name key).mapError .lookup
    collect document name rest (collected.put key value)

def collectBlocks (document : Document) : List String -> Entries -> Except BlockFault Entries
  | [], collected => .ok collected
  | name :: rest, collected => do
    let keys <- (document.keys name).mapError .lookup
    collectBlocks document rest (<- document.collect name keys collected)

/-- What a block inherits: the values of its ancestors for keys that it does not have. -/
def inherited (document : Document) (block : String) (ancestors : List String) :
    Except BlockFault Entries := do
  let own <- (document.keys block).mapError .lookup
  let collected <- document.collectBlocks ancestors.reverse []
  return collected.filter (!own.contains ·.1)

def missingKeys (document : Document) (block : String) : Except BlockFault (List String) := do
  document.checkBlock defaultBlock
  let own <- (document.keys block).mapError .lookup
  let keys <- (document.keys defaultBlock).mapError .lookup
  return keys.filter (!own.contains ·)

end Document

structure Changed where
  document : Document
  fault : Option BlockFault

structure Change where
  key : String
  value : Except LookupFault String
  events : List Event

def Document.setAll (block : String) : List Change -> Document -> Told Changed
  | [], document => pure ⟨document, none⟩
  | change :: rest, document => do
    Told.tell change.events
    match change.value.bind (document.set block change.key) with
    | .error fault => return ⟨document, some (.lookup fault)⟩
    | .ok document => setAll block rest document

end SpokenArithmetic.Settings

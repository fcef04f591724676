import SpokenArithmetic.Answer.Template.Description
import SpokenArithmetic.Text.Quoted

set_option autoImplicit false

namespace SpokenArithmetic.Template

inductive Role where
  | operation
  | method
  | maker
  deriving DecidableEq, Repr

structure Member where
  owner : Kind
  role : Role
  description : Description
  deriving DecidableEq, Repr

namespace Member

def name (m : Member) : String :=
  m.description.1

def call (m : Member) : String :=
  m.description.2.1

def text (m : Member) : String :=
  m.description.2.2

end Member

namespace Kind

def own? (owner : Kind) (name : String) : Option Member :=
  ((owner.operations.map (Member.mk owner .operation) ++ owner.methods.map (Member.mk owner .method)
    ++ owner.makers.map (Member.mk owner .maker)).find? (·.name == name))

def member? (k : Kind) (name : String) : Option Member :=
  k.lineage.findSome? (·.own? name)

theorem name_of_own? {owner : Kind} {name : String} {m : Member} (own : owner.own? name = some m) :
    m.name = name := by
  simpa using List.find?_some own

theorem owner_of_own? {owner : Kind} {name : String} {m : Member} (own : owner.own? name = some m) :
    m.owner = owner := by
  have among := List.mem_of_find?_eq_some own
  simp only [List.mem_append, List.mem_map] at among
  rcases among with (⟨_, _, rfl⟩ | ⟨_, _, rfl⟩) | ⟨_, _, rfl⟩ <;> rfl

theorem of_member? {k : Kind} {name : String} {m : Member} (found : k.member? name = some m) :
    m.name = name ∧ m.owner ∈ k.lineage := by
  obtain ⟨owner, ancestor, own⟩ := List.exists_of_findSome?_eq_some found
  exact ⟨name_of_own? own, owner_of_own? own ▸ ancestor⟩

end Kind

inductive Found where
  | text (chars : List Char)
  | nothing
  | kind (k : Kind)
  | row (kinds : List Kind)
  | member (member : Member)
  | bound (member : Member) (value : Found)
  deriving DecidableEq, Repr

namespace Found

def ofString (text : String) : Found :=
  .text text.toList

def kindOf : Found -> Kind
  | text _ => .text
  | nothing => .nothing
  | kind _ => .kind
  | row _ => .row
  | member m => if m.role = .operation then .operation else .method
  | bound m _ => if m.role = .operation then .boundOperation else .boundMethod

def kindShown (k : Kind) : String :=
  "<class '" ++ k.name ++ "'>"

def rowShown : List Kind -> String
  | [single] => "(" ++ kindShown single ++ ",)"
  | kinds => "(" ++ ", ".intercalate (kinds.map kindShown) ++ ")"

def memberShown (m : Member) : String :=
  (if m.role = .operation then "<slot wrapper '" else "<method '") ++ m.name ++ "' of '"
    ++ m.owner.name ++ "' objects>"

def boundShown (m : Member) (value : Kind) : String :=
  (if m.role = .operation then "<method-wrapper '" ++ m.name ++ "'"
    else "<built-in method " ++ m.name) ++ " of " ++ value.name ++ " object>"

def shown : Found -> List Char
  | text chars => chars
  | nothing => "None".toList
  | kind k => (kindShown k).toList
  | row kinds => (rowShown kinds).toList
  | member m => (memberShown m).toList
  | bound m value => (boundShown m value.kindOf).toList

def quoted : Found -> List Char
  | text chars => Text.quoted chars
  | other => other.shown

def quotedAscii : Found -> List Char
  | text chars => Text.quotedAscii chars
  | other => other.shown

def holder : Found -> String
  | kind k => "type object '" ++ k.name ++ "'"
  | other => "'" ++ other.kindOf.name ++ "' object"

def lacking (name : String) (found : Found) : String :=
  match found, name with
  | kind _, "__abstractmethods__" => name
  | _, _ => found.holder ++ " has no attribute '" ++ name ++ "'"

def described (text : String) : Found :=
  if text.isEmpty then nothing else ofString text

def ofKind? (k : Kind) : String -> Option Found
  | "__name__" | "__qualname__" => some (ofString k.name)
  | "__module__" => some (ofString "builtins")
  | "__doc__" => some (described k.description)
  | "__text_signature__" => some (described k.call)
  | "__mro__" => some (row k.lineage)
  | "__bases__" => some (row k.lineage.tail)
  | "__base__" => some (k.lineage.tail.head?.elim nothing kind)
  | _ => none

def ofMember? (m : Member) : String -> Option Found
  | "__name__" => some (ofString m.name)
  | "__qualname__" => some (ofString (m.owner.name ++ "." ++ m.name))
  | "__objclass__" => some (kind m.owner)
  | "__doc__" => some (described m.text)
  | "__text_signature__" => some (described m.call)
  | _ => none

def ofBound? (m : Member) (value : Found) (name : String) : Option Found :=
  let place : Kind :=
    match value with
    | kind k => k
    | other => other.kindOf
  if name = "__self__" then some (if m.name = "maketrans" then nothing else value)
  else if m.role = .operation then ofMember? m name
  else
    match name with
    | "__name__" => some (ofString m.name)
    | "__qualname__" => some (ofString (place.name ++ "." ++ m.name))
    | "__module__" => some nothing
    | "__doc__" => some (described m.text)
    | "__text_signature__" => some (described m.call)
    | _ => none

def bind (value : Found) (m : Member) : Found :=
  if m.role = .maker then bound m (kind value.kindOf) else bound m value

def memberOfKind? (k : Kind) (name : String) : Option Found :=
  match k.member? name with
  | some m => some (if m.role = .maker then bound m (kind k) else member m)
  | none => (Kind.kind.member? name).map (bind (kind k))

def special? (name : String) : Found -> Option Found
  | kind k => ofKind? k name
  | member m => ofMember? m name
  | bound m value => ofBound? m value name
  | other => if name = "__doc__" then some (described other.kindOf.description) else none

def pick? (name : String) (found : Found) : Option Found :=
  if name = "__class__" then some (kind found.kindOf)
  else
    found.special? name <|>
      match found with
      | kind k => memberOfKind? k name
      | other => (other.kindOf.member? name).map (bind other)

end Found

end SpokenArithmetic.Template

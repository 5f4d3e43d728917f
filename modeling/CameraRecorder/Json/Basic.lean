/-!
# Structured text values

The values that settings, events and reports are written in. An object keeps the order of its
members.
-/

namespace CameraRecorder

/-- A value of the structured text format. Numbers are whole. -/
inductive Json where
  | null
  | flag (b : Bool)
  | number (n : Int)
  | text (s : String)
  | list (items : List Json)
  | object (members : List (String × Json))
deriving Repr

namespace Json

/-- The number of a counter. -/
def ofNat (n : Nat) : Json := .number n

/-- A value that may be missing. -/
def ofOption {α : Type} (f : α → Json) : Option α → Json
  | none => .null
  | some a => f a

/-- The value of a member. -/
def member? (name : String) : Json → Option Json
  | .object members => members.lookup name
  | _ => none

def text? : Json → Option String
  | .text s => some s
  | _ => none

def flag? : Json → Option Bool
  | .flag b => some b
  | _ => none

/-- The number, if the value is one that is not negative. -/
def nat? : Json → Option Nat
  | .number (.ofNat n) => some n
  | _ => none

def items? : Json → Option (List Json)
  | .list items => some items
  | _ => none

/-- Adds a member to members in ascending order of their names. -/
def insertMember (name : String) (value : Json) : List (String × Json) → List (String × Json)
  | [] => [(name, value)]
  | (other, first) :: rest =>
    if name < other then (name, value) :: (other, first) :: rest
    else (other, first) :: insertMember name value rest

mutual

/-- The value with the members of all its objects in ascending order of their names. -/
def sorted : Json → Json
  | .list items => .list (sortedItems items)
  | .object members => .object (sortedMembers members)
  | .null => .null
  | .flag b => .flag b
  | .number n => .number n
  | .text s => .text s

/-- The items, each of them sorted. -/
def sortedItems : List Json → List Json
  | [] => []
  | item :: rest => sorted item :: sortedItems rest

/-- The members in order, each of them sorted. -/
def sortedMembers : List (String × Json) → List (String × Json)
  | [] => []
  | (name, value) :: rest => insertMember name (sorted value) (sortedMembers rest)

end

end Json

end CameraRecorder

import CameraRecorder.Json.Scanner

/-!
# Reading structured text by shape

A reader knows the shape of the value it expects. It reads a document from left to right and stops
at the first fault; what it gives is the value in full: the members of an object stand in the order
in which the shape declares them, and those left out hold their defaults.

An object may also be written as a list of its members in declared order, of which the last ones
may be left out if they have defaults. Members of unknown name are skipped.
-/

namespace CameraRecorder.Json

/-- Reads one value and gives the rest of the document. -/
abbrev Reader := List Char → Except Fault (Json × List Char)

/-- The fault of a value that is not of the expected shape. Scalars are read first, so a fault
inside one comes before the mismatch. -/
def unexpected (cs : List Char) : Fault :=
  let mismatchAfter {α : Type} (scanned : Except Fault α) : Fault :=
    match scanned with
    | .error fault => fault
    | .ok _ => .mismatch
  match cs with
  | [] => .truncated
  | 'n' :: rest => mismatchAfter (scanWord "ull".toList rest)
  | 't' :: rest => mismatchAfter (scanWord "rue".toList rest)
  | 'f' :: rest => mismatchAfter (scanWord "alse".toList rest)
  | '-' :: rest => mismatchAfter (scanNumber rest)
  | '"' :: rest => mismatchAfter (scanText rest)
  | '[' :: _ => .mismatch
  | '\x7b' :: _ => .mismatch
  | c :: rest => if isDigit c then mismatchAfter (scanNumber (c :: rest)) else .malformed

namespace Reader

/-- A number of plain digits below `bound`. -/
def below (bound : Nat) : Reader := fun cs =>
  match skipBlanks cs with
  | c :: rest =>
    if isDigit c then do
      let (value, rest) ← scanNumber (c :: rest)
      match value with
      | some n => if n < bound then .ok (.ofNat n, rest) else .error .mismatch
      | none => .error .mismatch
    else .error (unexpected (c :: rest))
  | [] => .error .truncated

def flag : Reader := fun cs =>
  match skipBlanks cs with
  | 't' :: rest => (scanWord "rue".toList rest).map fun rest => (.flag true, rest)
  | 'f' :: rest => (scanWord "alse".toList rest).map fun rest => (.flag false, rest)
  | cs => .error (unexpected cs)

def text : Reader := fun cs =>
  match skipBlanks cs with
  | '"' :: rest => (scanText rest).map fun (s, rest) => (.text s, rest)
  | cs => .error (unexpected cs)

def null : Reader := fun cs =>
  match skipBlanks cs with
  | 'n' :: rest => (scanWord "ull".toList rest).map fun rest => (.null, rest)
  | cs => .error (unexpected cs)

/-- One of the given names. It may also stand as the only member of an object, with the value
`null`. An object of which the first member has no name is no document at all. -/
def choice (names : List String) : Reader := fun cs =>
  match skipBlanks cs with
  | [] => .error .truncated
  | '"' :: rest => do
    let (name, rest) ← scanText rest
    if name ∈ names then .ok (.text name, rest) else .error .mismatch
  | '\x7b' :: rest => do
    let (name, rest) ← scanText (← scanMark '"' rest)
    if name ∈ names then do
      let rest ← scanMark ':' rest
      let (_, rest) ← null rest
      let rest ← scanMark '\x7d' rest
      return (.text name, rest)
    else .error .mismatch
  | _ => .error .malformed

/-- A value of the given shape, or `null`. -/
def nullable (value : Reader) : Reader := fun cs =>
  match skipBlanks cs with
  | 'n' :: rest => (scanWord "ull".toList rest).map fun rest => (.null, rest)
  | cs => value cs

/-- Reads the items of a list, up to its closing bracket. -/
def items (item : Reader) :
    List Char → Bool → List Char → Except Fault (List Json × List Char)
  | [], _, _ => .error .truncated
  | _ :: bound, isFirst, cs => do
    match ← nextItem isFirst cs with
    | none => .ok ([], cs)
    | some cs => do
      let (value, rest) ← item cs
      let (values, rest) ← items item bound false rest
      return (value :: values, rest)

/-- A list of values of one shape. -/
def list (item : Reader) : Reader := fun cs =>
  match skipBlanks cs with
  | '[' :: rest => do
    let (values, rest) ← items item rest true rest
    let rest ← scanMark ']' rest
    return (.list values, rest)
  | cs => .error (unexpected cs)

end Reader

/-- A member that a shape declares. One without a default has to be present. -/
structure Field where
  name : String
  read : Reader
  default? : Option Json := none

namespace Field

/-- The value of a member that is left out. -/
def absent (f : Field) : Except Fault Json :=
  match f.default? with
  | some value => .ok value
  | none => .error .mismatch

/-- The declared members in order, each with the value found for it or its default. -/
def complete (found : List (String × Json)) : List Field → Except Fault (List (String × Json))
  | [] => .ok []
  | f :: fields => do
    let value ← match found.lookup f.name with
      | some value => .ok value
      | none => f.absent
    let rest ← complete found fields
    return (f.name, value) :: rest

/-- Reads the members of an object written as a list, up to its closing bracket. -/
def positional : List Field → Bool → List Char → Except Fault (List (String × Json) × List Char)
  | [], _, cs => .ok ([], cs)
  | f :: fields, isFirst, cs => do
    match ← nextItem isFirst cs with
    | none => do
      let value ← f.absent
      let (members, rest) ← positional fields isFirst cs
      return ((f.name, value) :: members, rest)
    | some cs => do
      let (value, rest) ← f.read cs
      let (members, rest) ← positional fields false rest
      return ((f.name, value) :: members, rest)

/-- Reads the members of an object, up to its closing bracket. A declared member may stand there
only once. -/
def named (fields : List Field) :
    List Char → Bool → List (String × Json) → List Char →
      Except Fault (List (String × Json) × List Char)
  | [], _, _, _ => .error .truncated
  | _ :: bound, isFirst, found, cs => do
    match ← nextMember isFirst cs with
    | none => .ok (found, cs)
    | some cs => do
      let (name, rest) ← scanText cs
      match fields.find? (·.name = name) with
      | some f =>
        if (found.lookup name).isSome then .error .mismatch
        else do
          let rest ← scanMark ':' rest
          let (value, rest) ← f.read rest
          named fields bound false ((name, value) :: found) rest
      | none => do
        let rest ← scanMark ':' rest
        let rest ← skipValue rest rest
        named fields bound false found rest

end Field

/-- An object with the declared members. -/
def Reader.object (fields : List Field) : Reader := fun cs =>
  match skipBlanks cs with
  | '[' :: rest => do
    let (members, rest) ← Field.positional fields true rest
    let rest ← scanMark ']' rest
    return (.object members, rest)
  | '\x7b' :: rest => do
    let (found, rest) ← Field.named fields rest true [] rest
    let members ← Field.complete found fields
    let rest ← scanMark '\x7d' rest
    return (.object members, rest)
  | cs => .error (unexpected cs)

/-- The value that a whole document holds. Only blanks may follow it. -/
def Reader.document (value : Reader) (document : List Char) : Except Fault Json := do
  let (result, rest) ← value document
  match skipBlanks rest with
  | [] => return result
  | _ => throw .malformed

end CameraRecorder.Json

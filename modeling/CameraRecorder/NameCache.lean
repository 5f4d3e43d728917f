import CameraRecorder.Path

/-!
# File names by the batch

The files that a session's streams open at about the same time are named together. One request
brings a name for every stream; each stream takes its own, and the next request is made when a
stream finds its name gone.
-/

namespace CameraRecorder

/-- Why there is no file name. -/
inductive NameError where
  | noPaths
  | short (expected got : Nat)
  | other (reason : String)
deriving DecidableEq, Repr

def NameError.message : NameError → String
  | noPaths => "No file names returned"
  | short expected got => s!"Expected {expected} file names, got {got}"
  | other reason => reason

/-- The names still to be taken, one place for each stream. -/
structure NameCache where
  cameraId : UInt32
  slots : List (Option Path)
deriving DecidableEq, Repr

namespace NameCache

/-- A cache for a number of streams, without any name. -/
def create (cameraId : UInt32) (streamCount : Nat) : NameCache where
  cameraId := cameraId
  slots := List.replicate streamCount none

/-- Takes the name kept for a stream. -/
def take? (c : NameCache) (index : Nat) : Option (Path × NameCache) :=
  c.slots[index]?.join.map fun path => (path, { c with slots := c.slots.set index none })

/-- Keeps a batch of names, in place of those of the last one. A batch that does not name every
stream is refused, and names beyond the last stream are not kept. -/
def refill (c : NameCache) (paths : List Path) : Except NameError NameCache :=
  if paths.isEmpty then .error .noPaths
  else if paths.length < c.slots.length then .error (.short c.slots.length paths.length)
  else .ok { c with slots := (paths.take c.slots.length).map some }

/-- The next name for a stream. Only if there is none is a batch requested, with the camera and the
number of streams; `σ` is whatever the source of names keeps. -/
def next {σ : Type} (request : UInt32 → Nat → σ → Except NameError (List Path) × σ)
    (c : NameCache) (index : Nat) (source : σ) : Except NameError Path × NameCache × σ :=
  match c.take? index with
  | some (path, c) => (.ok path, c, source)
  | none =>
    let (batch, source) := request c.cameraId c.slots.length source
    match batch >>= c.refill with
    | .error e => (.error e, c, source)
    | .ok c =>
      match c.take? index with
      | some (path, c) => (.ok path, c, source)
      | none => (.error .noPaths, c, source)

end NameCache

end CameraRecorder

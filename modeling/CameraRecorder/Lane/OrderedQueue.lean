import CameraRecorder.Timestamp

/-!
# Queues in presentation order

Cell numbers wait in ascending order of timestamp. Equal timestamps keep the order of arrival.
-/

namespace CameraRecorder

/-- Cell numbers with their timestamps, the earliest first. -/
structure OrderedQueue where
  entries : List (Timestamp × Nat) := []
deriving DecidableEq, Repr

namespace OrderedQueue

def isEmpty (q : OrderedQueue) : Bool := q.entries.isEmpty

/-- Places a cell behind every entry that is not later. -/
def insert (q : OrderedQueue) (pts : Timestamp) (id : Nat) : OrderedQueue where
  entries :=
    q.entries.takeWhile (·.1 ≤ pts) ++ (pts, id) :: q.entries.dropWhile (·.1 ≤ pts)

/-- The earliest timestamp. -/
def peek? (q : OrderedQueue) : Option Timestamp := q.entries.head?.map (·.1)

def pop? (q : OrderedQueue) : Option (Nat × OrderedQueue) :=
  match q.entries with
  | [] => none
  | (_, id) :: rest => some (id, ⟨rest⟩)

/-- Takes the first entry whose cell satisfies `p`. -/
def removeFirst? (q : OrderedQueue) (p : Nat → Bool) : Option (Nat × OrderedQueue) :=
  (q.entries.find? (p ·.2)).map fun entry => (entry.2, ⟨q.entries.eraseP (p ·.2)⟩)

end OrderedQueue

end CameraRecorder

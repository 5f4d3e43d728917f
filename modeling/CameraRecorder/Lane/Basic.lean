import CameraRecorder.Lane.CellPool
import CameraRecorder.Lane.Frame
import CameraRecorder.Lane.OrderedQueue

/-!
# Lanes

A lane buffers the frames of one kind on their way to a worker. It holds as many as its pool has
cells, and gives them up in order of presentation.
-/

namespace CameraRecorder

/-- A pool of cells and the queue in which the cells in flight wait. -/
structure Lane where
  kind : LaneKind
  pool : CellPool Ticket
  queue : OrderedQueue := {}
  arrivals : Nat := 0
deriving DecidableEq, Repr

namespace Lane

/-- An empty lane with room for `capacity` frames. -/
def create (kind : LaneKind) (capacity : Nat) : Lane where
  kind := kind
  pool := CellPool.create capacity

/-- Takes a frame in. There is no answer when every cell is in flight. -/
def push? (l : Lane) (frame : Frame) : Option (Ticket × Lane) :=
  let ticket : Ticket := ⟨l.arrivals, frame⟩
  (l.pool.acquire ticket).map fun (id, pool) =>
    (ticket, { l with pool, queue := l.queue.insert frame.pts id, arrivals := l.arrivals + 1 })

/-- The timestamp of the frame to be taken next. -/
def peek? (l : Lane) : Option Timestamp := l.queue.peek?

def isEmpty (l : Lane) : Bool := l.queue.isEmpty

/-- Takes a cell out of the queue that is left after it has been chosen, and frees it. -/
def vacate? (l : Lane) (chosen : Nat × OrderedQueue) : Option (Ticket × Lane) :=
  (l.pool.release chosen.1).map fun (ticket, pool) =>
    (ticket, { l with pool, queue := chosen.2 })

/-- Takes the earliest frame out. -/
def pop? (l : Lane) : Option (Ticket × Lane) :=
  l.queue.pop?.bind l.vacate?

/-- Whether a cell holds a key frame. -/
def holdsKey (l : Lane) (id : Nat) : Bool :=
  (l.pool.content? id).any (·.frame.isKey)

/-- Throws the first frame out that is no key frame. Only a video lane does this. -/
def dropNonKey? (l : Lane) : Option (Ticket × Lane) :=
  match l.kind with
  | .video => (l.queue.removeFirst? fun id => !l.holdsKey id).bind l.vacate?
  | .audio | .thumbnail => none

/-- Frees the cells of the given entries, in order. -/
def releaseAll : List (Timestamp × Nat) → CellPool Ticket → List Ticket × CellPool Ticket
  | [], pool => ([], pool)
  | (_, id) :: rest, pool =>
    match pool.release id with
    | some (ticket, pool) =>
      let (tickets, pool) := releaseAll rest pool
      (ticket :: tickets, pool)
    | none => releaseAll rest pool

/-- Throws every frame out. -/
def drain (l : Lane) : List Ticket × Lane :=
  let (tickets, pool) := releaseAll l.queue.entries l.pool
  (tickets, { l with pool, queue := {} })

def stats (l : Lane) : PoolStats := l.pool.stats

end Lane

end CameraRecorder

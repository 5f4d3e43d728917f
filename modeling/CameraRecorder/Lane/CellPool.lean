/-!
# Cell pools

A pool owns a fixed number of cells, numbered from zero. A cell is free or in flight; one in
flight holds a value. The free cells wait on a stack: the cell released last is handed out first,
and a new pool hands its cells out in ascending order.

The number of a cell fits into 32 bits, so a pool has fewer than 2^32 cells. Numbers are naturals
here, and what is said of pools is said of such pools.
-/

namespace CameraRecorder

/-- How many cells a pool has, and how many of them are free or in flight. -/
structure PoolStats where
  capacity : Nat
  free : Nat
  inFlight : Nat
deriving DecidableEq, Repr

/-- Cells by number, and the numbers of the free ones, next to be handed out first. -/
structure CellPool (α : Type) where
  cells : List (Option α)
  free : List Nat
deriving DecidableEq, Repr

namespace CellPool

variable {α : Type}

/-- A pool with every cell free. -/
def create (capacity : Nat) : CellPool α where
  cells := List.replicate capacity none
  free := List.range capacity

/-- The number of cells, free or not. -/
def capacity (p : CellPool α) : Nat := p.cells.length

/-- The value a cell holds, if it is in flight. -/
def content? (p : CellPool α) (id : Nat) : Option α := p.cells[id]?.join

/-- Puts a value into the next free cell. There is no answer when no cell is free. -/
def acquire (p : CellPool α) (a : α) : Option (Nat × CellPool α) :=
  match p.free with
  | [] => none
  | id :: free => some (id, { cells := p.cells.set id (some a), free })

/-- Frees a cell and hands back its value. There is no answer, and nothing to free, unless the cell
is in flight. -/
def release (p : CellPool α) (id : Nat) : Option (α × CellPool α) :=
  (p.content? id).map fun a => (a, { cells := p.cells.set id none, free := id :: p.free })

def stats (p : CellPool α) : PoolStats where
  capacity := p.capacity
  free := p.free.length
  inFlight := p.capacity - p.free.length

@[simp] theorem capacity_create (n : Nat) : (create n : CellPool α).capacity = n := by
  simp [create, capacity]

@[simp] theorem content?_create (n id : Nat) : (create n : CellPool α).content? id = none := by
  simp only [create, content?, List.getElem?_replicate]
  split <;> rfl

theorem capacity_of_acquire {p q : CellPool α} {a : α} {id : Nat}
    (h : p.acquire a = some (id, q)) : q.capacity = p.capacity := by
  unfold acquire at h
  split at h
  · cases h
  · cases h; simp [capacity]

theorem capacity_of_release {p q : CellPool α} {a : α} {id : Nat}
    (h : p.release id = some (a, q)) : q.capacity = p.capacity := by
  obtain ⟨b, -, h⟩ := Option.map_eq_some_iff.mp h
  cases h
  simp [capacity]

end CellPool

end CameraRecorder

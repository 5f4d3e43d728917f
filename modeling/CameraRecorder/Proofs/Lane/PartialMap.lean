import CameraRecorder.Proofs.Lane.CellPool

/-!
# A pool is a partial map

Whoever has seen the calls to a new pool and their answers knows which cells are in flight and with
which values (`InFlight`): a cell is, from the call that acquires it to the next call that releases
it. The pool holds just these values, its free list just the other cells, and every further call is
answered accordingly (`Answers`), whatever numbers are released.
-/

namespace CameraRecorder.CellPool

variable {α : Type}

/-- A call to a pool. Any number may be released. -/
inductive Request (α : Type) where
  | acquire (a : α)
  | release (id : Nat)
deriving DecidableEq, Repr

/-- What a pool answers. A value for which no cell is free is handed back. -/
inductive Answer (α : Type) where
  | acquired (id : Nat)
  | refused (a : α)
  | released (a : α)
  | notInFlight
deriving DecidableEq, Repr

/-- The pool after a call, and the answer. -/
def serve (p : CellPool α) : Request α → Answer α × CellPool α
  | .acquire a =>
    match p.acquire a with
    | some (id, q) => (.acquired id, q)
    | none => (.refused a, p)
  | .release id =>
    match p.release id with
    | some (a, q) => (.released a, q)
    | none => (.notInFlight, p)

/-- A call that was answered. -/
structure Served (α : Type) where
  request : Request α
  answer : Answer α
deriving DecidableEq, Repr

/-- A series of calls with their answers, and the pool after them. -/
def serveAll (p : CellPool α) : List (Request α) → List (Served α) × CellPool α
  | [] => ([], p)
  | r :: rs =>
    let (answer, q) := p.serve r
    let (later, q) := q.serveAll rs
    (⟨r, answer⟩ :: later, q)

/-! ## What the calls tell -/

/-- Whether a call was answered with a cell, or was to release it. -/
def Served.Concerns (s : Served α) (id : Nat) : Prop :=
  s.answer = .acquired id ∨ s.request = .release id

/-- A cell is in flight with a value: it was acquired for the value, and no later call concerned
it. -/
def InFlight (history : List (Served α)) (id : Nat) (a : α) : Prop :=
  ∃ before after, history = before ++ ⟨.acquire a, .acquired id⟩ :: after ∧
    ∀ s ∈ after, ¬ s.Concerns id

variable {p q : CellPool α} {history : List (Served α)} {s : Served α} {id capacity : Nat} {a : α}

theorem InFlight.nil : ¬ InFlight [] id a := by
  rintro ⟨before, after, h, -⟩
  cases before <;> cases h

/-- What the last call changes. -/
theorem InFlight.concat_iff :
    InFlight (history ++ [s]) id a ↔
      s = ⟨.acquire a, .acquired id⟩ ∨ ¬ s.Concerns id ∧ InFlight history id a := by
  constructor
  · rintro ⟨before, after, h, hafter⟩
    rcases List.eq_nil_or_concat after with rfl | ⟨mid, last, rfl⟩
    · obtain ⟨-, hs⟩ := List.append_inj' h rfl
      exact .inl (List.cons.inj hs).1
    · rw [List.concat_eq_append, ← List.cons_append, ← List.append_assoc] at h
      obtain ⟨rfl, hs⟩ := List.append_inj' h rfl
      obtain rfl := (List.cons.inj hs).1
      rw [List.concat_eq_append, List.forall_mem_append] at hafter
      exact .inr ⟨hafter.2 s List.mem_cons_self, before, mid, rfl, hafter.1⟩
  · rintro (rfl | ⟨hs, before, after, rfl, hafter⟩)
    · exact ⟨history, [], rfl, List.forall_mem_nil _⟩
    · exact ⟨before, after ++ [s], by simp,
        List.forall_mem_append.mpr ⟨hafter, List.forall_mem_singleton.mpr hs⟩⟩

/-- The pool holds what the calls tell, and its free list covers the other cells. -/
structure Reflects (p : CellPool α) (capacity : Nat) (history : List (Served α)) : Prop where
  sound : p.Sound
  capacity : p.capacity = capacity
  content : ∀ id a, p.content? id = some a ↔ InFlight history id a

theorem reflects_create (capacity : Nat) : (create capacity : CellPool α).Reflects capacity [] where
  sound := sound_create capacity
  capacity := capacity_create capacity
  content id a := by simp [InFlight.nil]

theorem Reflects.content_eq_none_iff (h : p.Reflects capacity history) :
    p.content? id = none ↔ ∀ a, ¬ InFlight history id a := by
  rw [Option.eq_none_iff_forall_ne_some]
  exact forall_congr' fun a => not_congr (h.content id a)

theorem Reflects.mem_free_iff (h : p.Reflects capacity history) :
    id ∈ p.free ↔ id < capacity ∧ ∀ a, ¬ InFlight history id a := by
  rw [h.sound.mem_free_iff, h.capacity, h.content_eq_none_iff]

/-- **One call.** A pool still holds what the calls tell, the last one included. -/
theorem Reflects.serve (h : p.Reflects capacity history) (r : Request α) :
    (p.serve r).2.Reflects capacity (history ++ [⟨r, (p.serve r).1⟩]) := by
  cases r with
  | acquire a =>
    simp only [CellPool.serve]
    cases hmade : p.acquire a with
    | none =>
      refine ⟨h.sound, h.capacity, fun j b => ?_⟩
      rw [h.content, InFlight.concat_iff]
      simp [Served.Concerns]
    | some made =>
      obtain ⟨id, q⟩ := made
      obtain ⟨hfree, hcapacity, hcontent⟩ := acquire_eq_some hmade
      have hid : id < p.capacity := ((h.sound.mem_free_iff id).mp (by simp [hfree])).1
      refine ⟨h.sound.acquire hmade, hcapacity.trans h.capacity, fun j b => ?_⟩
      rw [hcontent, InFlight.concat_iff]
      by_cases hj : j = id
      · subst hj
        simp [hid, Served.Concerns]
      · simp [hj, Ne.symm hj, Served.Concerns, h.content]
  | release id =>
    simp only [CellPool.serve]
    cases hmade : p.release id with
    | none =>
      have hvacant : p.content? id = none := release_eq_none_iff.mp hmade
      refine ⟨h.sound, h.capacity, fun j b => ?_⟩
      rw [InFlight.concat_iff]
      by_cases hj : j = id
      · subst hj
        simp [hvacant, Served.Concerns]
      · simp [Ne.symm hj, Served.Concerns, h.content]
    | some made =>
      obtain ⟨a, q⟩ := made
      obtain ⟨-, -, hcapacity, hcontent⟩ := release_eq_some hmade
      refine ⟨h.sound.release hmade, hcapacity.trans h.capacity, fun j b => ?_⟩
      rw [hcontent, InFlight.concat_iff]
      by_cases hj : j = id
      · subst hj
        simp [Served.Concerns]
      · simp [hj, Ne.symm hj, Served.Concerns, h.content]

/-- **All calls.** -/
theorem Reflects.serveAll (h : p.Reflects capacity history) (rs : List (Request α)) :
    (p.serveAll rs).2.Reflects capacity (history ++ (p.serveAll rs).1) := by
  induction rs generalizing p history with
  | nil =>
    rw [CellPool.serveAll, List.append_nil]
    exact h
  | cons r rs ih =>
    have hlater := ih (h.serve r)
    rw [List.append_assoc] at hlater
    exact hlater

/-! ## How calls are answered -/

/-- How a call is answered after a series of calls. -/
inductive Answers (p : CellPool α) (history : List (Served α)) :
    Request α → Answer α × CellPool α → Prop
  /-- A value gets the cell that is first on the free list, and was not in flight. -/
  | acquired {a : α} {id : Nat} {q : CellPool α} (hid : id < p.capacity)
    (hvacant : ∀ b, ¬ InFlight history id b) (hfree : p.free = id :: q.free) :
    Answers p history (.acquire a) (.acquired id, q)
  /-- A value is handed back when every cell is in flight. -/
  | refused {a : α} (hfull : ∀ id < p.capacity, ∃ b, InFlight history id b) :
    Answers p history (.acquire a) (.refused a, p)
  /-- A cell in flight gives its value back, and is the next to be acquired. -/
  | released {a : α} {id : Nat} {q : CellPool α} (h : InFlight history id a)
    (hfree : q.free = id :: p.free) : Answers p history (.release id) (.released a, q)
  /-- Any other number changes nothing. -/
  | notInFlight {id : Nat} (h : ∀ b, ¬ InFlight history id b) :
    Answers p history (.release id) (.notInFlight, p)

theorem Reflects.answers (h : p.Reflects capacity history) (r : Request α) :
    p.Answers history r (p.serve r) := by
  cases r with
  | acquire a =>
    rw [CellPool.serve]
    cases hmade : p.acquire a with
    | none =>
      have hnone : p.free = [] := acquire_eq_none_iff.mp hmade
      refine .refused fun id hid => ?_
      by_contra hvacant
      have hmem : id ∈ p.free :=
        h.mem_free_iff.mpr ⟨Nat.lt_of_lt_of_eq hid h.capacity, not_exists.mp hvacant⟩
      rw [hnone] at hmem
      cases hmem
    | some made =>
      obtain ⟨id, q⟩ := made
      obtain ⟨hfree, -, -⟩ := acquire_eq_some hmade
      obtain ⟨hid, hvacant⟩ := h.mem_free_iff.mp (hfree ▸ List.mem_cons_self)
      exact .acquired (Nat.lt_of_lt_of_eq hid h.capacity.symm) hvacant hfree
  | release id =>
    rw [CellPool.serve]
    cases hmade : p.release id with
    | none => exact .notInFlight (h.content_eq_none_iff.mp (release_eq_none_iff.mp hmade))
    | some made =>
      obtain ⟨a, q⟩ := made
      obtain ⟨hcontent, hfree, -, -⟩ := release_eq_some hmade
      exact .released ((h.content id a).mp hcontent) hfree

/-- **A pool is a partial map from its cells to values.** After any calls to a new pool, any numbers
being released, it holds the values that are in flight, each in the cell that was acquired for it
last; its free list names the cells that are not, each once; and the two make up all cells. The next
call is answered accordingly: there is a cell for a value unless all are in flight, a cell in flight
gives its own value back, and nothing else is ever released. -/
theorem keeps_what_is_in_flight (capacity : Nat) (rs : List (Request α)) :
    let history := ((create capacity).serveAll rs).1
    let p := ((create capacity).serveAll rs).2
    (∀ r, p.Answers history r (p.serve r)) ∧
      (∀ id a, p.content? id = some a ↔ InFlight history id a) ∧
      p.free.Nodup ∧
      (∀ id, id ∈ p.free ↔ id < capacity ∧ ∀ a, ¬ InFlight history id a) ∧
      (p.free ++ p.inFlight).Perm (List.range capacity) ∧
      p.stats = ⟨capacity, p.free.length, p.inFlight.length⟩ ∧
      p.stats.free + p.stats.inFlight = capacity := by
  intro history p
  have h : p.Reflects capacity history := (reflects_create capacity).serveAll rs
  have hcover := h.sound.cover
  have hstats := h.sound.stats_eq
  rw [h.capacity] at hcover hstats
  refine ⟨h.answers, h.content, h.sound.nodup, fun id => h.mem_free_iff, hcover, hstats, ?_⟩
  have hlength := hcover.length_eq
  rw [List.length_append, List.length_range] at hlength
  rw [hstats]
  exact hlength

/-- A cell is released once, and then acquired again before those that were never used. -/
example : (((create 3).serveAll
      [.acquire 'a', .acquire 'b', .release 0, .release 0, .release 7, .acquire 'c',
        .release 0]).1.map (·.answer))
    = [.acquired 0, .acquired 1, .released 'a', .notInFlight, .notInFlight, .acquired 0,
        .released 'c'] := by
  decide

end CameraRecorder.CellPool

import CameraRecorder.Proofs.Lane.Operations

/-!
# A lane is a bounded, stable priority queue

`BoundedQueue` is what a lane is for, without cells: one list of frames in order of presentation,
never longer than its capacity. A lane and such a queue are asked the same things (`Request`) and
give the same answers (`Answer`), for as long as they are asked; the relation that carries this from
one request to the next is `Lane.Refines`.
-/

namespace CameraRecorder

/-- What a lane can be asked. -/
inductive Lane.Request where
  | push (frame : Frame)
  | pop
  | dropNonKey
  | drain
  | peek
  | isEmpty
  | stats
deriving DecidableEq, Repr

/-- What a lane answers. A frame that is refused is handed back. -/
inductive Lane.Answer where
  | taken
  | refused (frame : Frame)
  | popped (frame : Option Frame)
  | dropped (found : Bool)
  | drained (count : Nat)
  | peeked (pts : Option Timestamp)
  | empty (yes : Bool)
  | counts (stats : PoolStats)
deriving DecidableEq, Repr

/-- Frames in order of presentation, no more than the capacity. -/
structure BoundedQueue where
  kind : LaneKind
  capacity : Nat
  frames : List Frame := []
deriving DecidableEq, Repr

namespace BoundedQueue

/-- The queue after a request, and its answer. A frame is placed behind every frame that is not
later. -/
def serve (q : BoundedQueue) : Lane.Request → Lane.Answer × BoundedQueue
  | .push frame =>
    if q.frames.length < q.capacity then
      (.taken, { q with frames := q.frames.orderedInsert Frame.Before frame })
    else (.refused frame, q)
  | .pop => (.popped q.frames.head?, { q with frames := q.frames.tail })
  | .dropNonKey =>
    if q.kind = .video then
      (.dropped (q.frames.any (!·.isKey)), { q with frames := q.frames.eraseP (!·.isKey) })
    else (.dropped false, q)
  | .drain => (.drained q.frames.length, { q with frames := [] })
  | .peek => (.peeked (q.frames.head?.map (·.pts)), q)
  | .isEmpty => (.empty q.frames.isEmpty, q)
  | .stats =>
    (.counts ⟨q.capacity, q.capacity - q.frames.length, q.frames.length⟩, q)

/-- The answers to a series of requests, and the queue after them. -/
def serveAll (q : BoundedQueue) : List Lane.Request → List Lane.Answer × BoundedQueue
  | [] => ([], q)
  | r :: rs =>
    let (answer, q) := q.serve r
    let (answers, q) := q.serveAll rs
    (answer :: answers, q)

theorem capacity_serve (q : BoundedQueue) (r : Lane.Request) :
    (q.serve r).2.capacity = q.capacity := by
  cases r with
  | push f => simp only [serve]; split <;> rfl
  | dropNonKey => simp only [serve]; split <;> rfl
  | pop | drain | peek | isEmpty | stats => rfl

theorem capacity_serveAll (q : BoundedQueue) (rs : List Lane.Request) :
    (q.serveAll rs).2.capacity = q.capacity := by
  induction rs generalizing q with
  | nil => rfl
  | cons r rs ih => exact (ih _).trans (q.capacity_serve r)

end BoundedQueue

namespace Lane

/-- The lane after a request, and its answer. -/
def serve (l : Lane) : Request → Answer × Lane
  | .push frame =>
    match l.push? frame with
    | some (_, l) => (.taken, l)
    | none => (.refused frame, l)
  | .pop =>
    match l.pop? with
    | some (ticket, l) => (.popped (some ticket.frame), l)
    | none => (.popped none, l)
  | .dropNonKey =>
    match l.dropNonKey? with
    | some (_, l) => (.dropped true, l)
    | none => (.dropped false, l)
  | .drain =>
    let (tickets, l) := l.drain
    (.drained tickets.length, l)
  | .peek => (.peeked l.peek?, l)
  | .isEmpty => (.empty l.isEmpty, l)
  | .stats => (.counts l.stats, l)

/-- The answers to a series of requests, and the lane after them. -/
def serveAll (l : Lane) : List Request → List Answer × Lane
  | [] => ([], l)
  | r :: rs =>
    let (answer, l) := l.serve r
    let (answers, l) := l.serveAll rs
    (answer :: answers, l)

/-! ## One request -/

/-- The frames that wait in a sound lane are those of the queue. -/
structure Refines (l : Lane) (q : BoundedQueue) : Prop where
  sound : l.Sound
  kind : q.kind = l.kind
  capacity : q.capacity = l.pool.capacity
  frames : q.frames = l.tickets.map (·.frame)

variable {l : Lane} {q : BoundedQueue}

theorem refines_create (kind : LaneKind) (capacity : Nat) :
    (create kind capacity).Refines { kind, capacity } :=
  ⟨sound_create kind capacity, rfl, (CellPool.capacity_create capacity).symm, rfl⟩

theorem Refines.of_unmoved (h : l.Refines q) {l' : Lane} (hs : l'.Sound) (hu : Unmoved l l')
    {frames : List Frame} (hf : frames = l'.tickets.map (·.frame)) :
    l'.Refines { q with frames } :=
  ⟨hs, h.kind.trans hu.kind.symm, h.capacity.trans hu.capacity.symm, hf⟩

theorem Refines.push (h : l.Refines q) (f : Frame) :
    (l.serve (.push f)).1 = (q.serve (.push f)).1
      ∧ (l.serve (.push f)).2.Refines (q.serve (.push f)).2 := by
  have hlen : q.frames.length = l.tickets.length := by rw [h.frames, List.length_map]
  simp only [serve, BoundedQueue.serve]
  cases hp : l.push? f with
  | none =>
    have hfull := h.sound.push_eq_none_iff.mp hp
    rw [if_neg (by rw [hlen, h.capacity]; omega)]
    exact ⟨rfl, h⟩
  | some r =>
    obtain ⟨t, l'⟩ := r
    obtain ⟨hs, rfl, htickets, -, hu⟩ := h.sound.push hp
    have hroom : q.frames.length < q.capacity := by
      have hne : l.tickets.length ≠ l.pool.capacity := fun heq => by
        rw [h.sound.push_eq_none_iff.mpr heq] at hp
        cases hp
      have := h.sound.length_le
      rw [hlen, h.capacity]
      omega
    rw [if_pos hroom]
    refine ⟨rfl, h.of_unmoved hs hu ?_⟩
    rw [htickets, h.frames]
    -- tickets are placed by the timestamps of their frames
    exact (List.map_orderedInsert Ticket.Before Frame.Before (·.frame) l.tickets ⟨l.arrivals, f⟩
      (fun _ _ => Iff.rfl) (fun _ _ => Iff.rfl)).symm

theorem Refines.pop (h : l.Refines q) :
    (l.serve .pop).1 = (q.serve .pop).1 ∧ (l.serve .pop).2.Refines (q.serve .pop).2 := by
  simp only [serve, BoundedQueue.serve]
  cases hp : l.pop? with
  | none =>
    have hnil : q.frames = [] := by rw [h.frames, h.sound.pop_eq_none_iff.mp hp]; rfl
    refine ⟨by simp [hnil], ?_⟩
    rw [hnil, List.tail_nil, ← hnil]
    exact h
  | some r =>
    obtain ⟨t, l'⟩ := r
    obtain ⟨hs, htickets, -, hu⟩ := h.sound.pop hp
    have hcons : q.frames = t.frame :: l'.tickets.map (·.frame) := by rw [h.frames, htickets]; rfl
    refine ⟨by simp [hcons], h.of_unmoved hs hu ?_⟩
    rw [hcons, List.tail_cons]

theorem Refines.dropNonKey (h : l.Refines q) :
    (l.serve .dropNonKey).1 = (q.serve .dropNonKey).1
      ∧ (l.serve .dropNonKey).2.Refines (q.serve .dropNonKey).2 := by
  simp only [serve, BoundedQueue.serve]
  cases hp : l.dropNonKey? with
  | none =>
    rcases h.sound.dropNonKey_eq_none_iff.mp hp with hkind | hall
    · rw [if_neg (by rwa [h.kind])]
      exact ⟨rfl, h⟩
    · -- with key frames only, the queue erases nothing either
      have hkeys : ∀ f ∈ q.frames, f.isKey = true := by
        rw [h.frames]
        simpa using hall
      have herase : q.frames.eraseP (!·.isKey) = q.frames :=
        List.eraseP_of_forall_not (by simpa using hkeys)
      have hany : q.frames.any (!·.isKey) = false := by simpa using hkeys
      rw [herase, hany, ite_self]
      exact ⟨rfl, h⟩
  | some r =>
    obtain ⟨t, l'⟩ := r
    obtain ⟨hs, hkind, hnot, ⟨pre, post, htickets, hrest, hpre⟩, -, hu⟩ := h.sound.dropNonKey hp
    have hframes : q.frames = pre.map (·.frame) ++ t.frame :: post.map (·.frame) := by
      rw [h.frames, htickets, List.map_append, List.map_cons]
    have herase : q.frames.eraseP (!·.isKey) = pre.map (·.frame) ++ post.map (·.frame) := by
      rw [hframes, List.eraseP_append_right _ (by simpa using hpre),
        List.eraseP_cons_of_pos (by simpa using hnot)]
    have hany : q.frames.any (!·.isKey) = true := by
      rw [hframes]
      simp [hnot]
    rw [if_pos (h.kind.trans hkind), hany, herase]
    refine ⟨rfl, h.of_unmoved hs hu ?_⟩
    rw [hrest, List.map_append]

theorem Refines.drain (h : l.Refines q) :
    (l.serve .drain).1 = (q.serve .drain).1 ∧ (l.serve .drain).2.Refines (q.serve .drain).2 := by
  obtain ⟨hs, htickets, hnil, -, hu⟩ := h.sound.drain
  simp only [serve, BoundedQueue.serve]
  refine ⟨by rw [htickets, h.frames, List.length_map], h.of_unmoved hs hu ?_⟩
  rw [hnil]
  rfl

/-- **One request.** A lane and its queue answer alike and stay together. -/
theorem Refines.serve (h : l.Refines q) (r : Request) :
    (l.serve r).1 = (q.serve r).1 ∧ (l.serve r).2.Refines (q.serve r).2 := by
  cases r with
  | push f => exact h.push f
  | pop => exact h.pop
  | dropNonKey => exact h.dropNonKey
  | drain => exact h.drain
  | peek =>
    refine ⟨?_, h⟩
    simp only [Lane.serve, BoundedQueue.serve, h.sound.peek_eq, h.frames, List.head?_map,
      Option.map_map]
    rfl
  | isEmpty =>
    refine ⟨?_, h⟩
    simp [Lane.serve, BoundedQueue.serve, h.sound.isEmpty_eq, h.frames]
  | stats =>
    refine ⟨?_, h⟩
    simp [Lane.serve, BoundedQueue.serve, h.sound.stats_eq, h.frames, h.capacity]

/-! ## All requests -/

theorem Refines.serveAll (h : l.Refines q) (rs : List Request) :
    (l.serveAll rs).1 = (q.serveAll rs).1 ∧ (l.serveAll rs).2.Refines (q.serveAll rs).2 := by
  induction rs generalizing l q with
  | nil => exact ⟨rfl, h⟩
  | cons r rs ih =>
    obtain ⟨hanswer, hnext⟩ := h.serve r
    obtain ⟨hanswers, hlast⟩ := ih hnext
    exact ⟨congrArg₂ List.cons hanswer hanswers, hlast⟩

/-- The frames of a queue that a lane refines are in order of presentation. -/
theorem Refines.sorted (h : l.Refines q) : q.frames.Pairwise fun a b => a.pts ≤ b.pts := by
  rw [h.frames, List.pairwise_map]
  exact h.sound.sorted.imp Ticket.Precedes.le

/-- **A lane is a bounded, stable priority queue.** Whatever a new lane is asked, it answers like
the queue. The list of the queue is never longer than the capacity; it is in order of timestamp,
and in order of arrival where timestamps are equal. At any time each cell is either on the free list
or in the queue of the lane, once, and the timestamp beside a queued cell is that of the frame in
it. -/
theorem serveAll_eq_boundedQueue (kind : LaneKind) (capacity : Nat) (rs : List Request) :
    let l := ((create kind capacity).serveAll rs).2
    let q := (BoundedQueue.serveAll { kind, capacity } rs).2
    ((create kind capacity).serveAll rs).1 = (BoundedQueue.serveAll { kind, capacity } rs).1
      ∧ q.frames = l.tickets.map (·.frame)
      ∧ l.tickets.Pairwise Ticket.Precedes
      ∧ q.frames.Pairwise (fun a b => a.pts ≤ b.pts)
      ∧ q.frames.length ≤ capacity
      ∧ (l.pool.free ++ l.queued).Perm (List.range capacity)
      ∧ ∀ e ∈ l.queue.entries, ∃ t, l.pool.content? e.2 = some t ∧ t.frame.pts = e.1 := by
  obtain ⟨hanswers, h⟩ := (refines_create kind capacity).serveAll rs
  have hcapacity : ((create kind capacity).serveAll rs).2.pool.capacity = capacity :=
    h.capacity.symm.trans (BoundedQueue.capacity_serveAll _ rs)
  have hcover := h.sound.cover
  rw [hcapacity] at hcover
  refine ⟨hanswers, h.frames, h.sound.sorted, h.sorted, ?_, hcover, h.sound.parked⟩
  rw [h.frames, List.length_map]
  exact h.sound.length_le.trans_eq hcapacity

end Lane

end CameraRecorder

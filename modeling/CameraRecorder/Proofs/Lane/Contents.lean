import CameraRecorder.Lane.Basic
import CameraRecorder.Proofs.Lane.CellPool
import Mathlib.Data.List.Sort

/-!
# What a lane holds

A lane spreads each frame over a cell, the free list and a queue entry. `Lane.tickets` reads the
frames that wait off the three, in the order in which they will be taken, and `Lane.Sound` says that
the three fit together and that the tickets are in order of presentation. Every operation of a lane
is an operation on that list.
-/

namespace CameraRecorder

/-! ## The order of tickets -/

/-- Whether a frame is presented strictly earlier. -/
def Frame.Before (a b : Frame) : Prop := a.pts < b.pts

instance : DecidableRel Frame.Before := fun a b => inferInstanceAs (Decidable (a.pts < b.pts))

/-- Whether a ticket's frame is presented strictly earlier. -/
def Ticket.Before (a b : Ticket) : Prop := a.frame.Before b.frame

instance : DecidableRel Ticket.Before := fun a b =>
  inferInstanceAs (Decidable (a.frame.Before b.frame))

/-- The order in which the frames of one lane are taken: by timestamp, and by arrival where
timestamps are equal. -/
def Ticket.Precedes (a b : Ticket) : Prop :=
  a.frame.pts < b.frame.pts ∨ a.frame.pts = b.frame.pts ∧ a.arrival < b.arrival

/-- The list with a ticket placed behind every one that is not presented later. -/
abbrev Ticket.insert (t : Ticket) (ts : List Ticket) : List Ticket :=
  ts.orderedInsert Ticket.Before t

theorem Ticket.not_before {a b : Ticket} : ¬ a.Before b ↔ b.frame.pts ≤ a.frame.pts := by
  simp only [Ticket.Before, Frame.Before, Int64.lt_iff_toInt_lt, Int64.le_iff_toInt_le]
  omega

theorem Ticket.Precedes.le {a b : Ticket} (h : a.Precedes b) : a.frame.pts ≤ b.frame.pts := by
  rw [Int64.le_iff_toInt_le]
  rcases h with h | ⟨h, -⟩
  · rw [Int64.lt_iff_toInt_lt] at h
    omega
  · rw [h]

theorem Ticket.Precedes.of_before {a b c : Ticket} (h : a.Before b) (hbc : b.Precedes c) :
    a.Precedes c := by
  have hle := hbc.le
  simp only [Ticket.Before, Frame.Before, Int64.lt_iff_toInt_lt, Int64.le_iff_toInt_le] at h hle
  exact .inl (by rw [Int64.lt_iff_toInt_lt]; omega)

/-- A newcomer with a higher arrival number than all others is placed in order. -/
theorem Ticket.pairwise_insert {t : Ticket} {ts : List Ticket} (h : ts.Pairwise Ticket.Precedes)
    (hnew : ∀ u ∈ ts, u.arrival < t.arrival) : (t.insert ts).Pairwise Ticket.Precedes := by
  induction ts with
  | nil => simp [Ticket.insert]
  | cons u us ih =>
    obtain ⟨hu, hus⟩ := List.pairwise_cons.mp h
    by_cases hb : t.Before u
    · rw [Ticket.insert, List.orderedInsert_cons_of_le _ _ hb]
      refine List.pairwise_cons.mpr ⟨fun v hv => ?_, h⟩
      rcases List.mem_cons.mp hv with rfl | hv
      · exact .inl hb
      · exact .of_before hb (hu v hv)
    · rw [Ticket.insert, List.orderedInsert_of_not_le _ _ hb]
      refine List.pairwise_cons.mpr ⟨fun v hv => ?_, ih hus fun w hw => hnew w (by simp [hw])⟩
      rcases (List.mem_orderedInsert _).mp hv with rfl | hv
      · -- the newcomer stands behind `u`: it is later, or as late and arrived later
        have hlt := hnew u (by simp)
        rcases Int64.le_iff_lt_or_eq.mp (Ticket.not_before.mp hb) with hlt' | heq
        · exact .inl hlt'
        · exact .inr ⟨heq, hlt⟩
      · exact hu v hv

/-! ## Entries and tickets -/

/-- The tickets that queue entries stand for. -/
def CellPool.ticketsAt (p : CellPool Ticket) (es : List (Timestamp × Nat)) : List Ticket :=
  es.filterMap fun e => p.content? e.2

/-- Every queue entry names a cell in flight and repeats the timestamp of the ticket in it. -/
def CellPool.Parks (p : CellPool Ticket) (es : List (Timestamp × Nat)) : Prop :=
  ∀ e ∈ es, ∃ t, p.content? e.2 = some t ∧ t.frame.pts = e.1

namespace CellPool

variable {p q : CellPool Ticket} {es : List (Timestamp × Nat)} {t : Ticket} {id : Nat}

theorem ticketsAt_congr (h : ∀ e ∈ es, q.content? e.2 = p.content? e.2) :
    q.ticketsAt es = p.ticketsAt es :=
  List.filterMap_congr h

theorem Parks.congr (hp : p.Parks es) (h : ∀ e ∈ es, q.content? e.2 = p.content? e.2) :
    q.Parks es := by
  intro e he
  rw [h e he]
  exact hp e he

theorem Parks.length_ticketsAt (hp : p.Parks es) : (p.ticketsAt es).length = es.length := by
  induction es with
  | nil => rfl
  | cons e es ih =>
    obtain ⟨t, ht, -⟩ := hp e (by simp)
    have := ih fun e' he' => hp e' (by simp [he'])
    simpa [ticketsAt, ht] using this

theorem Parks.ticketsAt_cons {e : Timestamp × Nat} (hp : p.Parks (e :: es)) :
    ∃ t, p.content? e.2 = some t ∧ t.frame.pts = e.1 ∧ p.Parks es ∧
      p.ticketsAt (e :: es) = t :: p.ticketsAt es := by
  obtain ⟨t, ht, hpts⟩ := hp e (by simp)
  exact ⟨t, ht, hpts, fun e' he' => hp e' (by simp [he']), by simp [ticketsAt, ht]⟩

/-- Wherever an entry is placed, the queue names its cell and those it named before. -/
theorem ids_insert_perm (q : OrderedQueue) (pts : Timestamp) (id : Nat) :
    ((q.insert pts id).entries.map (·.2)).Perm (id :: q.entries.map (·.2)) := by
  rw [OrderedQueue.insert, List.map_append, List.map_cons]
  refine List.perm_middle.trans (List.Perm.cons _ ?_)
  rw [← List.map_append, List.takeWhile_append_dropWhile]

/-- Placing an entry in the queue places its ticket among the tickets. -/
theorem Parks.ticketsAt_insert (hp : p.Parks es) (ht : p.content? id = some t) :
    p.ticketsAt (OrderedQueue.insert ⟨es⟩ t.frame.pts id).entries = t.insert (p.ticketsAt es) := by
  induction es with
  | nil => simp [OrderedQueue.insert, ticketsAt, ht, Ticket.insert]
  | cons e es ih =>
    obtain ⟨u, hu, hpts, hp, hcons⟩ := hp.ticketsAt_cons
    have ih := ih hp
    rw [hcons]
    by_cases hb : t.Before u
    · have hlt : ¬ e.1 ≤ t.frame.pts := hpts ▸ Int64.not_le.mpr hb
      rw [Ticket.insert, List.orderedInsert_cons_of_le _ _ hb, ← hcons]
      simp [OrderedQueue.insert, ticketsAt, hlt, ht]
    · have hle : e.1 ≤ t.frame.pts := hpts ▸ Ticket.not_before.mp hb
      rw [Ticket.insert, List.orderedInsert_of_not_le _ _ hb]
      rw [Ticket.insert] at ih
      rw [← ih]
      simp [OrderedQueue.insert, ticketsAt, hle, hu]

end CellPool

/-! ## The tickets of a lane -/

namespace Lane

variable {l l' : Lane} {t : Ticket} {f : Frame}

/-- The cells that the entries of the queue name. -/
def queued (l : Lane) : List Nat := l.queue.entries.map (·.2)

/-- The tickets that wait, in the order in which they will be taken. -/
def tickets (l : Lane) : List Ticket := l.pool.ticketsAt l.queue.entries

/-- What holds of a lane at all times: the free list and the queue share the cells out between
them, and the tickets wait in order. -/
structure Sound (l : Lane) : Prop where
  pool : l.pool.Sound
  parked : l.pool.Parks l.queue.entries
  nodup : l.queued.Nodup
  named : ∀ id, l.pool.content? id ≠ none → id ∈ l.queued
  sorted : l.tickets.Pairwise Ticket.Precedes
  arrived : ∀ t ∈ l.tickets, t.arrival < l.arrivals

theorem sound_create (kind : LaneKind) (capacity : Nat) : (create kind capacity).Sound where
  pool := CellPool.sound_create capacity
  parked := by simp [create, CellPool.Parks]
  nodup := List.nodup_nil
  named id h := absurd (CellPool.content?_create capacity id) h
  sorted := List.Pairwise.nil
  arrived := by simp [create, tickets, CellPool.ticketsAt]

theorem Sound.mem_queued_iff (h : l.Sound) {id : Nat} :
    id ∈ l.queued ↔ l.pool.content? id ≠ none := by
  refine ⟨fun hid => ?_, h.named id⟩
  obtain ⟨e, he, rfl⟩ := List.mem_map.mp hid
  obtain ⟨t, ht, -⟩ := h.parked e he
  simp [ht]

/-- Every cell is on the free list or named by the queue, and none is on both. -/
theorem Sound.cover (h : l.Sound) :
    (l.pool.free ++ l.queued).Perm (List.range l.pool.capacity) := by
  have hqueued : l.queued.Perm l.pool.inFlight := by
    refine (List.perm_ext_iff_of_nodup h.nodup l.pool.nodup_inFlight).mpr fun id => ?_
    rw [h.mem_queued_iff, CellPool.mem_inFlight_iff, Option.ne_none_iff_exists']
  exact (hqueued.append_left _).trans h.pool.cover

theorem Sound.length_tickets (h : l.Sound) :
    l.pool.free.length + l.tickets.length = l.pool.capacity := by
  have := h.cover.length_eq
  rw [List.length_append, List.length_range] at this
  rw [tickets, h.parked.length_ticketsAt]
  simpa [queued] using this

end Lane

end CameraRecorder

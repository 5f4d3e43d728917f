import CameraRecorder.Proofs.Lane.Contents

/-!
# What the operations of a lane do to its tickets

Each operation is described once, by the list of tickets before and after it; nothing else about
a lane has to be unfolded afterwards. `push?` places a ticket, `pop?` takes the first one,
`dropNonKey?` the first that is no key frame, and `drain` takes them all.
-/

namespace CameraRecorder.Lane

variable {l l' : Lane} {t : Ticket} {f : Frame}

/-- What an operation leaves alone, whatever it does to the tickets. -/
structure Unmoved (l l' : Lane) : Prop where
  kind : l'.kind = l.kind
  capacity : l'.pool.capacity = l.pool.capacity

theorem Unmoved.trans {l'' : Lane} (h : Unmoved l l') (h' : Unmoved l' l'') : Unmoved l l'' :=
  ⟨h'.kind.trans h.kind, h'.capacity.trans h.capacity⟩

/-! ## Pushing -/

/-- A frame that is taken in gets the next arrival number and its place in the order. -/
theorem Sound.push (h : l.Sound) (hp : l.push? f = some (t, l')) :
    l'.Sound ∧ t = ⟨l.arrivals, f⟩ ∧ l'.tickets = t.insert l.tickets ∧
      l'.arrivals = l.arrivals + 1 ∧ Unmoved l l' := by
  obtain ⟨⟨id, p⟩, hacq, heq⟩ := Option.map_eq_some_iff.mp hp
  obtain ⟨rfl, rfl⟩ := Prod.mk.inj heq
  obtain ⟨hfree, hcap, hcontent⟩ := CellPool.acquire_eq_some hacq
  have hid : id < l.pool.capacity ∧ l.pool.content? id = none :=
    (h.pool.mem_free_iff id).mp (by simp [hfree])
  -- the cell was free, so no entry of the queue names it, and the other tickets stay as they are
  have hnew : id ∉ l.queued := fun hmem => h.mem_queued_iff.mp hmem hid.2
  have hself : p.content? id = some ⟨l.arrivals, f⟩ := by simp [hcontent, hid.1]
  have hother : ∀ e ∈ l.queue.entries, p.content? e.2 = l.pool.content? e.2 := by
    intro e he
    have : e.2 ≠ id := fun heq => hnew (heq ▸ List.mem_map_of_mem he)
    simp [hcontent, this]
  have hparks : p.Parks l.queue.entries := h.parked.congr hother
  have htickets : p.ticketsAt (l.queue.insert f.pts id).entries
      = Ticket.insert ⟨l.arrivals, f⟩ l.tickets := by
    rw [tickets, ← CellPool.ticketsAt_congr hother]
    exact hparks.ticketsAt_insert (t := ⟨l.arrivals, f⟩) hself
  refine ⟨⟨h.pool.acquire hacq, ?_, ?_, ?_, ?_, ?_⟩, rfl, htickets, rfl, ⟨rfl, hcap⟩⟩
  · intro e he
    rcases List.mem_append.mp he with he | he
    · exact hparks e (List.takeWhile_subset _ he)
    · rcases List.mem_cons.mp he with rfl | he
      · exact ⟨_, hself, rfl⟩
      · exact hparks e (List.dropWhile_subset _ he)
  · show ((l.queue.insert f.pts id).entries.map (·.2)).Nodup
    rw [(CellPool.ids_insert_perm ..).nodup_iff]
    exact List.nodup_cons.mpr ⟨hnew, h.nodup⟩
  · intro j hj
    refine (CellPool.ids_insert_perm ..).mem_iff.mpr (List.mem_cons.mpr ?_)
    by_cases hjid : j = id
    · exact .inl hjid
    · exact .inr (h.named j (by simpa [hcontent, hjid] using hj))
  · show (p.ticketsAt (l.queue.insert f.pts id).entries).Pairwise Ticket.Precedes
    rw [htickets]
    exact Ticket.pairwise_insert h.sorted h.arrived
  · show ∀ u ∈ p.ticketsAt (l.queue.insert f.pts id).entries, u.arrival < l.arrivals + 1
    rw [htickets]
    intro u hu
    rcases (List.mem_orderedInsert _).mp hu with rfl | hu
    · exact Nat.lt_succ_self _
    · exact Nat.lt_succ_of_lt (h.arrived u hu)

/-- A lane refuses a frame exactly when it is full. -/
theorem Sound.push_eq_none_iff (h : l.Sound) :
    l.push? f = none ↔ l.tickets.length = l.pool.capacity := by
  have hlen := h.length_tickets
  rw [push?, Option.map_eq_none_iff, CellPool.acquire_eq_none_iff, ← List.length_eq_zero_iff]
  omega

theorem Sound.length_le (h : l.Sound) : l.tickets.length ≤ l.pool.capacity := by
  have := h.length_tickets
  omega

/-! ## Taking a ticket out -/

/-- Taking one entry out of the queue takes its ticket out of the list. -/
theorem Sound.vacate (h : l.Sound) {es₁ es₂ : List (Timestamp × Nat)} {e : Timestamp × Nat}
    (hes : l.queue.entries = es₁ ++ e :: es₂) :
    ∃ t l', l.vacate? (e.2, ⟨es₁ ++ es₂⟩) = some (t, l') ∧ l.pool.content? e.2 = some t ∧
      l.tickets = l.pool.ticketsAt es₁ ++ t :: l.pool.ticketsAt es₂ ∧
      l'.tickets = l.pool.ticketsAt es₁ ++ l.pool.ticketsAt es₂ ∧
      l'.Sound ∧ l'.arrivals = l.arrivals ∧ Unmoved l l' := by
  obtain ⟨t, ht, -⟩ := h.parked e (by simp [hes])
  obtain ⟨p, hrel⟩ := CellPool.exists_release ht
  obtain ⟨-, -, hcap, hcontent⟩ := CellPool.release_eq_some hrel
  have hsplit : l.tickets = l.pool.ticketsAt es₁ ++ t :: l.pool.ticketsAt es₂ := by
    simp [tickets, CellPool.ticketsAt, hes, ht]
  -- no other entry names the cell, so the other tickets stay as they are
  have hnodup : e.2 ∉ (es₁ ++ es₂).map (·.2) ∧ ((es₁ ++ es₂).map (·.2)).Nodup := by
    have hperm : l.queued.Perm (e.2 :: (es₁ ++ es₂).map (·.2)) := by
      rw [queued, hes, List.map_append, List.map_cons, List.map_append]
      exact List.perm_middle
    exact List.nodup_cons.mp (hperm.nodup_iff.mp h.nodup)
  have hother : ∀ e' ∈ es₁ ++ es₂, p.content? e'.2 = l.pool.content? e'.2 := by
    intro e' he'
    have : e'.2 ≠ e.2 := fun heq => hnodup.1 (heq ▸ List.mem_map_of_mem he')
    simp [hcontent, this]
  have hrest : p.ticketsAt (es₁ ++ es₂) = l.pool.ticketsAt es₁ ++ l.pool.ticketsAt es₂ := by
    rw [CellPool.ticketsAt_congr hother, CellPool.ticketsAt, List.filterMap_append]
    rfl
  have hsub : (l.pool.ticketsAt es₁ ++ l.pool.ticketsAt es₂).Sublist l.tickets := by
    rw [hsplit]
    exact (List.Sublist.refl _).append (List.sublist_cons_self _ _)
  refine ⟨t, { l with pool := p, queue := ⟨es₁ ++ es₂⟩ }, by simp [vacate?, hrel], ht, hsplit,
    hrest, ⟨h.pool.release hrel, ?_, hnodup.2, ?_, ?_, ?_⟩, rfl, ⟨rfl, hcap⟩⟩
  · refine CellPool.Parks.congr (fun e' he' => h.parked e' ?_) hother
    rw [hes]
    rcases List.mem_append.mp he' with he' | he' <;> simp [he']
  · intro j hj
    have hje : j ≠ e.2 := by
      rintro rfl
      simp [hcontent] at hj
    have hmem : j ∈ l.queued := h.named j (by simpa [hcontent, hje] using hj)
    simp only [queued, hes, List.map_append, List.map_cons, List.mem_append, List.mem_cons] at hmem
    simp only [queued, List.map_append, List.mem_append]
    tauto
  · show (p.ticketsAt (es₁ ++ es₂)).Pairwise Ticket.Precedes
    rw [hrest]
    exact h.sorted.sublist hsub
  · show ∀ u ∈ p.ticketsAt (es₁ ++ es₂), u.arrival < l.arrivals
    rw [hrest]
    exact fun u hu => h.arrived u (hsub.subset hu)

theorem Sound.peek_eq (h : l.Sound) : l.peek? = l.tickets.head?.map (·.frame.pts) := by
  unfold peek? OrderedQueue.peek? tickets
  cases hes : l.queue.entries with
  | nil => rfl
  | cons e es =>
    obtain ⟨t, -, hpts, -, hcons⟩ := CellPool.Parks.ticketsAt_cons (hes ▸ h.parked)
    simp [hcons, hpts]

theorem Sound.isEmpty_eq (h : l.Sound) : l.isEmpty = l.tickets.isEmpty := by
  unfold isEmpty OrderedQueue.isEmpty tickets
  cases hes : l.queue.entries with
  | nil => rfl
  | cons e es =>
    obtain ⟨t, -, -, -, hcons⟩ := CellPool.Parks.ticketsAt_cons (hes ▸ h.parked)
    rw [hcons, List.isEmpty_cons, List.isEmpty_cons]

theorem Sound.pop_eq_none_iff (h : l.Sound) : l.pop? = none ↔ l.tickets = [] := by
  unfold pop? OrderedQueue.pop?
  cases hes : l.queue.entries with
  | nil => simp [tickets, hes, CellPool.ticketsAt]
  | cons e es =>
    obtain ⟨t, l', hv, -, hsplit, -⟩ := h.vacate (show l.queue.entries = [] ++ e :: es from hes)
    simp only [Option.bind_some]
    rw [show l.vacate? (e.2, ⟨es⟩) = some (t, l') from hv, hsplit]
    simp

/-- The ticket that is taken is the first, and the others keep their order. -/
theorem Sound.pop (h : l.Sound) (hp : l.pop? = some (t, l')) :
    l'.Sound ∧ l.tickets = t :: l'.tickets ∧ l'.arrivals = l.arrivals ∧ Unmoved l l' := by
  unfold pop? OrderedQueue.pop? at hp
  cases hes : l.queue.entries with
  | nil => simp [hes] at hp
  | cons e es =>
    have hfirst : l.queue.entries = [] ++ e :: es := hes
    obtain ⟨u, m, hv, -, hsplit, hrest, hm, harr, hsame⟩ := h.vacate hfirst
    rw [hes, Option.bind_some, show l.vacate? (e.2, ⟨es⟩) = some (u, m) from hv] at hp
    cases hp
    exact ⟨hm, by rw [hsplit, hrest]; rfl, harr, hsame⟩

/-- Choosing the first entry that satisfies `p` splits the queue at it. -/
theorem removeFirst_eq_some {q : OrderedQueue} {p : Nat → Bool} {c : Nat × OrderedQueue}
    (h : q.removeFirst? p = some c) :
    ∃ es₁ e es₂, q.entries = es₁ ++ e :: es₂ ∧ c = (e.2, ⟨es₁ ++ es₂⟩) ∧ p e.2 = true ∧
      ∀ a ∈ es₁, p a.2 = false := by
  obtain ⟨e, he, rfl⟩ := Option.map_eq_some_iff.mp h
  obtain ⟨hpos, es₁, es₂, hes, hpre⟩ := List.find?_eq_some_iff_append.mp he
  have hpre' : ∀ a ∈ es₁, p a.2 = false := by simpa using hpre
  have herase : q.entries.eraseP (p ·.2) = es₁ ++ es₂ := by
    have hskip : ∀ a ∈ es₁, ¬ p a.2 = true := by simpa using hpre'
    rw [hes, List.eraseP_append_right _ hskip]
    simp [hpos]
  exact ⟨es₁, e, es₂, hes, by rw [herase], hpos, hpre'⟩

theorem removeFirst_eq_none_iff {q : OrderedQueue} {p : Nat → Bool} :
    q.removeFirst? p = none ↔ ∀ e ∈ q.entries, p e.2 = false := by
  simp [OrderedQueue.removeFirst?]

theorem holdsKey_eq {e : Timestamp × Nat} (h : l.pool.content? e.2 = some t) :
    l.holdsKey e.2 = t.frame.isKey := by
  simp [holdsKey, h]

/-- The tickets at entries whose cells all hold key frames are key frames. -/
theorem isKey_of_mem_ticketsAt {es : List (Timestamp × Nat)}
    (h : ∀ e ∈ es, (!l.holdsKey e.2) = false) :
    ∀ u ∈ l.pool.ticketsAt es, u.frame.isKey = true := by
  intro u hu
  obtain ⟨e, he, hcontent⟩ := List.mem_filterMap.mp hu
  rw [← holdsKey_eq hcontent]
  simpa using h e he

/-- The ticket that is dropped is the first that is no key frame. Only a video lane drops. -/
theorem Sound.dropNonKey (h : l.Sound) (hp : l.dropNonKey? = some (t, l')) :
    l'.Sound ∧ l.kind = .video ∧ t.frame.isKey = false ∧
      (∃ pre post, l.tickets = pre ++ t :: post ∧ l'.tickets = pre ++ post ∧
        ∀ u ∈ pre, u.frame.isKey = true) ∧
      l'.arrivals = l.arrivals ∧ Unmoved l l' := by
  unfold dropNonKey? at hp
  cases hkind : l.kind with
  | audio => simp [hkind] at hp
  | thumbnail => simp [hkind] at hp
  | video =>
    simp only [hkind] at hp
    obtain ⟨chosen, hfirst, hv⟩ := Option.bind_eq_some_iff.mp hp
    obtain ⟨es₁, e, es₂, hes, rfl, hnot, hpre⟩ := removeFirst_eq_some hfirst
    obtain ⟨u, m, hv', hcontent, hsplit, hrest, hm, harr, hsame⟩ := h.vacate hes
    rw [hv'] at hv
    cases hv
    rw [holdsKey_eq hcontent] at hnot
    exact ⟨hm, rfl, by simpa using hnot, ⟨_, _, hsplit, hrest, isKey_of_mem_ticketsAt hpre⟩,
      harr, hsame⟩

theorem Sound.dropNonKey_eq_none_iff (h : l.Sound) :
    l.dropNonKey? = none ↔ l.kind ≠ .video ∨ ∀ u ∈ l.tickets, u.frame.isKey = true := by
  unfold dropNonKey?
  cases hkind : l.kind with
  | audio => simp
  | thumbnail => simp
  | video =>
    simp only [ne_eq, not_true_eq_false, false_or]
    cases hfirst : l.queue.removeFirst? fun id => !l.holdsKey id with
    | none =>
      have hall := isKey_of_mem_ticketsAt (removeFirst_eq_none_iff.mp hfirst)
      exact ⟨fun _ => hall, fun _ => rfl⟩
    | some chosen =>
      obtain ⟨es₁, e, es₂, hes, rfl, hnot, -⟩ := removeFirst_eq_some hfirst
      obtain ⟨u, m, hv, hcontent, hsplit, -⟩ := h.vacate hes
      rw [holdsKey_eq hcontent] at hnot
      rw [Option.bind_some, hv]
      refine ⟨fun hcontra => (Option.some_ne_none _ hcontra).elim, fun hall => ?_⟩
      have hkey := hall u (by simp [hsplit])
      simp [hkey] at hnot

/-! ## Draining -/

/-- Releasing the cells of some entries gives their tickets and leaves the other cells alone. -/
theorem releaseAll_eq {es : List (Timestamp × Nat)} {p : CellPool Ticket} (hp : p.Sound)
    (hparks : p.Parks es) (hnodup : (es.map (·.2)).Nodup) :
    (releaseAll es p).1 = p.ticketsAt es ∧ (releaseAll es p).2.Sound ∧
      (releaseAll es p).2.capacity = p.capacity ∧
      ∀ j, (releaseAll es p).2.content? j
        = if j ∈ es.map (·.2) then none else p.content? j := by
  induction es generalizing p with
  | nil => exact ⟨rfl, hp, rfl, fun j => by simp [releaseAll]⟩
  | cons e es ih =>
    obtain ⟨t, ht, -, hrest, hcons⟩ := hparks.ticketsAt_cons
    obtain ⟨q, hrel⟩ := CellPool.exists_release ht
    obtain ⟨-, -, hcap, hcontent⟩ := CellPool.release_eq_some hrel
    rw [List.map_cons] at hnodup
    obtain ⟨hnew, hnodup⟩ := List.nodup_cons.mp hnodup
    have hother : ∀ e' ∈ es, q.content? e'.2 = p.content? e'.2 := by
      intro e' he'
      have : e'.2 ≠ e.2 := fun heq => hnew (heq ▸ List.mem_map_of_mem he')
      simp [hcontent, this]
    obtain ⟨h1, h2, h3, h4⟩ := ih (hp.release hrel) (hrest.congr hother) hnodup
    have hstep : releaseAll (e :: es) p = (t :: (releaseAll es q).1, (releaseAll es q).2) := by
      simp [releaseAll, hrel]
    rw [hstep, hcons]
    refine ⟨?_, h2, h3.trans hcap, fun j => ?_⟩
    · rw [h1, CellPool.ticketsAt_congr hother]
    · rw [h4, hcontent]
      by_cases hj : j = e.2
      · simp [hj]
      · simp only [List.map_cons, List.mem_cons, hj, false_or, if_false]

/-- Draining gives every ticket, in order, and leaves none. -/
theorem Sound.drain (h : l.Sound) :
    l.drain.2.Sound ∧ l.drain.1 = l.tickets ∧ l.drain.2.tickets = [] ∧
      l.drain.2.arrivals = l.arrivals ∧ Unmoved l l.drain.2 := by
  obtain ⟨h1, h2, h3, h4⟩ := releaseAll_eq h.pool h.parked h.nodup
  refine ⟨⟨h2, ?_, List.nodup_nil, ?_, List.Pairwise.nil, ?_⟩, h1, rfl, rfl, ⟨rfl, h3⟩⟩
  · intro e he
    cases he
  · intro id hid
    change (releaseAll l.queue.entries l.pool).2.content? id ≠ none at hid
    rw [h4] at hid
    by_cases hmem : id ∈ l.queue.entries.map (·.2)
    · simp [hmem] at hid
    · rw [if_neg hmem] at hid
      exact absurd (h.named id hid) hmem
  · intro t ht
    cases ht

theorem Sound.stats_eq (h : l.Sound) :
    l.stats = ⟨l.pool.capacity, l.pool.capacity - l.tickets.length, l.tickets.length⟩ := by
  have hlen := h.length_tickets
  rw [stats, CellPool.stats]
  congr 1 <;> omega

/-- An empty lane stays as it is when it is drained. -/
theorem Sound.drain_of_empty (h : l.Sound) (hempty : l.tickets = []) : l.drain = ([], l) := by
  have hlen := h.parked.length_ticketsAt
  rw [show l.pool.ticketsAt l.queue.entries = [] from hempty, List.length_nil] at hlen
  obtain ⟨kind, pool, ⟨entries⟩, arrivals⟩ := l
  obtain rfl : entries = [] := List.eq_nil_of_length_eq_zero hlen.symm
  rfl

end CameraRecorder.Lane

import CameraRecorder.Proofs.Stream.Hand

/-!
# The order in which frames reach the writer

A frame is handed over after every frame that waited with it and ranks before it. So if two frames
are handed over the wrong way round, the one that should have come first was not there when the
other was taken. Nothing but the journal is needed to see this: arrival numbers only grow, a frame
is taken where it waited, and the one that is taken ranks before all that stay.
-/

namespace CameraRecorder

/-- The frames taken for the writer are told of in the same order. -/
theorem exists_taken {es : List Entry} {x y : Item} (h : [x, y].Sublist (takenItems es)) :
    ∃ pre post, es = pre ++ .taken x.lane x.ticket :: post ∧ .taken y.lane y.ticket ∈ post ∧
      x.lane ≠ .thumbnail ∧ y.lane ≠ .thumbnail := by
  obtain ⟨items, items', hitems, hx, hy⟩ := List.cons_sublist_iff.mp h
  obtain ⟨es₁, es₂, rfl, rfl, rfl⟩ := List.filterMap_eq_append_iff.mp hitems
  obtain ⟨ex, hex, hx⟩ := List.mem_filterMap.mp hx
  obtain ⟨ey, hey, hy⟩ := List.mem_filterMap.mp (List.singleton_sublist.mp hy)
  obtain ⟨rfl, hxlane⟩ := Entry.takes?_eq_some hx
  obtain ⟨rfl, hylane⟩ := Entry.takes?_eq_some hy
  obtain ⟨pre, mid, rfl⟩ := List.append_of_mem hex
  exact ⟨pre, mid ++ es₂, by simp, List.mem_append_right _ hey, hxlane, hylane⟩

namespace Buffers

variable {b b' : Buffers} {e : Entry} {es es' : List Entry} {kind : LaneKind} {t : Ticket}

theorem Steps.split (h : Steps b (es ++ es') b') : ∃ b₁, Steps b es b₁ ∧ Steps b₁ es' b' := by
  induction es generalizing b with
  | nil => exact ⟨b, .nil, h⟩
  | cons e es ih =>
    cases h with
    | cons hstep hsteps =>
      obtain ⟨b₁, h₁, h₂⟩ := ih hsteps
      exact ⟨b₁, .cons hstep h₁, h₂⟩

/-! ## Arrival numbers -/

theorem Step.arrivals_le (h : Step b e b') (kind : LaneKind) :
    b.arrivals kind ≤ b'.arrivals kind := by
  cases h with
  | @accepted k _ =>
    rw [arrivals_count]
    by_cases hk : kind = k
    · subst hk
      simp
    · simp [hk]
  | evicted | discarded | taken | other => exact Nat.le_refl _

theorem Steps.arrivals_le (h : Steps b es b') (kind : LaneKind) :
    b.arrivals kind ≤ b'.arrivals kind := by
  induction h with
  | nil => exact Nat.le_refl _
  | cons hstep _ ih => exact Nat.le_trans (hstep.arrivals_le kind) ih

/-- A frame that is accepted gets a number that was not given out before, but is now. -/
theorem Steps.arrival_of_accepted (h : Steps b es b') (hmem : .accepted kind t ∈ es) :
    b.arrivals kind ≤ t.arrival ∧ t.arrival < b'.arrivals kind := by
  induction h with
  | nil => cases hmem
  | @cons b e b₁ es b' hstep hsteps ih =>
    rcases List.mem_cons.mp hmem with rfl | hmem
    · have hle := hsteps.arrivals_le kind
      cases hstep with
      | accepted =>
        rw [arrivals_count, if_pos rfl] at hle
        exact ⟨Nat.le_refl _, hle⟩
      | other h => cases h
    · obtain ⟨hlo, hhi⟩ := ih hmem
      exact ⟨Nat.le_trans (hstep.arrivals_le kind) hlo, hhi⟩

/-! ## Waiting -/

/-- Whatever waits after an entry waited before it, or the entry tells that it was accepted. -/
theorem Step.mem_queue (h : Step b e b') (ht : t ∈ b'.queue kind) :
    t ∈ b.queue kind ∨ e = .accepted kind t := by
  cases h with
  | accepted =>
    rcases mem_queue_put ht with ⟨rfl, hin⟩ | hq'
    · rcases (List.mem_orderedInsert _).mp hin with rfl | hin
      · exact .inr rfl
      · exact .inl hin
    · exact .inl hq'
  | evicted hq _ _ =>
    rcases mem_queue_put ht with ⟨rfl, hin⟩ | hq'
    · rw [hq]
      exact .inl (List.mem_append.mpr ((List.mem_append.mp hin).imp_right (.tail _)))
    · exact .inl hq'
  | discarded =>
    rcases mem_queue_put ht with ⟨-, hin⟩ | hq'
    · cases hin
    · exact .inl hq'
  | taken hq _ =>
    rcases mem_queue_put ht with ⟨rfl, hin⟩ | hq'
    · rw [hq]
      exact .inl (.tail _ hin)
    · exact .inl hq'
  | other _ => exact .inl ht

/-- A frame that is taken waited from the start or was accepted before. -/
theorem Steps.mem_of_taken (h : Steps b es b') (hmem : .taken kind t ∈ es) :
    t ∈ b.queue kind ∨ .accepted kind t ∈ es := by
  induction h with
  | nil => cases hmem
  | @cons b e b₁ es b' hstep hsteps ih =>
    rcases List.mem_cons.mp hmem with rfl | hmem
    · cases hstep with
      | taken hq _ => exact .inl (by simp [hq])
      | other h => cases h
    · rcases ih hmem with hq | hacc
      · rcases hstep.mem_queue hq with hq | rfl
        · exact .inl hq
        · exact .inr (by simp)
      · exact .inr (by simp [hacc])

/-! ## Order -/

/-- Arrival numbers tell the order of acceptance. -/
theorem Steps.arrival_lt (h : Steps b es b') {t u : Ticket}
    (hsub : [.accepted kind t, .accepted kind u].Sublist es) : t.arrival < u.arrival := by
  obtain ⟨es₁, es₂, rfl, ht, hu⟩ := List.cons_sublist_iff.mp hsub
  obtain ⟨b₁, h₁, h₂⟩ := h.split
  have hlt := (h₁.arrival_of_accepted ht).2
  have hle := (h₂.arrival_of_accepted (List.singleton_sublist.mp hu)).1
  omega

/-- If two frames are taken the wrong way round, the second was accepted after the first was
taken. -/
theorem Steps.accepted_late (h : Steps b es b') {x y : Item}
    (hsub : [x, y].Sublist (takenItems es)) (hranks : y.RanksBefore x) :
    ∃ pre post, es = pre ++ .taken x.lane x.ticket :: post ∧
      .accepted y.lane y.ticket ∉ pre ∧ .accepted y.lane y.ticket ∈ post := by
  obtain ⟨pre, post, rfl, htaken, hx, hy⟩ := exists_taken hsub
  refine ⟨pre, post, rfl, ?_⟩
  obtain ⟨b₁, hpre, hrest⟩ := h.split
  cases hrest with
  | @cons _ _ b₂ _ _ hstep hpost =>
    -- what is left when `x` is taken ranks behind it, so `y` is not there yet
    have hleft : y.ticket ∉ b₂.queue y.lane := by
      intro hq
      cases hstep with
      | taken _ hfirst => exact (hfirst hx _ _ hy hq).asymm hranks
      | other h => cases h
    have hacc := (hpost.mem_of_taken htaken).resolve_left hleft
    refine ⟨fun hbefore => ?_, hacc⟩
    have hlt := (hpre.arrival_of_accepted hbefore).2
    have hle := (hpost.arrival_of_accepted hacc).1
    have := hstep.arrivals_le y.lane
    omega

/-- While nothing is accepted, frames are taken in order. -/
theorem Steps.pairwise_takenItems (h : Steps b es b')
    (hquiet : ∀ kind t, .accepted kind t ∈ es → kind = .thumbnail) :
    (takenItems es).Pairwise Item.RanksBefore := by
  induction h with
  | nil => exact List.Pairwise.nil
  | @cons b e b₁ es b' hstep hsteps ih =>
    have ih := ih fun kind t hmem => hquiet kind t (.tail _ hmem)
    cases htakes : e.takes? with
    | none =>
      rw [takenItems, List.filterMap_cons_none htakes]
      exact ih
    | some x =>
      obtain ⟨rfl, hx⟩ := Entry.takes?_eq_some htakes
      rw [takenItems, List.filterMap_cons_some htakes]
      refine List.pairwise_cons.mpr ⟨fun y hy => ?_, ih⟩
      obtain ⟨e', he', htakes'⟩ := List.mem_filterMap.mp hy
      obtain ⟨rfl, hy⟩ := Entry.takes?_eq_some htakes'
      rcases hsteps.mem_of_taken he' with hq | hacc
      · cases hstep with
        | taken _ hfirst => exact hfirst hx _ _ hy hq
        | other h => cases h
      · exact absurd (hquiet _ _ (.tail _ hacc)) hy

end Buffers

namespace Stream

/-- **Frames reach the writer in order of presentation.** Of two frames that are handed over the
wrong way round, the second was accepted after the first was taken; and what is handed over while
nothing is accepted, beginning with a worker that sleeps, is in order. -/
theorem handed_in_order (handle : StreamHandle) (config : StreamConfig)
    (before during : List Move) :
    let s := ((create handle config).run before).1
    let journal := ((create handle config).run (before ++ during)).2
    (∀ x y, [x, y].Sublist (handedItems journal) → y.RanksBefore x →
      ∃ pre post, journal = pre ++ .taken x.lane x.ticket :: post ∧
        .accepted y.lane y.ticket ∉ pre ∧ .accepted y.lane y.ticket ∈ post) ∧
    (∀ kind t u, [.accepted kind t, .accepted kind u].Sublist journal → t.arrival < u.arrival) ∧
    (s.activity = .asleep →
      (∀ kind t, .accepted kind t ∈ (s.run during).2 → kind = .thumbnail) →
      (handedItems (s.run during).2).Pairwise Item.RanksBefore) := by
  intro s journal
  obtain ⟨hs, -⟩ := buffers_run (lanesSound_create handle config) before
  obtain ⟨-, hsteps⟩ : _ ∧ Buffers.Steps _ journal _ :=
    buffers_run (lanesSound_create handle config) (before ++ during)
  obtain ⟨-, hduring⟩ := buffers_run hs during
  refine ⟨fun x y hxy hranks => ?_, fun kind t u hsub => hsteps.arrival_lt hsub,
    fun hasleep hquiet => ?_⟩
  · have hsub := (create handle config).handed_sublist (before ++ during)
    exact hsteps.accepted_late (hxy.trans ((List.sublist_append_left _ _).trans hsub)) hranks
  · have hsub := s.handed_sublist during
    rw [inHand_asleep hasleep] at hsub
    exact (hduring.pairwise_takenItems hquiet).sublist ((List.sublist_append_left _ _).trans hsub)

end Stream

end CameraRecorder

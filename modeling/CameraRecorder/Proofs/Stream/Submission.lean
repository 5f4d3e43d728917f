import CameraRecorder.Proofs.Stream.Buffers
import CameraRecorder.Proofs.Stream.Wakes

/-!
# Submission

A frame that is submitted to a stream is refused, and nothing changes (`Stream.Refuses`), or it is
placed among the frames that wait in its lane (`Stream.Takes`). Only a full video lane may throw a
frame out, and never without taking the new one in. A producer that waits for a cell and tries again
(`Stream.Insists`) gets the same answer as long as nothing else happens.
-/

namespace CameraRecorder

/-- A newcomer stands behind the tickets that are not presented later, and before all others. -/
theorem Ticket.exists_insert {t : Ticket} {ts : List Ticket} (h : ts.Pairwise Ticket.Precedes) :
    ∃ before after, ts = before ++ after ∧ t.insert ts = before ++ t :: after ∧
      (∀ u ∈ before, u.frame.pts ≤ t.frame.pts) ∧ ∀ u ∈ after, t.frame.pts < u.frame.pts := by
  induction ts with
  | nil => exact ⟨[], [], rfl, rfl, List.forall_mem_nil _, List.forall_mem_nil _⟩
  | cons u us ih =>
    obtain ⟨hu, hus⟩ := List.pairwise_cons.mp h
    by_cases hb : t.Before u
    · refine ⟨[], u :: us, rfl, List.orderedInsert_cons_of_le _ _ hb, List.forall_mem_nil _, ?_⟩
      intro v hv
      rcases List.mem_cons.mp hv with rfl | hv
      · exact hb
      · exact Int64.lt_of_lt_of_le hb (hu v hv).le
    · obtain ⟨before, after, hsplit, hinsert, hbefore, hafter⟩ := ih hus
      refine ⟨u :: before, after, by rw [hsplit, List.cons_append], ?_, ?_, hafter⟩
      · rw [Ticket.insert, List.orderedInsert_of_not_le _ _ hb, ← Ticket.insert, hinsert]
        rfl
      · exact List.forall_mem_cons.mpr ⟨Ticket.not_before.mp hb, hbefore⟩

namespace Lane

variable {l l' l₁ : Lane} {t old : Ticket} {frame : Frame} {waiting : List Ticket}

/-- No cell of the lane is free. -/
def IsFull (l : Lane) : Prop := l.stats.free = 0

instance (l : Lane) : Decidable l.IsFull := inferInstanceAs (Decidable (_ = _))

/-- From one lane to another a ticket is added to those that are waiting, behind every one that is
not presented later. -/
structure Adds (l : Lane) (waiting : List Ticket) (t : Ticket) (l' : Lane) : Prop where
  places : ∃ before after, waiting = before ++ after ∧ l'.tickets = before ++ t :: after ∧
    (∀ u ∈ before, u.frame.pts ≤ t.frame.pts) ∧ ∀ u ∈ after, t.frame.pts < u.frame.pts
  inFlight : l'.stats.inFlight = waiting.length + 1
  unmoved : Unmoved l l'

theorem push_eq_none_iff_isFull : l.push? frame = none ↔ l.IsFull := by
  rw [push?, Option.map_eq_none_iff, CellPool.acquire_eq_none_iff, ← List.length_eq_zero_iff]
  exact Iff.rfl

/-- A frame that is taken in is added to those that wait. -/
theorem Sound.adds (h : l.Sound) (hp : l.push? frame = some (t, l')) :
    t.frame = frame ∧ l.Adds l.tickets t l' := by
  obtain ⟨hsound, rfl, htickets, -, hunmoved⟩ := h.push hp
  obtain ⟨before, after, hsplit, hinsert, hbefore, hafter⟩ :=
    Ticket.exists_insert (t := ⟨l.arrivals, frame⟩) h.sorted
  have hplaced : l'.tickets = before ++ ⟨l.arrivals, frame⟩ :: after := htickets.trans hinsert
  have hlength : l'.tickets.length = l.tickets.length + 1 := by
    rw [hplaced, hsplit]
    simp only [List.length_append, List.length_cons]
    omega
  exact ⟨rfl, ⟨before, after, hsplit, hplaced, hbefore, hafter⟩,
    by rw [hsound.stats_eq]; exact hlength, hunmoved⟩

/-- A lane that has thrown a frame out has a free cell. -/
theorem Sound.push_of_dropNonKey (h : l.Sound) (hd : l.dropNonKey? = some (old, l₁))
    (frame : Frame) : l₁.push? frame ≠ none := by
  obtain ⟨hsound, -, -, ⟨pre, post, htickets, htickets', -⟩, -, hunmoved⟩ := h.dropNonKey hd
  intro hnone
  -- one ticket less than before, so not all cells hold one
  have hfull := hsound.push_eq_none_iff.mp hnone
  have hle := h.length_le
  rw [hunmoved.capacity, htickets'] at hfull
  rw [htickets] at hle
  simp only [List.length_append, List.length_cons] at hfull hle
  omega

end Lane

namespace Stream

variable {s s' : Stream} {kind : LaneKind} {frame : Frame} {cause : SubmitError} {es : List Entry}

/-! ## Refusals -/

/-- Whether a queued frame may be thrown out to make room for a frame of a kind. -/
def MakesRoom (s : Stream) (kind : LaneKind) : Prop :=
  kind = .video ∧ s.config.pools.dropNonKeyOnOverflow = true ∧
    ∃ t ∈ s.video.tickets, t.frame.isKey = false

/-- Why a stream refuses the frames of a kind. -/
inductive Refuses (s : Stream) : LaneKind → SubmitError → Prop
  | noAudioTrack (haudio : s.audio = none) : Refuses s .audio .noAudioTrack
  | streamDisabled {kind lane} (hlane : s.lane? kind = some lane) (hen : s.isEnabled = false) :
    Refuses s kind .streamDisabled
  | thumbnailPoolFull (hen : s.isEnabled = true) (hfull : s.thumbnails.IsFull) :
    Refuses s .thumbnail .thumbnailPoolFull
  | poolExhausted {kind lane} (hen : s.isEnabled = true) (hlane : s.lane? kind = some lane)
    (hkind : kind ≠ .thumbnail) (hfull : lane.IsFull) (hkept : ¬ s.MakesRoom kind) :
    Refuses s kind (.poolExhausted kind)

/-- A lane of the stream takes a frame in: one with a free cell, or the full video lane in place of
the first queued frame that is no key frame. Nothing else of the stream changes. -/
inductive Takes (s : Stream) (frame : Frame) : LaneKind → Stream → List Entry → Prop
  | added {kind lane t lane'} (hen : s.isEnabled = true) (hlane : s.lane? kind = some lane)
    (hroom : ¬ lane.IsFull) (hframe : t.frame = frame) (hadds : lane.Adds lane.tickets t lane') :
    Takes s frame kind (s.setLane lane' kind) [.accepted kind t]
  | displaced {t lane' pre old post} (hen : s.isEnabled = true)
    (hdrop : s.config.pools.dropNonKeyOnOverflow = true) (hfull : s.video.IsFull)
    (htickets : s.video.tickets = pre ++ old :: post) (hold : old.frame.isKey = false)
    (hpre : ∀ u ∈ pre, u.frame.isKey = true) (hframe : t.frame = frame)
    (hadds : s.video.Adds (pre ++ post) t lane')
    (hstill : lane'.stats.inFlight = lane'.stats.capacity) :
    Takes s frame .video (s.setLane lane' .video) [.evicted old, .accepted .video t]

/-- A stream that takes a frame has no reason to refuse it. -/
theorem Takes.not_refuses (h : s.Takes frame kind s' es) : ¬ s.Refuses kind cause := by
  intro hrefuses
  cases h with
  | added hen hlane hroom _ _ =>
    cases hrefuses with
    | noAudioTrack haudio => cases haudio.symm.trans hlane
    | streamDisabled _ hdis => cases hen.symm.trans hdis
    | thumbnailPoolFull _ hfull =>
      cases hlane
      exact hroom hfull
    | poolExhausted _ hlane' _ hfull _ =>
      cases hlane.symm.trans hlane'
      exact hroom hfull
  | displaced hen hdrop _ htickets hold _ _ _ _ =>
    cases hrefuses with
    | streamDisabled _ hdis => cases hen.symm.trans hdis
    | poolExhausted _ _ _ _ hkept =>
      exact hkept ⟨rfl, hdrop, _, by rw [htickets]; simp, hold⟩

/-- The reasons exclude each other. -/
theorem Refuses.unique {cause' : SubmitError} (h : s.Refuses kind cause)
    (h' : s.Refuses kind cause') : cause = cause' := by
  cases h with
  | noAudioTrack haudio =>
    cases h' with
    | noAudioTrack _ => rfl
    | streamDisabled hlane _ => cases haudio.symm.trans hlane
    | poolExhausted _ hlane _ _ _ => cases haudio.symm.trans hlane
  | streamDisabled hlane hdis =>
    cases h' with
    | noAudioTrack haudio => cases haudio.symm.trans hlane
    | streamDisabled _ _ => rfl
    | thumbnailPoolFull hen _ => cases hen.symm.trans hdis
    | poolExhausted hen _ _ _ _ => cases hen.symm.trans hdis
  | thumbnailPoolFull hen _ =>
    cases h' with
    | streamDisabled _ hdis => cases hen.symm.trans hdis
    | thumbnailPoolFull _ _ => rfl
    | poolExhausted _ _ hkind _ _ => exact absurd rfl hkind
  | poolExhausted hen hlane hkind _ _ =>
    cases h' with
    | noAudioTrack haudio => cases haudio.symm.trans hlane
    | streamDisabled _ hdis => cases hen.symm.trans hdis
    | thumbnailPoolFull _ _ => exact absurd rfl hkind
    | poolExhausted _ _ _ _ _ => rfl

/-! ## One try -/

section

variable {lane lane₁ lane' : Lane} {old t : Ticket} {mayDrop : Bool}

theorem offer_of_disabled (hlane : s.lane? kind = some lane) (hen : s.isEnabled = false) :
    s.offer kind frame mayDrop = .error .streamDisabled := by
  simp [offer, hlane, hen]

theorem offer_of_push (hen : s.isEnabled = true) (hlane : s.lane? kind = some lane)
    (hpush : lane.push? frame = some (t, lane')) :
    s.offer kind frame mayDrop = .ok (s.setLane lane' kind, [.accepted kind t]) := by
  simp [offer, hlane, hen, hpush]

theorem offer_thumbnail_of_full (hen : s.isEnabled = true)
    (hfull : s.thumbnails.push? frame = none) :
    s.offer .thumbnail frame mayDrop = .error .thumbnailPoolFull := by
  simp [offer, show s.lane? .thumbnail = some s.thumbnails from rfl, hen, hfull]

theorem offer_of_full (hen : s.isEnabled = true) (hlane : s.lane? kind = some lane)
    (hkind : kind ≠ .thumbnail) (hfull : lane.push? frame = none)
    (hkept : mayDrop = true → lane.dropNonKey? = none) :
    s.offer kind frame mayDrop = .error (.poolExhausted kind) := by
  have hnone : (if mayDrop = true then lane.dropNonKey? else none) = none := by
    by_cases hmay : mayDrop = true
    · rw [if_pos hmay, hkept hmay]
    · rw [if_neg hmay]
  simp [offer, hlane, hen, hfull, hkind, hnone]

theorem offer_of_drop (hen : s.isEnabled = true) (hlane : s.lane? kind = some lane)
    (hkind : kind ≠ .thumbnail) (hfull : lane.push? frame = none)
    (hold : lane.dropNonKey? = some (old, lane₁)) (hpush : lane₁.push? frame = some (t, lane')) :
    s.offer kind frame true = .ok (s.setLane lane' kind, [.evicted old, .accepted kind t]) := by
  simp [offer, hlane, hen, hfull, hkind, hold, hpush]

/-- Only a video lane throws frames out. -/
theorem LanesSound.video_of_drop (hs : s.LanesSound) (hlane : s.lane? kind = some lane)
    (hold : lane.dropNonKey? = some (old, lane₁)) : kind = .video := by
  obtain ⟨hsound, hkind⟩ := hs kind lane hlane
  exact hkind.symm.trans (hsound.dropNonKey hold).2.1

/-- Where there is room to be made, the lane has a frame to throw out. -/
theorem LanesSound.not_makesRoom (hs : s.LanesSound) (hlane : s.lane? kind = some lane)
    (hkept : s.config.pools.dropNonKeyOnOverflow = true → lane.dropNonKey? = none) :
    ¬ s.MakesRoom kind := by
  rintro ⟨rfl, hdrop, u, hu, hkey⟩
  cases hlane
  obtain ⟨hsound, hkind⟩ := hs .video s.video rfl
  rcases hsound.dropNonKey_eq_none_iff.mp (hkept hdrop) with hother | hall
  · exact hother hkind
  · cases hkey.symm.trans (hall u hu)

/-- A lane with a free cell takes a frame in. -/
theorem LanesSound.adds (hs : s.LanesSound) (hen : s.isEnabled = true)
    (hlane : s.lane? kind = some lane) (hpush : lane.push? frame = some (t, lane')) :
    s.Takes frame kind (s.setLane lane' kind) [.accepted kind t] := by
  obtain ⟨hsound, -⟩ := hs kind lane hlane
  obtain ⟨hframe, hadds⟩ := hsound.adds hpush
  have hroom : ¬ lane.IsFull := by
    intro hfull
    rw [Lane.push_eq_none_iff_isFull.mpr hfull] at hpush
    cases hpush
  exact .added hen hlane hroom hframe hadds

/-- A full video lane takes a frame in after it has thrown another out. -/
theorem LanesSound.displaces (hs : s.LanesSound) (hen : s.isEnabled = true)
    (hdrop : s.config.pools.dropNonKeyOnOverflow = true) (hlane : s.lane? kind = some lane)
    (hfull : lane.push? frame = none) (hold : lane.dropNonKey? = some (old, lane₁))
    (hpush : lane₁.push? frame = some (t, lane')) :
    s.Takes frame kind (s.setLane lane' kind) [.evicted old, .accepted kind t] := by
  obtain rfl := hs.video_of_drop hlane hold
  cases hlane
  obtain ⟨hsound, -⟩ := hs .video s.video rfl
  obtain ⟨hsound₁, -, hkey, ⟨pre, post, htickets, htickets₁, hpre⟩, -, hunmoved⟩ :=
    hsound.dropNonKey hold
  obtain ⟨hframe, hadds⟩ := hsound₁.adds hpush
  rw [htickets₁] at hadds
  have hunmoved' := hunmoved.trans hadds.unmoved
  -- as many frames as the lane has cells, less the one thrown out
  have hheld : (pre ++ post).length + 1 = s.video.pool.capacity := by
    have hall := hsound.push_eq_none_iff.mp hfull
    rw [htickets] at hall
    simp only [List.length_append, List.length_cons] at hall ⊢
    omega
  refine .displaced hen hdrop (Lane.push_eq_none_iff_isFull.mp hfull) htickets hkey hpre hframe
    ⟨hadds.places, hadds.inFlight, hunmoved'⟩ ?_
  exact hadds.inFlight.trans (hheld.trans hunmoved'.capacity.symm)

end

/-! ## Trying again -/

/-- A producer tries to get a frame into a lane until the lane takes it, or no longer. `fresh` says
that it has not waited yet: only then a queued frame may be thrown out, before the next try. Between
two tries nothing else happens. Told are why the frame was refused, if it was, and what the tries
have made of the stream. -/
inductive Insists (kind : LaneKind) (frame : Frame) :
    Bool → Stream → Option SubmitError → Stream → List Entry → Prop
  | noLane {fresh s} (hlane : s.lane? kind = none) :
    Insists kind frame fresh s (some .noAudioTrack) s []
  | disabled {fresh s lane} (hlane : s.lane? kind = some lane) (hen : s.isEnabled = false) :
    Insists kind frame fresh s (some .streamDisabled) s []
  | enters {fresh s lane t lane'} (hen : s.isEnabled = true) (hlane : s.lane? kind = some lane)
    (hpush : lane.push? frame = some (t, lane')) :
    Insists kind frame fresh s none (s.setLane lane' kind) [.accepted kind t]
  | skips {fresh s lane} (hen : s.isEnabled = true) (hlane : s.lane? kind = some lane)
    (hkind : kind = .thumbnail) (hfull : lane.push? frame = none) :
    Insists kind frame fresh s (some .thumbnailPoolFull) s []
  | evicts {s lane old lane₁ refusal s' es} (hen : s.isEnabled = true)
    (hlane : s.lane? kind = some lane) (hkind : kind ≠ .thumbnail)
    (hfull : lane.push? frame = none) (hdrop : s.config.pools.dropNonKeyOnOverflow = true)
    (hold : lane.dropNonKey? = some (old, lane₁))
    (h : Insists kind frame true (s.setLane lane₁ kind) refusal s' es) :
    Insists kind frame true s refusal s' (.evicted old :: es)
  | givesUp {fresh s lane} (hen : s.isEnabled = true) (hlane : s.lane? kind = some lane)
    (hkind : kind ≠ .thumbnail) (hfull : lane.push? frame = none)
    (hkept : fresh = true → s.config.pools.dropNonKeyOnOverflow = true →
      lane.dropNonKey? = none) :
    Insists kind frame fresh s (some (.poolExhausted kind)) s []
  | waits {fresh s lane refusal s' es} (hen : s.isEnabled = true)
    (hlane : s.lane? kind = some lane) (hkind : kind ≠ .thumbnail)
    (hfull : lane.push? frame = none)
    (hkept : fresh = true → s.config.pools.dropNonKeyOnOverflow = true →
      lane.dropNonKey? = none)
    (h : Insists kind frame false s refusal s' es) :
    Insists kind frame fresh s refusal s' es

/-- What a producer is told, and what has become of the stream. -/
def answer (s : Stream) :
    Except SubmitError (Stream × List Entry) → Option SubmitError × Stream × List Entry
  | .ok (s', es) => (none, s', es)
  | .error cause => (some cause, s, [])

/-- To try again is of no use: the answer is that of the first try, in which a queued frame may be
thrown out. -/
theorem Insists.offer {fresh : Bool} {refusal : Option SubmitError}
    (h : Insists kind frame fresh s refusal s' es) (hs : s.LanesSound) :
    s.answer (s.offer kind frame (fresh && s.config.pools.dropNonKeyOnOverflow))
      = (refusal, s', es) := by
  induction h with
  | noLane hlane => simp [Stream.offer, hlane, answer]
  | disabled hlane hen => rw [offer_of_disabled hlane hen, answer]
  | enters hen hlane hpush => rw [offer_of_push hen hlane hpush, answer]
  | skips hen hlane hkind hfull =>
    subst hkind
    cases hlane
    rw [offer_thumbnail_of_full hen hfull, answer]
  | @evicts s lane old lane₁ refusal s' es hen hlane hkind hfull hdrop hold _ ih =>
    -- the cell that became free is there for the next try
    obtain ⟨⟨t, lane'⟩, hpush⟩ := Option.ne_none_iff_exists'.mp
      ((hs kind lane hlane).1.push_of_dropNonKey hold frame)
    have hnext := ih (hs.evict hlane hold).1
    rw [offer_of_push ((isEnabled_setLane ..).trans hen) (lane?_setLane_self ..) hpush, answer,
      setLane_setLane] at hnext
    cases hnext
    rw [hdrop, Bool.and_true, offer_of_drop hen hlane hkind hfull hold hpush, answer]
  | givesUp hen hlane hkind hfull hkept =>
    rw [offer_of_full hen hlane hkind hfull, answer]
    simpa using hkept
  | waits hen hlane hkind hfull hkept _ ih =>
    have hagain := ih hs
    rw [offer_of_full hen hlane hkind hfull (by simp)] at hagain
    rw [offer_of_full hen hlane hkind hfull (by simpa using hkept), hagain]

/-! ## The answer -/

/-- **A submitted frame is refused for a reason, or taken in.** Both are what a producer comes to
who insists. -/
theorem LanesSound.submit (hs : s.LanesSound) (kind : LaneKind) (frame : Frame) :
    (∃ cause, s.submit kind frame = .error cause ∧ s.Refuses kind cause ∧
        Insists kind frame true s (some cause) s []) ∨
      ∃ s' es, s.submit kind frame = .ok (s', es) ∧ s.Takes frame kind s' es ∧
        Insists kind frame true s none s' es := by
  cases hlane : s.lane? kind with
  | none =>
    cases kind with
    | audio =>
      exact .inl ⟨_, by simp [Stream.submit, Stream.offer, hlane], .noAudioTrack hlane,
        .noLane hlane⟩
    | video | thumbnail => cases hlane
  | some lane =>
    cases hen : s.isEnabled with
    | false =>
      exact .inl ⟨_, offer_of_disabled hlane hen, .streamDisabled hlane hen, .disabled hlane hen⟩
    | true =>
      cases hpush : lane.push? frame with
      | some r =>
        exact .inr ⟨_, _, offer_of_push hen hlane hpush, hs.adds hen hlane hpush,
          .enters hen hlane hpush⟩
      | none =>
        have hfull := Lane.push_eq_none_iff_isFull.mp hpush
        by_cases hkind : kind = .thumbnail
        · subst hkind
          cases hlane
          exact .inl ⟨_, offer_thumbnail_of_full hen hpush, .thumbnailPoolFull hen hfull,
            .skips hen rfl rfl hpush⟩
        · by_cases hkept : s.config.pools.dropNonKeyOnOverflow = true → lane.dropNonKey? = none
          · exact .inl ⟨_, offer_of_full hen hlane hkind hpush hkept,
              .poolExhausted hen hlane hkind hfull (hs.not_makesRoom hlane hkept),
              .givesUp hen hlane hkind hpush fun _ => hkept⟩
          · obtain ⟨hdrop, hsome⟩ := Classical.not_imp.mp hkept
            obtain ⟨⟨old, lane₁⟩, hold⟩ := Option.ne_none_iff_exists'.mp hsome
            obtain ⟨⟨t, lane'⟩, hpush'⟩ := Option.ne_none_iff_exists'.mp
              ((hs kind lane hlane).1.push_of_dropNonKey hold frame)
            have hmade := offer_of_drop hen hlane hkind hpush hold hpush'
            rw [← hdrop] at hmade
            have hinsists : Insists kind frame true s none (s.setLane lane' kind)
                [.evicted old, .accepted kind t] := by
              rw [← setLane_setLane s lane₁ lane' kind]
              exact .evicts hen hlane hkind hpush hdrop hold
                (.enters ((isEnabled_setLane ..).trans hen) (lane?_setLane_self ..) hpush')
            exact .inr ⟨_, _, hmade, hs.displaces hen hdrop hlane hpush hold hpush', hinsists⟩

/-- A submission, as one who submits a frame sees it. -/
structure Decides (s : Stream) (kind : LaneKind) (frame : Frame) : Prop where
  /-- The frame is refused exactly for the reasons there are. -/
  refused : ∀ cause, s.submit kind frame = .error cause ↔ s.Refuses kind cause
  taken : ∀ s' es, s.submit kind frame = .ok (s', es) → s.Takes frame kind s' es
  /-- It is either refused or taken in. -/
  excluded : (∃ s' es, s.Takes frame kind s' es) ↔ ∀ cause, ¬ s.Refuses kind cause
  /-- No producer gets another answer by insisting. -/
  insisting : ∀ refusal s' es, Insists kind frame true s refusal s' es ↔
    s.answer (s.submit kind frame) = (refusal, s', es)

/-- **Submission is all or nothing.** -/
theorem LanesSound.decides (hs : s.LanesSound) (kind : LaneKind) (frame : Frame) :
    s.Decides kind frame := by
  have hoffer : ∀ refusal s' es, Insists kind frame true s refusal s' es →
      s.answer (s.submit kind frame) = (refusal, s', es) := by
    intro refusal s' es h
    have hanswer := h.offer hs
    rwa [Bool.true_and] at hanswer
  rcases hs.submit kind frame with
    ⟨cause, hmade, hrefuses, hinsists⟩ | ⟨s', es, hmade, htakes, hinsists⟩
  · constructor
    · intro cause'
      rw [hmade, Except.error.injEq]
      exact ⟨fun heq => heq ▸ hrefuses, fun h => hrefuses.unique h⟩
    · intro s' es h
      cases hmade.symm.trans h
    · constructor
      · rintro ⟨s', es, htakes⟩ cause'
        exact htakes.not_refuses
      · intro hnone
        exact absurd hrefuses (hnone cause)
    · intro refusal s' es
      refine ⟨hoffer refusal s' es, fun hanswer => ?_⟩
      rw [hmade] at hanswer
      cases hanswer
      exact hinsists
  · constructor
    · intro cause
      rw [hmade]
      constructor
      · intro heq
        cases heq
      · intro hrefuses
        exact absurd hrefuses htakes.not_refuses
    · intro s₁ es₁ h
      cases hmade.symm.trans h
      exact htakes
    · exact ⟨fun ⟨_, _, h⟩ _ => h.not_refuses, fun _ => ⟨s', es, htakes⟩⟩
    · intro refusal s₁ es₁
      refine ⟨hoffer refusal s₁ es₁, fun hanswer => ?_⟩
      rw [hmade] at hanswer
      cases hanswer
      exact hinsists

end Stream

end CameraRecorder

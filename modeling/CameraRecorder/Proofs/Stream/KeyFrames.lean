import CameraRecorder.Proofs.Stream.Leftovers
import CameraRecorder.Proofs.Stream.Previews

/-!
# Requests for a key frame

A stream without a file asks the camera for a key frame when it meets a frame that is none, and
then asks again only for frames that are a second later, or that come before the one it asked for.
What the stream remembers of its last request is what the journal tells of it (`Stream.LastAsked`):
nothing but the beginning of a file makes it forget.
-/

namespace CameraRecorder

/-- Whether an entry asks for a key frame, or tells that a file begins, which needs one no more. -/
def Entry.marksKeyFrame : Entry → Bool
  | .keyFrame _ | .event (.fileBegin _) => true
  | _ => false

namespace Stream

variable {s s' : Stream} {m : Move} {es journal : List Entry} {t : Ticket} {asked : Timestamp}

/-! ## The last request -/

/-- The last request for a key frame since a file began was made for a frame with this timestamp:
the frame that was taken last when it was made. -/
def LastAsked (journal : List Entry) (asked : Timestamp) : Prop :=
  ∃ pre channel post t, journal = pre ++ .keyFrame channel :: post ∧
    (takenVideos pre).getLast? = some t ∧ t.frame.pts = asked ∧ ∀ e ∈ post, e.marksKeyFrame = false

theorem LastAsked.nil : ¬ LastAsked [] asked := by
  rintro ⟨pre, channel, post, t, h, -⟩
  cases pre <;> cases h

theorem LastAsked.append_iff (hes : ∀ e ∈ es, e.marksKeyFrame = false) :
    LastAsked (journal ++ es) asked ↔ LastAsked journal asked := by
  constructor
  · rintro ⟨pre, channel, post, t, h, hlast, hasked, hpost⟩
    obtain ⟨mid, rfl, rfl⟩ := exists_of_not_mem_right h fun he => by cases hes _ he
    exact ⟨pre, channel, mid, t, rfl, hlast, hasked,
      fun e he => hpost e (List.mem_append_left _ he)⟩
  · rintro ⟨pre, channel, post, t, rfl, hlast, hasked, hpost⟩
    exact ⟨pre, channel, post ++ es, t, by simp, hlast, hasked,
      List.forall_mem_append.mpr ⟨hpost, hes⟩⟩

/-- A request is the last one when it is made. -/
theorem LastAsked.append_keyFrame_iff (hlast : (takenVideos journal).getLast? = some t)
    (channel : UInt32) :
    LastAsked (journal ++ [.keyFrame channel]) asked ↔ t.frame.pts = asked := by
  constructor
  · rintro ⟨pre, channel', post, t', h, hlast', rfl, hpost⟩
    rcases List.eq_nil_or_concat post with rfl | ⟨init, e, rfl⟩
    · obtain ⟨rfl, -⟩ := List.append_inj' h rfl
      rw [hlast] at hlast'
      rw [Option.some.inj hlast']
    · rw [List.concat_eq_append, ← List.cons_append, ← List.append_assoc] at h
      obtain ⟨-, hmade⟩ := List.append_inj' h rfl
      cases hmade
      cases hpost (.keyFrame channel) (by simp)
  · rintro rfl
    exact ⟨journal, channel, [], t, rfl, hlast, rfl, List.forall_mem_nil _⟩

/-- When a file has begun none has been asked for since. -/
theorem LastAsked.append_fileBegin (path : Path) :
    ¬ LastAsked (journal ++ [.event (.fileBegin path)]) asked := by
  rintro ⟨pre, channel, post, t, h, -, -, hpost⟩
  obtain ⟨mid, -, rfl⟩ := exists_of_not_mem_right h (by simp)
  cases hpost (.event (.fileBegin path)) (by simp)

/-! ## What a move does about key frames -/

/-- The worker meets a video frame that is no key frame when it has no open file; the stream is
enabled, and was when the wake began. -/
structure Meets (s : Stream) (t : Ticket) : Prop where
  opening : s.activity = .awake true (.opening t)
  bare : s.file = none
  enabled : s.isEnabled = true
  nonKey : t.frame.isKey = false

/-- What a move does about key frames. -/
inductive Prompts (s : Stream) (m : Move) (es : List Entry) (s' : Stream) : Prop
  /-- Nothing. -/
  | apart (hes : ∀ e ∈ es, e.marksKeyFrame = false)
    (hasked : s'.keyFrameAskedAt = s.keyFrameAskedAt)
  | asks {ticket} (hm : m = .advance) (h : s.activity = .awake true (.opening ticket))
    (hen : s.isEnabled = true) (hkey : ticket.frame.isKey = false)
    (hdue : s.keyFrameDue ticket.frame.pts = true) (hes : es = [.keyFrame s.handle.channelId])
    (hasked : s'.keyFrameAskedAt = some ticket.frame.pts)
  /-- The writer has opened a file. -/
  | begins {path} (hes : es = [.event (.fileBegin path)]) (hasked : s'.keyFrameAskedAt = none)

theorem keyFrameAskedAt_setLane (s : Stream) (l : Lane) (kind : LaneKind) :
    (s.setLane l kind).keyFrameAskedAt = s.keyFrameAskedAt := by
  cases kind <;> rfl

theorem Step.prompts (h : Step s m s' es) : s.Prompts m es s' := by
  have hsnapshots {es : List Entry} (hes : ∀ e ∈ es, e.isSnapshot = true) :
      ∀ e ∈ es, e.marksKeyFrame = false :=
    forall_mem_snapshots hes (fun _ => rfl) fun _ => rfl
  cases h with
  | askKeyFrame h hen hkey hdue => exact .asks rfl h hen hkey hdue rfl rfl
  | create => exact .begins rfl rfl
  | accept | displace => exact .apart (by simp [Entry.marksKeyFrame]) (keyFrameAskedAt_setLane ..)
  | take _ htake _ | takeInterrupted _ htake _ =>
    obtain ⟨l, l', -, rfl⟩ := takeFrame?_eq_some htake
    exact .apart (by simp [Entry.marksKeyFrame]) (keyFrameAskedAt_setLane ..)
  | sleep | closeLast | turnIdle | collect =>
    obtain ⟨waiting, kept, hsnap⟩ := s.exists_collectThumbnail
    exact .apart (hsnapshots s.isSnapshot_collectThumbnail) (by rw [hsnap]; rfl)
  | appendTrailer | finishBare =>
    obtain ⟨waiting, kept, hsnap⟩ := s.exists_latchThumbnail
    exact .apart (List.forall_mem_append.mpr ⟨hsnapshots s.isSnapshot_latchThumbnail,
      List.forall_mem_singleton.mpr rfl⟩) (by rw [hsnap]; rfl)
  | retire => exact .apart (s.forall_mem_retire fun _ _ => rfl) rfl
  | name | askThumbnail | finish =>
    exact .apart (List.forall_mem_append.mpr
      ⟨forall_mem_optional _ fun _ => rfl, List.forall_mem_singleton.mpr rfl⟩) rfl
  | misnamed | nameless | videoWritten | videoStray | audioWritten | publish | tellEnd =>
    exact .apart (forall_mem_optional _ fun _ => rfl) rfl
  | _ => exact .apart (by simp [Entry.marksKeyFrame]) rfl

/-- A request for a key frame is told of alone. -/
theorem Step.of_keyFrame {channel : UInt32} (h : Step s m s' es) (he : .keyFrame channel ∈ es) :
    es = [.keyFrame channel] := by
  cases h.prompts with
  | apart hes => cases hes _ he
  | asks _ _ _ _ _ hes =>
    rw [hes] at he ⊢
    rw [List.mem_singleton.mp he]
  | begins hes =>
    rw [hes] at he
    cases List.mem_singleton.mp he

/-- The frame that may open a file is the video frame that was taken last. -/
theorem HoldsLast.getLast? {en : Bool} (hlast : s.HoldsLast journal)
    (h : s.activity = .awake en (.opening t)) : (takenVideos journal).getLast? = some t := by
  obtain ⟨items, hitems⟩ := List.getLast?_eq_some_iff.mp
    (hlast ⟨.video, t⟩ (by rw [inHand_awake h]; exact .head _))
  rw [takenVideos, hitems, List.filterMap_append]
  exact List.getLast?_concat

/-! ## What is remembered of the last request -/

/-- The stream remembers its last request since a file began. -/
def RemembersAsking (s : Stream) (journal : List Entry) : Prop :=
  ∀ asked, s.keyFrameAskedAt = some asked ↔ LastAsked journal asked

theorem Step.remembersAsking (h : Step s m s' es) (hlast : s.HoldsLast journal)
    (hr : s.RemembersAsking journal) : s'.RemembersAsking (journal ++ es) := by
  intro asked
  cases h.prompts with
  | apart hes hasked => rw [hasked, LastAsked.append_iff hes, hr asked]
  | asks _ hact _ _ _ hes hasked =>
    rw [hasked, hes, LastAsked.append_keyFrame_iff (hlast.getLast? hact), Option.some_inj]
  | begins hes hasked =>
    rw [hasked, hes]
    exact iff_of_false (fun h => by cases h) (LastAsked.append_fileBegin _)

theorem remembersAsking_create (handle : StreamHandle) (config : StreamConfig) (ms : List Move) :
    ((create handle config).run ms).1.RemembersAsking ((create handle config).run ms).2 := by
  have hcreated : (create handle config).RemembersAsking [] := fun _ =>
    iff_of_false (fun h => by cases h) LastAsked.nil
  have hheld : (create handle config).HoldsLast [] := fun _ hx => by cases hx
  exact (run_induction (P := fun journal s => s.HoldsLast journal ∧ s.RemembersAsking journal)
    (fun hstep h => ⟨hstep.holdsLast h.1, hstep.remembersAsking h.1 h.2⟩) ⟨hheld, hcreated⟩ ms).2

/-! ## When a key frame is asked for -/

/-- Saturation aside, a request is due for a frame that comes before the last request or a second
after it. -/
theorem keyFrameDue_iff (s : Stream) (pts : Timestamp) :
    s.keyFrameDue pts = true ↔ ∀ asked, s.keyFrameAskedAt = some asked →
      pts.toInt < asked.toInt ∨ asked.toInt + 1000000 ≤ pts.toInt := by
  have hlo : Int64.minValue.toInt < keyFrameRetryUs := by decide
  have hhi : keyFrameRetryUs ≤ Int64.maxValue.toInt := by decide
  unfold keyFrameDue
  cases s.keyFrameAskedAt with
  | none => simp
  | some asked =>
    simp only [Option.all_some, Bool.or_eq_true, decide_eq_true_eq, Option.some.injEq,
      forall_eq', Int64.lt_iff_toInt_lt, Timestamp.le_since_iff hlo hhi]
    unfold keyFrameRetryUs
    omega

/-- After a frame was met, the last request is less than a second before it. -/
theorem Meets.exists_asked (h : s.Meets t) :
    ∃ asked, (s.move .advance).1.keyFrameAskedAt = some asked ∧
      asked.toInt ≤ t.frame.pts.toInt ∧ t.frame.pts.toInt < asked.toInt + 1000000 := by
  have hmove : s.move .advance = s.tryOpen true t := by
    show s.advance?.getD (s, []) = _
    rw [advance?, h.opening]
    rfl
  rw [hmove, tryOpen]
  simp only [h.enabled, h.nonKey, Bool.not_true, Bool.or_self, Bool.false_eq_true, if_false]
  by_cases hdue : s.keyFrameDue t.frame.pts = true
  · rw [if_pos hdue]
    exact ⟨t.frame.pts, rfl, Int.le_refl _, by omega⟩
  · rw [if_neg hdue]
    rw [keyFrameDue_iff] at hdue
    push Not at hdue
    obtain ⟨asked, hasked, hle, hlt⟩ := hdue
    exact ⟨asked, hasked, hle, hlt⟩

/-- When the journal of a run was `pre`, the worker met a frame in its next move. -/
def MetAfter (s : Stream) (ms : List Move) (pre : List Entry) (t : Ticket) : Prop :=
  ∃ ms₁ ms₂, ms = ms₁ ++ .advance :: ms₂ ∧ (s.run ms₁).2 = pre ∧ (s.run ms₁).1.Meets t

/-- **Key frames are asked for in time, and not too often.** A key frame is only asked for when the
worker meets a frame that is none, from the channel of the stream, and if one was asked for since a
file began, the frame comes before that request or at least a second after it. After each frame
that is met, the last request since a file began is less than a second before it. -/
theorem key_frame_requests (handle : StreamHandle) (config : StreamConfig) (ms : List Move) :
    let r := (create handle config).run ms
    (∀ pre channel post, r.2 = pre ++ .keyFrame channel :: post →
      channel = handle.channelId ∧ ∃ t, (create handle config).MetAfter ms pre t ∧
        (takenVideos pre).getLast? = some t ∧
        ∀ asked, LastAsked pre asked →
          t.frame.pts.toInt < asked.toInt ∨ asked.toInt + 1000000 ≤ t.frame.pts.toInt) ∧
      ∀ t, r.1.Meets t → ∃ asked, LastAsked (r.2 ++ (r.1.move .advance).2) asked ∧
        asked.toInt ≤ t.frame.pts.toInt ∧ t.frame.pts.toInt < asked.toInt + 1000000 := by
  intro r
  constructor
  · intro pre channel post h
    obtain ⟨ms₁, m, ms₂, rfl, rfl, hmade, -⟩ :=
      exists_lone_move (fun s m he => (s.step_move m).of_keyFrame he) h
    cases (step_move _ m).prompts with
    | apart hes => cases hes (.keyFrame channel) (by rw [hmade]; exact .head _)
    | begins hes => cases hmade.symm.trans hes
    | @asks t hm hact hen hkey hdue hes _ =>
      cases hmade.symm.trans hes
      have hs := shaped_run (shaped_create handle config) ms₁
      have hremembers := remembersAsking_create handle config ms₁
      refine ⟨congrArg StreamHandle.channelId ((create handle config).same_run ms₁).handle, t,
        ⟨ms₁, ms₂, by rw [hm], rfl, hact, hs.file_eq_none hact rfl, hen, hkey⟩,
        (holdsLast_create handle config ms₁).getLast? hact, fun asked hlast => ?_⟩
      exact (keyFrameDue_iff _ _).mp hdue asked ((hremembers asked).mpr hlast)
  · intro t hmeets
    obtain ⟨asked, hasked, hbounds⟩ := hmeets.exists_asked
    have hremembers := remembersAsking_create handle config (ms ++ [.advance])
    rw [run_append] at hremembers
    rw [run_cons, run_nil, List.append_nil] at hremembers
    exact ⟨asked, (hremembers asked).mp hasked, hbounds⟩

/-- Frames that are no key frames come half a second apart, from the first moment of all on. -/
def starved : List Move :=
  [.start, .submit .video ⟨[1], Int64.minValue, false⟩,
    .submit .video ⟨[2], Int64.minValue + 500000, false⟩,
    .submit .video ⟨[3], Int64.minValue + 1000000, false⟩, .wake,
    .advance, .advance, .advance, .reply none, .advance, .advance, .advance, .advance, .advance,
    .advance, .advance]

/-- A key frame is asked for with the first frame, not with the second, and again with the third. -/
theorem key_frame_requests_starved :
    let r := (create ⟨0, 0, 7⟩ secondLong).run starved
    r.2.countP Entry.marksKeyFrame = 1 ∧
      r.1.Meets ⟨2, [3], Int64.minValue + 1000000, false⟩ ∧
      ∃ asked, LastAsked (r.2 ++ [.keyFrame 7]) asked ∧
        asked.toInt ≤ (Int64.minValue + 1000000).toInt ∧
        (Int64.minValue + 1000000).toInt < asked.toInt + 1000000 := by
  intro r
  have hmeets : r.1.Meets ⟨2, [3], Int64.minValue + 1000000, false⟩ :=
    ⟨by decide, by decide, by decide, by decide⟩
  have hasks : (r.1.move .advance).2 = [.keyFrame 7] := by decide
  have hlast := (key_frame_requests ⟨0, 0, 7⟩ secondLong starved).2 _ hmeets
  rw [← hasks]
  exact ⟨by decide, hmeets, hlast⟩

end Stream

end CameraRecorder

import CameraRecorder.Proofs.Stream.Hand

/-!
# What a worker's task says about its stream

Some tasks only make sense with an open file, others only without one; a file is only opened with a
key frame; and a stream without audio never has an audio frame in hand. `Stream.Shaped` says so
once, and every move keeps it.
-/

namespace CameraRecorder

/-- Whether the stream has an open file during a task; `none` if it may or may not. -/
def Task.hasFile? : Task → Option Bool
  | opening _ | naming .. | creating .. | askingKeyFrame | retiring => some false
  | beginning _ | writingVideo _ | writingAudio _ | askingThumbnail | closing _ | trailing ..
  | finishing _ | publishing _ | ending _ => some true
  | taking | handling _ | collecting => none

/-- Whether the stream has an open file; `none` if it may or may not. -/
def Activity.hasFile? : Activity → Option Bool
  | awake _ task => task.hasFile?
  | stopped => some false
  | asleep | crashed => none

/-- The frame that a file is being opened with. -/
def Task.opensWith? : Task → Option Ticket
  | naming ticket _ => some ticket
  | creating ticket _ _ => some ticket
  | beginning ticket => some ticket
  | _ => none

namespace Stream

variable {s s' : Stream} {m : Move} {es : List Entry}

/-! ## What never changes -/

@[simp] theorem config_setLane (s : Stream) (l : Lane) (kind : LaneKind) :
    (s.setLane l kind).config = s.config := by
  cases kind <;> rfl

@[simp] theorem handle_setLane (s : Stream) (l : Lane) (kind : LaneKind) :
    (s.setLane l kind).handle = s.handle := by
  cases kind <;> rfl

@[simp] theorem activity_setLane (s : Stream) (l : Lane) (kind : LaneKind) :
    (s.setLane l kind).activity = s.activity := by
  cases kind <;> rfl

@[simp] theorem file_setLane (s : Stream) (l : Lane) (kind : LaneKind) :
    (s.setLane l kind).file = s.file := by
  cases kind <;> rfl

/-- A stream that has a lane of a kind is given another one, so it has the same lanes. -/
theorem isSome_audio_setLane {l l' : Lane} {kind : LaneKind} (h : s.lane? kind = some l) :
    (s.setLane l' kind).audio.isSome = s.audio.isSome := by
  cases kind with
  | video | thumbnail => rfl
  | audio =>
    have haudio : s.audio = some l := h
    rw [haudio]
    rfl

/-- A stream stays the stream it was made as. -/
structure Same (s s' : Stream) : Prop where
  config : s'.config = s.config
  handle : s'.handle = s.handle
  audio : s'.audio.isSome = s.audio.isSome

theorem Same.refl (s : Stream) : s.Same s := ⟨rfl, rfl, rfl⟩

theorem Same.trans {s'' : Stream} (h : s.Same s') (h' : s'.Same s'') : s.Same s'' :=
  ⟨h'.config.trans h.config, h'.handle.trans h.handle, h'.audio.trans h.audio⟩

theorem Same.policy (h : s.Same s') : s'.policy = s.policy := by
  rw [Stream.policy, h.config]
  rfl

theorem same_setLane {l l' : Lane} {kind : LaneKind} (h : s.lane? kind = some l) :
    s.Same (s.setLane l' kind) :=
  ⟨config_setLane .., handle_setLane .., isSome_audio_setLane h⟩

theorem Step.same (h : Step s m s' es) : s.Same s' := by
  cases h with
  | accept _ _ hl _ | displace _ _ hl _ _ _ => exact same_setLane hl
  | take _ htake _ | takeInterrupted _ htake _ =>
    obtain ⟨l, l', hl, rfl⟩ := takeFrame?_eq_some htake
    exact ⟨config_setLane .., handle_setLane .., isSome_audio_setLane hl⟩
  | sleep | closeLast | turnIdle | collect =>
    obtain ⟨waiting, kept, h⟩ := s.exists_collectThumbnail
    rw [h]
    exact ⟨rfl, rfl, rfl⟩
  | appendTrailer | finishBare =>
    obtain ⟨waiting, kept, h⟩ := s.exists_latchThumbnail
    rw [h]
    exact ⟨rfl, rfl, rfl⟩
  | retire _ => exact ⟨rfl, rfl, by simp [Stream.retire]⟩
  | _ => exact ⟨rfl, rfl, rfl⟩

theorem same_run (s : Stream) (ms : List Move) : s.Same (s.run ms).1 :=
  run_invariant (P := fun s' => s.Same s') (fun h hs => hs.trans h.same) (.refl s) ms

/-! ## The shape of a stream -/

/-- What holds of a stream and its worker's task at all times. -/
structure Shaped (s : Stream) : Prop where
  file : ∀ b, s.activity.hasFile? = some b → s.file.isSome = b
  key : ∀ t, s.activity.task?.bind Task.opensWith? = some t → t.frame.isKey = true
  audio : s.audio.isSome = true → s.config.audio.isSome = true
  hand : ∀ x ∈ s.inHand, x.lane = .audio → s.config.audio.isSome = true

theorem shaped_create (handle : StreamHandle) (config : StreamConfig) :
    (create handle config).Shaped where
  file _ h := by cases h
  key _ h := by cases h
  audio h := by simpa [create] using h
  hand _ h := by cases h

theorem Shaped.exists_file (hs : s.Shaped) {en : Bool} {task : Task}
    (h : s.activity = .awake en task) (htask : task.hasFile? = some true) :
    ∃ f, s.file = some f :=
  Option.isSome_iff_exists.mp (hs.file true (by rw [h]; exact htask))

theorem Shaped.file_eq_none (hs : s.Shaped) {en : Bool} {task : Task}
    (h : s.activity = .awake en task) (htask : task.hasFile? = some false) : s.file = none := by
  have hfile := hs.file false (by rw [h]; exact htask)
  simpa using hfile

theorem Shaped.recording_iff (hs : s.Shaped) : s.phase = .recording ↔ s.file.isSome = true := by
  unfold phase
  by_cases hstopped : s.activity = .stopped
  · have hclosed : s.activity.hasFile? = some false := by
      rw [hstopped]
      rfl
    simp [hstopped, hs.file false hclosed]
  · cases s.file <;> simp [hstopped]

theorem isSome_of_isInterrupted (h : s.isInterrupted = true) : s.file.isSome = true := by
  unfold isInterrupted at h
  cases hfile : s.file with
  | none => simp [hfile] at h
  | some file => rfl

theorem isSome_file_collectThumbnail (s : Stream) :
    s.collectThumbnail.1.file.isSome = s.file.isSome := by
  obtain ⟨waiting, kept, h⟩ := s.exists_collectThumbnail
  simp [h, withSnapshots]

theorem isSome_file_latchThumbnail (s : Stream) :
    s.latchThumbnail.1.file.isSome = s.file.isSome := by
  obtain ⟨waiting, kept, h⟩ := s.exists_latchThumbnail
  simp [h, withSnapshots]

/-- A task that needs a file, or none, is only turned to when that is so. -/
theorem Step.file (h : Step s m s' es)
    (hs : ∀ b, s.activity.hasFile? = some b → s.file.isSome = b) :
    ∀ b, s'.activity.hasFile? = some b → s'.file.isSome = b := by
  intro b hb
  cases h with
  | idle | start | stop | shutDown | misnamed => exact hs b hb
  | accept | displace =>
    rw [activity_setLane] at hb
    rw [file_setLane]
    exact hs b hb
  -- the next task is turned to with or without a file
  | wake | take | sleep | loseAudio | loseDisabled | loseNonKey | collect | nameless | fail
  | videoWritten | videoStray | audioWritten | asked => cases hb
  -- the file was looked at just before
  | wakeInterrupted _ _ hi | takeInterrupted _ _ hi =>
    cases hb
    exact isSome_of_isInterrupted hi
  | closeLast _ _ hfile =>
    cases hb
    exact hfile
  | turnIdle _ _ hfile =>
    cases hb
    exact Option.isSome_eq_false_iff.mpr (Option.isNone_iff_eq_none.mpr hfile)
  | split _ hfile _ | writeVideo _ hfile _ | writeAudio _ hfile =>
    cases hb
    exact Option.isSome_of_eq_some hfile
  | tryOpen _ hfile =>
    cases hb
    exact Option.isSome_eq_false_iff.mpr (Option.isNone_iff_eq_none.mpr hfile)
  | create | askThumbnail =>
    cases hb
    rfl
  -- the task before needed the same
  | askName h _ _ | askKeyFrame h _ _ _ | name h | begin h | finish h | publish h | tellEnd h =>
    cases hb
    exact hs _ (by rw [h]; rfl)
  | appendTrailer h _ | finishBare h _ =>
    cases hb
    exact s.isSome_file_latchThumbnail.trans (hs _ (by rw [h]; rfl))
  | retire h =>
    have hnone : s.file.isSome = false := hs _ (by rw [h]; rfl)
    unfold Stream.retire at hb ⊢
    cases hshut : s.shutdown with
    | true =>
      simp only [hshut, if_true] at hb
      cases hb
      exact hnone
    | false =>
      simp only [hshut, Bool.false_eq_true, if_false] at hb
      cases hb
  | @resume _ next _ h => cases next <;> cases hb <;> rfl

/-- Only a key frame is turned to for opening a file. -/
theorem Step.key (h : Step s m s' es)
    (hs : ∀ t, s.activity.task?.bind Task.opensWith? = some t → t.frame.isKey = true) :
    ∀ t, s'.activity.task?.bind Task.opensWith? = some t → t.frame.isKey = true := by
  intro t ht
  cases h with
  | idle | start | stop | shutDown | misnamed => exact hs t ht
  | accept | displace =>
    rw [activity_setLane] at ht
    exact hs t ht
  | askName _ _ hkey =>
    cases ht
    exact hkey
  | name h | create h _ =>
    cases ht
    exact hs _ (by rw [h]; rfl)
  | retire h =>
    unfold Stream.retire at ht
    cases hshut : s.shutdown <;> simp [hshut, Activity.task?] at ht
  | @resume _ next _ h => cases next <;> cases ht
  | _ => cases ht

/-- A frame in hand was taken out of a lane, so the stream has that lane. -/
theorem Step.audio_inHand (h : Step s m s' es)
    (haudio : s.audio.isSome = true → s.config.audio.isSome = true)
    (hs : ∀ x ∈ s.inHand, x.lane = .audio → s.config.audio.isSome = true) :
    ∀ x ∈ s'.inHand, x.lane = .audio → s'.config.audio.isSome = true := by
  intro x hx hlane
  rw [h.same.config]
  rcases h.hand with hkeeps | ⟨-, -, -, hnone⟩
  · have hx : x ∈ s.inHand ++ takenItems es := hkeeps ▸ List.mem_append_right _ hx
    rcases List.mem_append.mp hx with hx | hx
    · exact hs x hx hlane
    · -- the frame was taken just now
      have := h.lane_of_taken hx
      rw [hlane] at this
      exact haudio this
  · rw [hnone] at hx
    cases hx

theorem Step.shaped (h : Step s m s' es) (hs : s.Shaped) : s'.Shaped where
  file := h.file hs.file
  key := h.key hs.key
  audio := by
    rw [h.same.audio, h.same.config]
    exact hs.audio
  hand := h.audio_inHand hs.audio hs.hand

theorem shaped_run (hs : s.Shaped) (ms : List Move) : (s.run ms).1.Shaped :=
  run_invariant Step.shaped hs ms

/-- A stream without audio never takes an audio frame. -/
theorem audio_of_taken_run (hs : s.Shaped) (ms : List Move) :
    ∀ x ∈ takenItems (s.run ms).2, x.lane = .audio → s.config.audio.isSome = true := by
  induction ms generalizing s with
  | nil => nofun
  | cons m ms ih =>
    intro x hx hlane
    have hstep := s.step_move m
    rw [run_cons, takenItems_append] at hx
    rcases List.mem_append.mp hx with hx | hx
    · have := hstep.lane_of_taken hx
      rw [hlane] at this
      exact hs.audio this
    · rw [← hstep.same.config]
      exact ih (hstep.shaped hs) x hx hlane

end Stream

end CameraRecorder

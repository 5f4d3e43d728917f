import CameraRecorder.Proofs.Recorder.Independence
import CameraRecorder.Proofs.Session.Contents
import CameraRecorder.Proofs.Session.Parts
import CameraRecorder.Proofs.Stream.Leftovers
import CameraRecorder.Proofs.Stream.Quiescence
import CameraRecorder.Proofs.ThumbnailBox.Codec

/-!
# Whose snapshot a box holds

The synthetic camera answers a request for a snapshot with one of the geometry that the stream asked
for, and sends it to all streams. So what a stream embeds was made for a stream that had asked,
which may be another one; the box around it tells the geometry of the stream that embeds it
(`Session.boxes_of_askers`). When no stream with another picture has asked, a box describes what is
in it.
-/

namespace CameraRecorder

/-! ## Trailers of a stream -/

namespace Stream

variable {s s' : Stream} {m : Move} {es : List Entry} {t : Ticket} {data : Bytes} {en : Bool}

theorem trailerOf?_eq_some_iff :
    s.trailerOf? t = some data ↔
      (ThumbnailBox.mk s.config.thumbnail t.frame.data).encode = .ok data := by
  unfold trailerOf?
  cases (ThumbnailBox.mk s.config.thumbnail t.frame.data).encode <;> simp

/-- A trailer is what its snapshot makes. -/
theorem trailerOf?_of_trailer (hs : s.Shaped) (hlanes : s.LanesSound) (m : Move)
    (he : .trailer t data ∈ (s.move m).2) : s.trailerOf? t = some data := by
  cases latches_move hs hlanes m with
  | apart hes | collects hes => cases hes _ he
  | creates hes =>
    rw [hes] at he
    simp at he
  | @trailed _ _ _ _ error _ _ hes =>
    rw [hes] at he
    cases error <;> simp at he
  | @closes _ latched _ _ _ _ _ hlatched _ hends =>
    have hunlatched {e : Entry} (h : e.isSnapshot = false) (hin : e ∈ latched) : False := by
      cases h.symm.trans (hlatched e hin)
    rcases hends with ⟨snapshot, data', htrailer, hes, -⟩ | ⟨-, hes, -⟩
    · rw [hes, List.mem_append, List.mem_singleton] at he
      rcases he with he | he
      · exact (hunlatched rfl he).elim
      · cases he
        obtain ⟨kept, hkept, hmade⟩ := Option.bind_eq_some_iff.mp htrailer
        obtain ⟨made, hmade, heq⟩ := Option.map_eq_some_iff.mp hmade
        cases heq
        exact hmade
    · rw [hes, List.mem_append, List.mem_singleton] at he
      rcases he with he | he
      · exact (hunlatched rfl he).elim
      · cases he

/-- **A box that a new stream embeds tells the geometry of that stream**, and holds a snapshot that
was sent to it. -/
theorem Fresh.of_trailer (hs : s.Fresh) {ms : List Move} (h : .trailer t data ∈ (s.run ms).2) :
    .accepted .thumbnail t ∈ (s.run ms).2 ∧
      ThumbnailBox.decode data = .ok ⟨s.config.thumbnail, t.frame.data⟩ := by
  obtain ⟨pre, post, hsplit⟩ := List.append_of_mem h
  constructor
  · obtain ⟨pre₁, pre₂, hpre, -⟩ := hs.taken_before_trailer pre hsplit
    have htaken : ⟨.thumbnail, t⟩ ∈ leavers .taken (s.run ms).2 := by
      rw [mem_leavers_taken, hsplit, hpre]
      simp
    have hcount := hs.conserves ms ⟨.thumbnail, t⟩
    have htaken := List.count_pos_iff.mpr htaken
    have hentered : 0 < (entrants (s.run ms).2).count ⟨.thumbnail, t⟩ := by omega
    exact mem_entrants.mp (List.count_pos_iff.mp hentered)
  · obtain ⟨ms₁, m, ms₂, es₁, es₂, rfl, hmade, -, -⟩ := exists_move_of_entry hsplit
    have hmem : .trailer t data ∈ ((s.run ms₁).1.move m).2 := by
      rw [hmade]
      simp
    have hbox := trailerOf?_of_trailer (shaped_run hs.shaped ms₁) (buffers_run hs.lanes ms₁).1 m
      hmem
    rw [trailerOf?_eq_some_iff, (s.same_run ms₁).config] at hbox
    simpa using ThumbnailBox.decode_append hbox []

/-- A worker that comes to wait for a request for a snapshot has made it. -/
theorem Step.asks (h : Step s m s' es) (hact' : s'.activity = .awake en .askingThumbnail) :
    s.activity = .awake en .askingThumbnail ∨ .thumbnail s.handle.channelId ∈ es := by
  have hasks := hact'
  generalize htask : Task.askingThumbnail = task' at hasks
  rcases h.comes_from hasks with hsame | ⟨task, hact, hleads⟩ | ⟨-, -, -, -, rfl⟩
  · exact .inl (htask ▸ hsame)
  · cases hleads with
    | @resume next => cases next <;> cases htask
    | askThumbnail =>
      clear hasks htask
      cases h with
      | askThumbnail h => exact .inr (by simp)
      | idle | start | stop | shutDown | misnamed => cases hact'.symm.trans hact
      | accept | displace =>
        rw [activity_setLane] at hact'
        cases hact'.symm.trans hact
      | asked h htask => rcases htask with rfl | rfl <;> cases hact.symm.trans h
      | videoWritten | videoStray => cases hact'
      | wake h _ | wakeInterrupted h _ _ | take h _ _ | takeInterrupted h _ _ | sleep h _
      | closeLast h _ _ | turnIdle h _ _ | split h _ _ | writeVideo h _ _ | tryOpen h _
      | writeAudio h _ | loseAudio h _ | loseDisabled h _ | askName h _ _ | askKeyFrame h _ _ _
      | loseNonKey h _ _ _ | collect h | appendTrailer h _ | finishBare h _ | retire h | name h
      | nameless h | create h _ | fail h | begin h | audioWritten h | finish h | publish h
      | tellEnd h | resume h => cases hact.symm.trans h
    | _ => cases htask
  · split at htask <;> cases htask

theorem asked_run (hrest : s.activity.task? = none) (ms : List Move)
    (hact : (s.run ms).1.activity.task? = some .askingThumbnail) :
    .thumbnail s.handle.channelId ∈ (s.run ms).2 := by
  let Asked (journal : List Entry) (s' : Stream) : Prop := s.Same s' ∧
    ∀ en, s'.activity = .awake en .askingThumbnail → .thumbnail s.handle.channelId ∈ journal
  have hstart : Asked [] s := ⟨.refl s, fun en hact => by rw [hact] at hrest; cases hrest⟩
  have hasked : Asked ([] ++ (s.run ms).2) (s.run ms).1 := by
    refine run_induction (fun {journal s₁ m s₂ es} h ⟨hsame, hasked⟩ => ?_) hstart ms
    refine ⟨hsame.trans h.same, fun en hact' => ?_⟩
    rcases h.asks hact' with hact | htold
    · exact List.mem_append_left _ (hasked en hact)
    · rw [hsame.handle] at htold
      exact List.mem_append_right _ htold
  cases h : (s.run ms).1.activity with
  | awake en task =>
    rw [h] at hact
    cases hact
    exact hasked.2 en h
  | asleep | stopped | crashed =>
    rw [h] at hact
    cases hact

end Stream

/-! ## The camera -/

theorem SessionConfig.nodup_of_validate {config : SessionConfig} (h : config.validate = .ok ()) :
    (config.streams.map (·.channelId)).Nodup := (validate_eq_ok_iff.mp h).channels

/-- When no two streams read one channel, a snapshot of a channel has the geometry that its stream
asks for. -/
theorem SyntheticCamera.snapshot?_create {config : SessionConfig}
    (h : (config.streams.map (·.channelId)).Nodup) {asker : StreamConfig}
    (hasker : asker ∈ config.streams) :
    (create config).snapshot? asker.channelId = some asker.thumbnail.snapshot := by
  have hmem : (asker.channelId, asker.thumbnail) ∈ (create config).thumbnails :=
    List.mem_reverse.mpr (List.mem_map_of_mem hasker)
  have hnodup : ((create config).thumbnails.map (·.1)).Nodup := by
    simp only [create, List.map_reverse, List.map_map, List.nodup_reverse]
    exact h
  obtain ⟨before, after, hsplit⟩ := List.append_of_mem hmem
  have hlookup : (create config).thumbnails.lookup asker.channelId = some asker.thumbnail := by
    refine List.lookup_eq_some_iff.mpr ⟨before, after, hsplit, fun p hp => ?_⟩
    rw [hsplit, List.map_append, List.map_cons, List.nodup_middle, List.nodup_cons] at hnodup
    rw [bne_iff_ne]
    rintro heq
    exact hnodup.1 (List.mem_append_left _ (List.mem_map.mpr ⟨p, hp, heq.symm⟩))
  rw [snapshot?, hlookup]
  rfl

/-- Whether an entry tells that a stream took a snapshot in. -/
def Entry.bringsSnapshot : Entry → Bool
  | .accepted .thumbnail _ => true
  | _ => false

namespace Session

variable {camera : SyntheticCamera} {config : SessionConfig} {start s s' s'' : Session}
  {before es es' : Entries} {i : Nat}

/-- What can be done with a session when a camera is the only source of snapshots: it answers a
worker whose request is about to return, and sends the snapshot to any stream. -/
inductive CameraStep (camera : SyntheticCamera) (s : Session) : Entries → Session → Prop
  | apart {es : Entries} {s' : Session} (h : s.Step es s')
    (hes : ∀ e ∈ es, e.2.bringsSnapshot = false) : CameraStep camera s es s'
  | answer {j i : Nat} {asker : Stream} {picture : Bytes} {pts : Timestamp} {r}
    (hj : s.stream? j = some asker) (hasks : asker.activity.task? = some .askingThumbnail)
    (hpicture : camera.snapshot? asker.handle.channelId = some picture)
    (h : s.submitTo i (·.submit .thumbnail ⟨picture, pts, false⟩) = .ok r) :
    CameraStep camera s r.2 r.1

/-- What can be done with a session over time when a camera is the only source of snapshots. -/
inductive CameraSteps (camera : SyntheticCamera) : Session → Entries → Session → Prop
  | nil {s : Session} : CameraSteps camera s [] s
  | cons {s s₁ s' : Session} {es es' : Entries} (h : CameraStep camera s es s₁)
    (hs : CameraSteps camera s₁ es' s') : CameraSteps camera s (es ++ es') s'

theorem CameraStep.step (h : s.CameraStep camera es s') : s.Step es s' := by
  cases h with
  | apart h => exact h
  | answer _ _ _ h => exact .submit h

theorem CameraSteps.trans (h : s.CameraSteps camera es s') (h' : s'.CameraSteps camera es' s'') :
    s.CameraSteps camera (es ++ es') s'' := by
  induction h with
  | nil => exact h'
  | cons hstep _ ih =>
    rw [List.append_assoc]
    exact .cons hstep (ih h')

/-- What brings no snapshot in needs no camera. -/
theorem Steps.withCamera (camera : SyntheticCamera) (h : s.Steps es s')
    (hes : ∀ e ∈ es, e.2.bringsSnapshot = false) : s.CameraSteps camera es s' := by
  induction h with
  | nil => exact .nil
  | cons hstep _ ih =>
    obtain ⟨hfirst, hlater⟩ := List.forall_mem_append.mp hes
    exact .cons (.apart hstep hfirst) (ih hlater)

/-- A submission does not end the task of any worker. -/
theorem activity_of_submitTo {kind : LaneKind} {frame : Frame} {r : Session × Entries}
    (h : s.submitTo i (·.submit kind frame) = .ok r) {j : Nat} {asker : Stream}
    (hj : s.stream? j = some asker) :
    ∃ asker', r.1.stream? j = some asker' ∧ asker'.activity = asker.activity ∧
      asker'.handle = asker.handle := by
  have hdoes := does_submitTo (m := .submit kind frame) (fun _ => rfl) s i j
  rw [h] at hdoes
  have hstep := asker.step_move (.submit kind frame)
  by_cases hij : i = j
  · rw [if_pos hij] at hdoes
    exact ⟨_, hdoes.stream.trans (by rw [hj]; rfl), hstep.activity_of_outside rfl,
      hstep.same.handle⟩
  · rw [if_neg hij] at hdoes
    exact ⟨_, hdoes.stream.trans (by rw [hj]; rfl), rfl, rfl⟩

/-- The camera answers a worker by sending a snapshot to all streams. -/
theorem cameraSteps_broadcast {j : Nat} {asker : Stream} (hj : s.stream? j = some asker)
    (hasks : asker.activity.task? = some .askingThumbnail) {picture : Bytes}
    (hpicture : camera.snapshot? asker.handle.channelId = some picture) (pts : Timestamp) :
    s.CameraSteps camera (s.broadcast .thumbnail ⟨picture, pts, false⟩).2.1
      (s.broadcast .thumbnail ⟨picture, pts, false⟩).1 := by
  unfold broadcast
  refine (List.foldlRecOn (motive := fun r : Session × Entries × Nat =>
    s.CameraSteps camera r.2.1 r.1 ∧ ∃ asker', r.1.stream? j = some asker' ∧
      asker'.activity = asker.activity ∧ asker'.handle = asker.handle) _ _
    ⟨.nil, asker, hj, rfl, rfl⟩ ?_).1
  rintro ⟨s₁, es, count⟩ ⟨hsteps, asker', hj', hact, hhandle⟩ i -
  cases hsubmit : s₁.submitTo i (·.submit .thumbnail ⟨picture, pts, false⟩) with
  | ok r =>
    simp only [hsubmit]
    have hanswer : s₁.CameraStep camera r.2 r.1 :=
      .answer hj' (by rw [hact]; exact hasks) (by rw [hhandle]; exact hpicture) hsubmit
    have hsent := CameraSteps.cons hanswer .nil
    rw [List.append_nil] at hsent
    obtain ⟨asker'', hj'', hact', hhandle'⟩ := activity_of_submitTo hsubmit hj'
    exact ⟨hsteps.trans hsent, asker'', hj'', hact'.trans hact, hhandle'.trans hhandle⟩
  | error cause =>
    simp only [hsubmit]
    exact ⟨hsteps, asker', hj', hact, hhandle⟩

/-! ## What was asked for -/

theorem mem_entriesOf {e : Entry} : e ∈ entriesOf es i ↔ (i, e) ∈ es := by
  simp [entriesOf]

/-- What a submission brings in is the frame that is submitted. -/
theorem frame_of_accepted {kind kind' : LaneKind} {frame : Frame} {r : Session × Entries}
    (h : s.submitTo i (·.submit kind frame) = .ok r) {j : Nat} {ticket : Ticket}
    (he : (j, .accepted kind' ticket) ∈ r.2) : ticket.frame = frame := by
  unfold submitTo at h
  cases hi : s.stream? i with
  | none =>
    rw [hi] at h
    cases h
  | some stream =>
    cases hr : stream.submit kind frame with
    | error cause =>
      simp only [hi, hr] at h
      cases h
    | ok made =>
      simp only [hi, hr] at h
      cases h
      obtain ⟨e, he, heq⟩ := List.mem_map.mp he
      cases heq
      have hentered := List.mem_map_of_mem (f := fun x : Item => (x.lane, x.ticket.frame))
        (mem_entrants (x := ⟨kind', ticket⟩).mpr he)
      rw [Stream.entrants_of_offer hr, List.mem_singleton] at hentered
      exact congrArg Prod.snd hentered

/-- Each snapshot that a stream took in is of the geometry of a stream that had asked. -/
def Traced (config : SessionConfig) (es : Entries) : Prop :=
  ∀ i ticket, (i, .accepted .thumbnail ticket) ∈ es → ∃ j asker, config.streams[j]? = some asker ∧
    (j, .thumbnail asker.channelId) ∈ es ∧ ticket.frame.data = asker.thumbnail.snapshot

/-- **A step brings in what was asked for.** -/
theorem CameraStep.traced (hconfig : (config.streams.map (·.channelId)).Nodup)
    {writer : StreamConfig → Writer} {disk : Disk}
    (hreach : (assemble config writer disk).Steps before s) (ht : Traced config before)
    (h : s.CameraStep (.create config) es s') : Traced config (before ++ es) := by
  intro i ticket he
  rcases List.mem_append.mp he with he | he
  · obtain ⟨j, asker, hj, hasked, hdata⟩ := ht i ticket he
    exact ⟨j, asker, hj, List.mem_append_left _ hasked, hdata⟩
  cases h with
  | apart _ hes => cases hes _ he
  | @answer j i' asker picture pts r hj hasks hpicture h =>
    -- who is answered has asked
    obtain ⟨first, ms, hfirst, rfl, htold⟩ := hreach.exists_run hj
    rw [stream?_assemble] at hfirst
    obtain ⟨askerConfig, hconfig', rfl⟩ := Option.map_eq_some_iff.mp hfirst
    have hasked := Stream.asked_run rfl ms hasks
    rw [← htold, mem_entriesOf] at hasked
    refine ⟨j, askerConfig, hconfig', List.mem_append_left _ hasked, ?_⟩
    rw [(Stream.same_run _ ms).handle] at hpicture
    have hown := SyntheticCamera.snapshot?_create hconfig (List.mem_of_getElem? hconfig')
    cases hown.symm.trans hpicture
    exact congrArg Frame.data (frame_of_accepted h he)

/-- What a session brought in when a camera was the only source of snapshots was asked for. -/
theorem CameraSteps.traced (hconfig : (config.streams.map (·.channelId)).Nodup)
    {writer : StreamConfig → Writer} {disk : Disk}
    (hreach : (assemble config writer disk).Steps before s) (ht : Traced config before)
    (h : s.CameraSteps (.create config) es s') :
    (assemble config writer disk).Steps (before ++ es) s' ∧ Traced config (before ++ es) := by
  induction h generalizing before with
  | nil =>
    rw [List.append_nil]
    exact ⟨hreach, ht⟩
  | cons hstep _ ih =>
    rw [← List.append_assoc]
    exact ih (hreach.append (.single hstep.step)) (hstep.traced hconfig hreach ht)

/-- **A box holds the snapshot of a stream that asked for one.** In a session with usable settings
the synthetic camera is the only source of snapshots. Then any box that is appended to a file tells
the geometry of the stream whose file it is, and the snapshot in it is of the geometry of a stream
that had asked. If no stream had asked that gets another snapshot than this one, the box describes
what it holds. -/
theorem boxes_of_askers (config : SessionConfig) (hvalid : config.validate = .ok ())
    (writer : StreamConfig → Writer) (disk : Disk)
    (hreach : (assemble config writer disk).CameraSteps (.create config) es s)
    {own : StreamConfig} (hi : config.streams[i]? = some own) {snapshot : Ticket} {data : Bytes}
    (h : .trailer snapshot data ∈ entriesOf es i) :
    (∃ j asker, config.streams[j]? = some asker ∧ .thumbnail asker.channelId ∈ entriesOf es j ∧
      ThumbnailBox.decode data = .ok ⟨own.thumbnail, asker.thumbnail.snapshot⟩) ∧
    ((∀ j asker, config.streams[j]? = some asker → .thumbnail asker.channelId ∈ entriesOf es j →
        asker.thumbnail.snapshot = own.thumbnail.snapshot) →
      ThumbnailBox.decode data = .ok ⟨own.thumbnail, own.thumbnail.snapshot⟩) := by
  have hstart : Traced config [] := fun i ticket he => absurd he List.not_mem_nil
  have htraced := hreach.traced (SessionConfig.nodup_of_validate hvalid) .nil hstart
  rw [List.nil_append] at htraced
  obtain ⟨hsteps, htraced⟩ := htraced
  have hfirst : (assemble config writer disk).stream? i
      = some (.create ⟨config.cameraId, i, own.channelId⟩ own) := by
    rw [stream?_assemble, hi]
    rfl
  obtain ⟨ms, -, htold⟩ := hsteps.runs i _ hfirst
  rw [htold] at h
  obtain ⟨haccepted, hbox⟩ := (Stream.fresh_create _ own).of_trailer h
  rw [← htold, mem_entriesOf] at haccepted
  obtain ⟨j, asker, hj, hasked, hdata⟩ := htraced i snapshot haccepted
  have hown : ThumbnailBox.decode data = .ok ⟨own.thumbnail, asker.thumbnail.snapshot⟩ := by
    rw [← hdata]
    exact hbox
  refine ⟨⟨j, asker, hj, mem_entriesOf.mpr hasked, hown⟩, fun hsame => ?_⟩
  rw [hown, hsame j asker hj (mem_entriesOf.mpr hasked)]

/-! ## Two geometries -/

/-- A geometry that is not the usual one. -/
def largeGeometry : ThumbnailParams := ⟨.jpeg, 640, 360, 640, 368⟩

/-- Two streams with snapshots of different geometry; files of the first take longer. -/
def twoGeometries : SessionConfig where
  cameraId := 0
  streams := [
    { Stream.secondLong with splitDurationSecs := 2 },
    { Stream.secondLong with name := "sub", channelId := 1, thumbnail := largeGeometry }]

/-- The first stream has a file open, and the worker of the second asks for a snapshot. -/
def askingSession : Session :=
  let started := (assemble twoGeometries (fun _ => .silent) {}).start.1
  let fed := (started.broadcast .video ⟨[7], 0, true⟩).1
  let first := ((fed.wake 0).1.afterNamedTurns ⟨[0x62]⟩ 0 12).1
  ((first.wake 1).1.afterNamedTurns ⟨[0x62]⟩ 1 7).1

/-- The camera answers. -/
def answeredSession : Session :=
  (askingSession.broadcast .thumbnail ⟨largeGeometry.snapshot, 0, false⟩).1

/-- The session is stopped, and both streams append a box to their files. -/
def labelledSession : Session :=
  let first := ((answeredSession.stop.1.wake 0).1.afterNamedTurns ⟨[0x62]⟩ 0 3).1
  let second := (first.afterNamedTurns ⟨[0x62]⟩ 1 3).1
  ((second.wake 1).1.afterNamedTurns ⟨[0x62]⟩ 1 3).1

/-- The answer, as either stream took it in. -/
def largeSnapshot : Ticket := ⟨0, largeGeometry.snapshot, 0, false⟩

/-- The box that it makes under a geometry. -/
def largeBox (params : ThumbnailParams) : Bytes :=
  (ThumbnailBox.mk params largeGeometry.snapshot).encode.toOption.getD []

/-- Only the second stream has asked, and either stream appends the answer. -/
theorem cameraSteps_labelled : ∃ es,
    (assemble twoGeometries (fun _ => .silent) {}).CameraSteps (.create twoGeometries) es
      labelledSession ∧
    (∀ e ∈ es, e.2.isRequest = true → e.1 = 1) ∧
    .trailer largeSnapshot (largeBox {}) ∈ entriesOf es 0 ∧
    .trailer largeSnapshot (largeBox largeGeometry) ∈ entriesOf es 1 := by
  have hasking : (assemble twoGeometries (fun _ => .silent) {}).Steps _ askingSession :=
    .cons .start (.cons .broadcast (.cons .wake ((steps_afterNamedTurns _ (by decide +kernel)
      12).append (.cons .wake (steps_afterNamedTurns _ (by decide +kernel) 7)))))
  have hlabelled : answeredSession.Steps _ labelledSession :=
    .cons .stop (.cons .wake ((steps_afterNamedTurns _ (by decide +kernel) 3).append
      ((steps_afterNamedTurns _ (by decide +kernel) 3).append
        (.cons .wake (steps_afterNamedTurns _ (by decide +kernel) 3)))))
  have hasker : (askingSession.stream? 1).map (fun asker =>
      (asker.activity.task?, asker.handle.channelId)) = some (some .askingThumbnail, 1) := by
    decide +kernel
  obtain ⟨asker, hj, hasker⟩ := Option.map_eq_some_iff.mp hasker
  obtain ⟨hasks, hchannel⟩ := Prod.mk.inj hasker
  have hpicture : (SyntheticCamera.create twoGeometries).snapshot? asker.handle.channelId
      = some largeGeometry.snapshot := by
    rw [hchannel]
    decide +kernel
  refine ⟨_, (hasking.withCamera _ (by decide +kernel)).trans
    ((cameraSteps_broadcast hj hasks hpicture 0).trans
      (hlabelled.withCamera _ (by decide +kernel))), ?_, ?_, ?_⟩
  all_goals decide +kernel

/-- The box of the second stream describes what it holds, since no other stream has asked. -/
theorem boxes_of_askers_labelled : ∃ es,
    .trailer largeSnapshot (largeBox largeGeometry) ∈ entriesOf es 1 ∧
    ThumbnailBox.decode (largeBox largeGeometry)
      = .ok ⟨largeGeometry, largeGeometry.snapshot⟩ := by
  obtain ⟨es, hreach, hasked, -, hbox⟩ := cameraSteps_labelled
  refine ⟨es, hbox, ?_⟩
  have hsecond : twoGeometries.streams[1]? = some
      { Stream.secondLong with name := "sub", channelId := 1, thumbnail := largeGeometry } := rfl
  refine (boxes_of_askers twoGeometries (by decide) _ _ hreach hsecond hbox).2 ?_
  intro j asker hj hrequest
  obtain rfl : j = 1 := hasked _ (mem_entriesOf.mp hrequest) rfl
  cases hsecond.symm.trans hj
  rfl

/-- The box of the first stream tells the geometry of that stream, and holds a snapshot of another
one: the answer to the request of the second stream. -/
theorem box_with_other_geometry : twoGeometries.validate = .ok () ∧ ∃ es,
    (assemble twoGeometries (fun _ => .silent) {}).CameraSteps (.create twoGeometries) es
      labelledSession ∧
    .trailer largeSnapshot (largeBox {}) ∈ entriesOf es 0 ∧
    twoGeometries.streams[0]?.map (·.thumbnail) = some ({} : ThumbnailParams) ∧
    ThumbnailBox.decode (largeBox {}) = .ok ⟨{}, largeGeometry.snapshot⟩ ∧
    largeGeometry.snapshot ≠ ThumbnailParams.snapshot {} := by
  obtain ⟨es, hreach, -, hbox, -⟩ := cameraSteps_labelled
  exact ⟨by decide, es, hreach, hbox, rfl, by decide +kernel, by decide +kernel⟩

end Session

end CameraRecorder

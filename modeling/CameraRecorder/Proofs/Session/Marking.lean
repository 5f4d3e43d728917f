import CameraRecorder.Proofs.Session.Contents
import CameraRecorder.Proofs.Session.Faults
import CameraRecorder.Proofs.Stream.Leftovers
import CameraRecorder.Proofs.Stream.Protocol

/-!
# The mark of a file in progress

The first stream writes under a name with a mark, and takes the mark away once the writer was asked
to finish the file. Whatever calls to writers fail, and however, the file is found under the marked
name until then (`Track.Marks`). It is not asked how the writer answered: a file that could not be
finished loses its mark as well.
-/

namespace CameraRecorder

namespace Stream

variable {s s' : Stream} {m : Move} {es : List Entry} {p : Path}

/-- The name of the open file, until it is told that the file ended. -/
def unended? (s : Stream) : Option Path :=
  match s.activity.task? with
  | some (.ending _) => none
  | _ => s.file.map (·.path)

/-- Whether the writer was asked to finish the open file. -/
def wasAskedToFinish (s : Stream) : Bool :=
  match s.activity.task? with
  | some (.finishing _) | some (.publishing _) => true
  | _ => false

theorem unended?_setLane (s : Stream) (l : Lane) (kind : LaneKind) :
    (s.setLane l kind).unended? = s.unended? := by
  cases kind <;> rfl

theorem unended?_of_task {en : Bool} {task : Task} (hact : s.activity = .awake en task)
    (htask : ∀ next, task ≠ .ending next) : s.unended? = s.file.map (·.path) := by
  rw [unended?, hact]
  cases task <;> first | rfl | exact absurd rfl (htask _)

theorem unended?_resting (hrest : s.activity.task? = none) :
    s.unended? = s.file.map (·.path) := by
  rw [unended?, hrest]

/-- The open file only begins when the writer has opened it, and only ends when it was to get its
name. -/
theorem Step.unended (h : Step s m s' es) :
    s'.unended? = s.unended? ∨
    (∃ en ticket generation path, s.activity = .awake en (.creating ticket generation path) ∧
      m = .reply none) ∨
    ∃ en next error, s.activity = .awake en (.publishing next) ∧ m = .reply error := by
  have hkept {en en' : Bool} {task task' : Task} {s' : Stream} (hact : s.activity = .awake en task)
      (htask : ∀ next, task ≠ .ending next) (hact' : s'.activity = .awake en' task')
      (htask' : ∀ next, task' ≠ .ending next)
      (hfile : s'.file.map (·.path) = s.file.map (·.path)) : s'.unended? = s.unended? := by
    rw [unended?_of_task hact htask, unended?_of_task hact' htask', hfile]
  cases h with
  | create h herror => exact .inr (.inl ⟨_, _, _, _, h, by rw [herror]⟩)
  | tellEnd h => exact .inr (.inr ⟨_, _, _, h, rfl⟩)
  | idle | start | stop | shutDown | misnamed => exact .inl rfl
  | accept | displace => exact .inl (unended?_setLane ..)
  | wake h _ | wakeInterrupted h _ _ =>
    have hrest : s.unended? = s.file.map (·.path) := unended?_resting (by rw [h]; rfl)
    exact .inl hrest.symm
  | take h htake _ | takeInterrupted h htake _ =>
    obtain ⟨l, l', -, rfl⟩ := takeFrame?_eq_some htake
    exact .inl (hkept h (by simp) rfl (by simp) (by simp))
  | sleep h _ =>
    rw [unended?_of_task h (by simp)]
    exact .inl s.path_collectThumbnail
  | closeLast h _ _ | turnIdle h _ _ | collect h =>
    exact .inl (hkept h (by simp) rfl (by simp) s.path_collectThumbnail)
  | appendTrailer h _ | finishBare h _ =>
    exact .inl (hkept h (by simp) rfl (by simp) s.path_latchThumbnail)
  | retire h =>
    rw [unended?_of_task h (by simp), unended?_resting s.task?_retire]
    exact .inl rfl
  | asked h htask =>
    rcases htask with rfl | rfl <;> exact .inl (hkept h (by simp) rfl (by simp) rfl)
  | videoWritten h hfile _ | askThumbnail h hfile _ =>
    exact .inl (hkept h (by simp) rfl (by simp) (by rw [hfile]; rfl))
  | split h _ _ | writeVideo h _ _ | tryOpen h _ | writeAudio h _ | loseAudio h _
  | loseDisabled h _ | askName h _ _ | askKeyFrame h _ _ _ | loseNonKey h _ _ _ | name h
  | nameless h | begin h | fail h | videoStray h _ | audioWritten h | finish h | publish h =>
    exact .inl (hkept h (by simp) rfl (by simp) rfl)
  | @resume en next _ h =>
    have hnone : s.unended? = none := by rw [unended?, h]; rfl
    rw [hnone]
    cases next <;> exact .inl rfl

/-- It is only told that a file ended when it was to get its name. -/
theorem Step.publishes_of_end (h : Step s m s' es) {e : Entry} (he : e ∈ es)
    (hend : e.isFileEnd = true) :
    ∃ en next error, s.activity = .awake en (.publishing next) ∧ m = .reply error := by
  obtain ⟨rfl, en, next, hact⟩ := h.of_fileEnd he hend
  rcases h.waits hact rfl with ⟨-, hidle⟩ | ⟨error, rfl⟩
  · obtain ⟨path, duration, rfl⟩ := Entry.eq_of_isFileEnd hend
    cases hidle _ (List.mem_singleton_self _)
  · exact ⟨en, next, error, hact, rfl⟩

/-- The writer is asked to finish a file before that is known. -/
theorem Step.asked_to_finish (h : Step s m s' es) (h' : s'.wasAskedToFinish = true) :
    s.wasAskedToFinish = true ∨ .deinit ∈ es := by
  have hasked {s : Stream} {en : Bool} {task : Task} (h : s.activity = .awake en task)
      (htask : ∃ next, task = .finishing next) : s.wasAskedToFinish = true := by
    obtain ⟨next, rfl⟩ := htask
    rw [wasAskedToFinish, h]
    rfl
  cases h with
  | idle | start | stop | shutDown | misnamed => exact .inl h'
  | accept | displace =>
    rw [wasAskedToFinish, activity_setLane] at h'
    exact .inl h'
  | finishBare => exact .inr (List.mem_append_right _ (List.mem_singleton_self _))
  | finish => exact .inr (List.mem_append_right _ (List.mem_singleton_self _))
  | publish h => exact .inl (hasked h ⟨_, rfl⟩)
  | retire =>
    rw [wasAskedToFinish, s.task?_retire] at h'
    cases h'
  | @resume _ next => cases next <;> cases h'
  | _ => cases h'

/-! ## Moves that leave the file in progress -/

/-- While a stream is moved, its file stays in progress, and the writer is only asked to finish it
if that is told. -/
structure Keeps (s : Stream) (es : List Entry) (s' : Stream) : Prop where
  unended : s'.unended? = s.unended?
  not_ended : ∀ e ∈ es, e.isFileEnd = false
  asked : s'.wasAskedToFinish = true → s.wasAskedToFinish = true ∨ .deinit ∈ es

theorem Keeps.refl (s : Stream) : s.Keeps [] s := ⟨rfl, List.forall_mem_nil _, .inl⟩

theorem Keeps.trans {s'' : Stream} {es' : List Entry} (h : s.Keeps es s') (h' : s'.Keeps es' s'') :
    s.Keeps (es ++ es') s'' where
  unended := h'.unended.trans h.unended
  not_ended := List.forall_mem_append.mpr ⟨h.not_ended, h'.not_ended⟩
  asked hasked := by
    rcases h'.asked hasked with hasked | hdeinit
    · exact (h.asked hasked).imp_right (List.mem_append_left _)
    · exact .inr (List.mem_append_right _ hdeinit)

theorem Step.keeps (h : Step s m s' es)
    (hcreating : ∀ en ticket generation path,
      s.activity = .awake en (.creating ticket generation path) → m ≠ .reply none)
    (hpublishing : ∀ en next error, s.activity = .awake en (.publishing next) → m ≠ .reply error) :
    s.Keeps es s' where
  unended := by
    rcases h.unended with hsame | ⟨en, ticket, generation, path, hact, hm⟩ |
      ⟨en, next, error, hact, hm⟩
    · exact hsame
    · exact absurd hm (hcreating _ _ _ _ hact)
    · exact absurd hm (hpublishing _ _ _ hact)
  not_ended e he := by
    refine Bool.eq_false_iff.mpr fun hend => ?_
    obtain ⟨en, next, error, hact, hm⟩ := h.publishes_of_end he hend
    exact hpublishing _ _ _ hact hm
  asked := h.asked_to_finish

/-- A calm run leaves the file in progress; a worker that waits for it to get its name waits on. -/
theorem Calm.keeps (h : s.Calm es s') : s.Keeps es s' ∧
    ∀ en next, s.activity = .awake en (.publishing next) → s'.activity = s.activity := by
  induction h with
  | @nil s => exact ⟨.refl s, fun _ _ _ => rfl⟩
  | @cons s s' m es hm _ ih =>
    have hstep := s.step_move m
    have hcalls {en : Bool} {task : Task} {error : Option WriterError}
        (hact : s.activity = .awake en task) (htask : task.usesDisk = true) :
        m ≠ .reply error := by
      rintro rfl
      rw [endsDiskCall, hact] at hm
      exact absurd htask (by simpa [Activity.task?] using hm)
    refine ⟨.trans (hstep.keeps (fun _ _ _ _ hact => hcalls hact rfl)
      (fun _ _ _ hact => hcalls hact rfl)) ih.1, fun en next hact => ?_⟩
    rcases hstep.waits hact rfl with ⟨hsame, -⟩ | ⟨error, hreply⟩
    · exact (ih.2 en next (hsame.trans hact)).trans hsame
    · exact absurd hreply (hcalls hact rfl)

end Stream

/-! ## The file in progress -/

/-- The file of a number is found under the marked name, and the writer is at it, until the worker
waits for the file to get its name. -/
structure Track.Marks (track : Track) (d : Disk) (p : Path) (id : Nat) : Prop where
  unended : track.stream.unended? = some p
  marked : d.lookup? p.inProgress = some (.file id)
  writes : (∃ en next, track.stream.activity = .awake en (.publishing next)) ∨
    ∃ files, track.writer = .files { files := some files } ∧ files.video.file = id

namespace Session

variable {s s' : Session} {es es' : Entries} {i : Nat} {track : Track} {stream : Stream}
  {task : Task} {d d' : Disk} {writer : Writer} {error : Option WriterError} {en : Bool} {p : Path}
  {id : Nat}

theorem Track.Marks.grows (h : track.Marks d p id) (hd : d.Sound) (hgrows : d.Grows d') :
    track.Marks d' p id :=
  ⟨h.unended, hgrows.lookup_file hd h.marked, h.writes⟩

theorem Track.Marks.calm {es : List Entry} (h : track.Marks d p id)
    (hcalm : track.stream.Calm es stream) : Track.Marks { track with stream } d p id where
  unended := hcalm.keeps.1.unended.trans h.unended
  marked := h.marked
  writes := h.writes.imp_left fun ⟨en, next, hact⟩ =>
    ⟨en, next, (hcalm.keeps.2 en next hact).trans hact⟩

/-- A file that was begun is not told to have ended. -/
theorem Track.Marks.exists_file (h : track.Marks d p id) : ∃ f, track.stream.file = some f := by
  have hunended := h.unended
  unfold Stream.unended? at hunended
  split at hunended
  · cases hunended
  · obtain ⟨f, hf, -⟩ := Option.map_eq_some_iff.mp hunended
    exact ⟨f, hf⟩

/-- No call but the one that gives the file its name changes its mark, however it is answered. -/
theorem Called.marks (h : Called track task d writer d' error) (hd : d.Sound)
    (hshaped : track.stream.Shaped) (hact : track.stream.activity = .awake en task)
    (htask : ∀ next, task ≠ .publishing next) (hmarks : track.Marks d p id) :
    track.stream.Keeps (track.stream.reply error).2 (track.stream.reply error).1 ∧
      Track.Marks ⟨(track.stream.reply error).1, writer⟩ d' p id := by
  have hkeeps : track.stream.Keeps (track.stream.reply error).2 (track.stream.reply error).1 := by
    refine (h.step hact).keeps ?_ ?_
    · rintro en ticket generation path hcreating
      obtain ⟨f, hf⟩ := Track.Marks.exists_file hmarks
      rw [hshaped.file_eq_none hcreating rfl] at hf
      cases hf
    · rintro en next error hpublishing
      rw [hact] at hpublishing
      cases hpublishing
      exact absurd rfl (htask next)
  refine ⟨hkeeps, hkeeps.unended.trans hmarks.unended,
    (h.grows hd htask).lookup_file hd hmarks.marked, ?_⟩
  by_cases hfinishing : ∃ next, task = .finishing next
  · obtain ⟨next, rfl⟩ := hfinishing
    refine .inl ⟨en, next, ?_⟩
    simp [Stream.reply, hact, Stream.turnTo]
  · rcases hmarks.writes with ⟨en', next, hpublishing⟩ | ⟨files, hopen, hfile⟩
    · rw [hact] at hpublishing
      cases hpublishing
      exact absurd rfl (htask next)
    · obtain ⟨files', hopen', hsame⟩ :=
        h.video_file hd hopen fun next hnext => hfinishing ⟨next, hnext⟩
      exact .inr ⟨files', hopen', hsame.trans hfile⟩

/-- When the writer has opened a file of the first stream, it is under the marked name. -/
theorem Called.marks_created {ticket : Ticket} {generation : Nat} {path : Path}
    (h : Called track (.creating ticket generation path) d writer d' none) (hd : d.Sound)
    (hfirst : track.stream.handle.index = 0) (hfiles : ∃ w, track.writer = .files w)
    (hact : track.stream.activity = .awake en (.creating ticket generation path)) :
    ∃ id, Track.Marks ⟨(track.stream.reply none).1, writer⟩ d' path id := by
  obtain ⟨w, hw⟩ := hfiles
  have hunended : (track.stream.reply none).1.unended? = some path := by
    simp [Stream.reply, hact, Stream.created, Stream.turnTo, Stream.unended?, Activity.task?]
  generalize herror : (none : Option WriterError) = error at h
  cases h with
  | faltered | lost => cases herror
  | carried =>
    have hinit : track.writer.init (track.stream.writePath path) track.stream.config.audio d
        = callOut track (.creating ticket generation path) d := rfl
    cases hmade : w.init (track.stream.writePath path) track.stream.config.audio d with
    | mk w' outcome =>
      obtain ⟨d₁, error⟩ := outcome
      rw [hw, Writer.init, Writer.onFiles, hmade] at hinit
      rw [← hinit] at herror ⊢
      obtain rfl : error = none := herror.symm
      obtain ⟨files, hopen, hfound⟩ := (FileWriter.grows_init hd hmade).2 rfl
      rw [Stream.writePath, if_pos hfirst] at hfound
      exact ⟨_, hunended, hfound, .inr ⟨files, by rw [← hopen], rfl⟩⟩

/-! ## Sessions -/

/-- The first stream writes files, and the file that it has begun and not ended is marked. -/
structure Orderly (s : Session) : Prop where
  disk : s.disk.Sound
  streams : ∀ i (track : Track), s.tracks[i]? = some track →
    track.stream.Shaped ∧ track.stream.WritesAsNamed ∧ track.stream.handle.index = i
  files : ∀ track : Track, s.tracks[0]? = some track → ∃ w, track.writer = .files w
  marks : ∀ (track : Track) p, s.tracks[0]? = some track → track.stream.unended? = some p →
    ∃ id, track.Marks s.disk p id

theorem orderly_assemble (config : SessionConfig) (writer : StreamConfig → Writer) {disk : Disk}
    (hdisk : disk.Sound) (hfirst : ∀ stream, config.streams[0]? = some stream →
      writer stream = .toFiles) : (assemble config writer disk).Orderly where
  disk := hdisk
  streams i track hi := by
    have hstream : (assemble config writer disk).stream? i = some track.stream := by
      rw [stream?, hi]
      rfl
    refine ⟨(lawful_of_assemble hstream).1.shaped, ?_, index_of_assemble hstream⟩
    obtain ⟨hlt, rfl⟩ := List.getElem?_eq_some_iff.mp hi
    simp only [assemble, List.getElem_mapIdx]
    intro f hf
    cases hf
  files track hi := by
    obtain ⟨hlt, rfl⟩ := List.getElem?_eq_some_iff.mp hi
    simp only [assemble, List.length_mapIdx] at hlt
    simp only [assemble, List.getElem_mapIdx]
    exact ⟨_, hfirst _ (List.getElem?_eq_getElem hlt)⟩
  marks track p hi hp := by
    obtain ⟨hlt, rfl⟩ := List.getElem?_eq_some_iff.mp hi
    simp only [assemble, List.getElem_mapIdx] at hp
    cases hp

/-- What moves do to streams keeps them in order. -/
theorem Orderly.streams_of_runs (ho : s.Orderly) (hruns : s.Runs es s')
    (hlength : s'.tracks.length = s.tracks.length) : ∀ i (track : Track),
      s'.tracks[i]? = some track →
        track.stream.Shaped ∧ track.stream.WritesAsNamed ∧ track.stream.handle.index = i := by
  intro i track' hi'
  obtain ⟨track, hi⟩ : ∃ track, s.tracks[i]? = some track := by
    have hlt := (List.getElem?_eq_some_iff.mp hi').1
    rw [hlength] at hlt
    exact ⟨_, List.getElem?_eq_getElem hlt⟩
  obtain ⟨hshaped, hnamed, hindex⟩ := ho.streams i track hi
  obtain ⟨ms, hrun, -⟩ := hruns i track.stream (by rw [stream?, hi]; rfl)
  have hstream : track'.stream = (track.stream.run ms).1 := by
    rw [stream?, hi'] at hrun
    exact Option.some.inj hrun
  obtain ⟨hshaped', hnamed'⟩ := Stream.run_invariant
    (P := fun stream => stream.Shaped ∧ stream.WritesAsNamed)
    (fun h hs => ⟨h.shaped hs.1, h.writesAsNamed hs.1 hs.2⟩) ⟨hshaped, hnamed⟩ ms
  rw [hstream]
  exact ⟨hshaped', hnamed', by rw [(track.stream.same_run ms).handle, hindex]⟩

/-- A call that is answered is that of a stream, or of another one. -/
theorem Answered.here_or_elsewhere (h : s.Answered es s') (hi : s.tracks[i]? = some track) :
    (∃ en task writer error, track.stream.activity = .awake en task ∧
      Called track task s.disk writer s'.disk error ∧
      s'.tracks[i]? = some ⟨(track.stream.reply error).1, writer⟩ ∧
      entriesOf es i = (track.stream.reply error).2) ∨
    (s'.tracks[i]? = some track ∧ entriesOf es i = [] ∧
      ∃ j other task writer error, j ≠ i ∧ s.tracks[j]? = some other ∧
        Called other task s.disk writer s'.disk error) := by
  cases h with
  | @mk j other en task writer disk error hj hact _ hcalled =>
    by_cases hij : j = i
    · subst hij
      cases hi.symm.trans hj
      refine .inl ⟨en, task, writer, error, hact, hcalled, ?_, entriesOf_self _ _⟩
      exact List.getElem?_set_self (List.getElem?_eq_some_iff.mp hi).1
    · refine .inr ⟨?_, entriesOf_other _ hij, j, other, task, writer, error, hij, hj, hcalled⟩
      rw [← hi]
      exact List.getElem?_set_ne hij

theorem Answered.runs (h : s.Answered es s') : s.Runs es s' := by
  intro i stream hi
  obtain ⟨track, htrack, rfl⟩ := Option.map_eq_some_iff.mp hi
  rcases h.here_or_elsewhere htrack with
    ⟨en, task, writer, error, hact, hcalled, hi', hes⟩ | ⟨hsame, hes, -⟩
  · refine ⟨[.reply error], ?_, ?_⟩
    all_goals rw [Stream.run_single, ← reply_eq_move (by rw [hact]; rfl) hcalled.error_eq_none]
    · rw [stream?, hi']
      rfl
    · exact hes
  · exact ⟨[], by rw [stream?, hsame]; rfl, hes⟩

theorem FaultyStep.runs (h : s.FaultyStep es s') : s.Runs es s' := by
  rcases h.calm_or_answered with hcalm | hanswered
  · exact hcalm.runs
  · exact hanswered.runs

/-- To the first stream a step is calm, and takes no name away, or it answers its call. -/
theorem Orderly.calm_or_called (ho : s.Orderly) (h : s.FaultyStep es s')
    (hi : s.tracks[0]? = some track) :
    (∃ stream, track.stream.Calm (entriesOf es 0) stream ∧
      s'.tracks[0]? = some { track with stream } ∧ s.disk.Grows s'.disk) ∨
    ∃ en task writer error, track.stream.activity = .awake en task ∧
      Called track task s.disk writer s'.disk error ∧
      s'.tracks[0]? = some ⟨(track.stream.reply error).1, writer⟩ ∧
      entriesOf es 0 = (track.stream.reply error).2 := by
  rcases h.calm_or_answered with hcalm | hanswered
  · obtain ⟨stream, hstream, hi'⟩ := hcalm.tracks 0 track hi
    refine .inl ⟨stream, hstream, hi', ?_⟩
    rw [hcalm.disk]
    exact ho.disk.grows_refl
  · rcases hanswered.here_or_elsewhere hi with
      hcalled | ⟨hsame, hes, j, other, task, writer, error, hj, hother, hcalled⟩
    · exact .inr hcalled
    · obtain ⟨-, hnamed, hindex⟩ := ho.streams j other hother
      refine .inl ⟨track.stream, hes ▸ .nil, hsame, ?_⟩
      exact hcalled.grows_later ho.disk hnamed (by rwa [hindex])

theorem FaultyStep.sound (h : s.FaultyStep es s') (hd : s.disk.Sound) : s'.disk.Sound := by
  rcases h.calm_or_answered with hcalm | hanswered
  · rwa [hcalm.disk]
  · cases hanswered with
    | mk _ _ _ hcalled => exact hcalled.sound hd

/-- **A step leaves the mark**, unless it tells that the file ended. -/
theorem Orderly.marks_step (ho : s.Orderly) (h : s.FaultyStep es s')
    (hi : s.tracks[0]? = some track) (hmarks : track.Marks s.disk p id)
    (hopen : ∀ e ∈ entriesOf es 0, e.isFileEnd = false) :
    ∃ track', s'.tracks[0]? = some track' ∧ track'.Marks s'.disk p id ∧
      track.stream.Keeps (entriesOf es 0) track'.stream := by
  rcases ho.calm_or_called h hi with
    ⟨stream, hcalm, hi', hgrows⟩ | ⟨en, task, writer, error, hact, hcalled, hi', hes⟩
  · exact ⟨_, hi', Track.Marks.grows (Track.Marks.calm hmarks hcalm) ho.disk hgrows, hcalm.keeps.1⟩
  · have htask : ∀ next, task ≠ .publishing next := by
      rintro next rfl
      obtain ⟨f, hf⟩ := Track.Marks.exists_file hmarks
      have hend : .event (.fileEnd f.path (track.stream.durationMs f)) ∈ entriesOf es 0 := by
        simp [hes, Stream.reply, hact, Stream.turnTo, Stream.callEntry?, hf,
          Stream.durationMs, Stream.policy]
      cases hopen _ hend
    obtain ⟨hkeeps, hmarks'⟩ := hcalled.marks ho.disk (ho.streams 0 track hi).1 hact htask hmarks
    rw [hes]
    exact ⟨_, hi', hmarks', hkeeps⟩

/-- A step keeps a session in order: the file that it begins is marked, and the others stay so. -/
theorem Orderly.step (ho : s.Orderly) (h : s.FaultyStep es s') : s'.Orderly := by
  have hstreams := ho.streams_of_runs h.runs h.length
  have hfirst {track' : Track} (hi' : s'.tracks[0]? = some track') :
      ∃ track, s.tracks[0]? = some track := by
    have hlt := (List.getElem?_eq_some_iff.mp hi').1
    rw [h.length] at hlt
    exact ⟨_, List.getElem?_eq_getElem hlt⟩
  refine ⟨h.sound ho.disk, hstreams, fun track' hi' => ?_, fun track' p hi' hp => ?_⟩
  · obtain ⟨track, hi⟩ := hfirst hi'
    rcases ho.calm_or_called h hi with
      ⟨stream, -, hmade, -⟩ | ⟨en, task, writer, error, -, hcalled, hmade, -⟩
    · cases hi'.symm.trans hmade
      exact ho.files track hi
    · cases hi'.symm.trans hmade
      exact hcalled.writes_files (ho.files track hi)
  · obtain ⟨track, hi⟩ := hfirst hi'
    rcases ho.calm_or_called h hi with
      ⟨stream, hcalm, hmade, hgrows⟩ | ⟨en, task, writer, error, hact, hcalled, hmade, -⟩
    · cases hi'.symm.trans hmade
      rw [hcalm.keeps.1.unended] at hp
      obtain ⟨id, hmarks⟩ := ho.marks track p hi hp
      exact ⟨id, Track.Marks.grows (Track.Marks.calm hmarks hcalm) ho.disk hgrows⟩
    · cases hi'.symm.trans hmade
      obtain ⟨hshaped, -, hindex⟩ := ho.streams 0 track hi
      -- a file that gets its name has ended then
      have htask : ∀ next, task ≠ .publishing next := by
        rintro next rfl
        simp [Stream.unended?, Stream.reply, hact, Stream.turnTo, Activity.task?] at hp
      rcases (hcalled.step hact).unended with
        hsame | ⟨_, ticket, generation, path, hcreating, hm⟩ | ⟨_, next, _, hpublishing, -⟩
      · rw [hsame] at hp
        obtain ⟨id, hmarks⟩ := ho.marks track p hi hp
        exact ⟨id, (hcalled.marks ho.disk hshaped hact htask hmarks).2⟩
      · rw [hact] at hcreating
        cases hcreating
        cases hm
        obtain ⟨id, hmarks⟩ :=
          hcalled.marks_created ho.disk hindex (ho.files track hi) hact
        cases hp.symm.trans hmarks.unended
        exact ⟨id, hmarks⟩
      · rw [hact] at hpublishing
        cases hpublishing
        exact absurd rfl (htask next)

theorem Orderly.steps (ho : s.Orderly) (h : s.FaultySteps es s') : s'.Orderly := by
  induction h with
  | nil => exact ho
  | cons hstep _ ih => exact ih (ho.step hstep)

/-- **As long as it is not told that the file ended, it is marked.** -/
theorem Orderly.marks_steps (ho : s.Orderly) (h : s.FaultySteps es s')
    (hi : s.tracks[0]? = some track) (hmarks : track.Marks s.disk p id)
    (hopen : ∀ e ∈ entriesOf es 0, e.isFileEnd = false) :
    ∃ track', s'.tracks[0]? = some track' ∧ track'.Marks s'.disk p id ∧
      track.stream.Keeps (entriesOf es 0) track'.stream := by
  induction h generalizing track with
  | nil => exact ⟨track, hi, hmarks, .refl _⟩
  | cons hstep _ ih =>
    rw [entriesOf_append] at hopen ⊢
    obtain ⟨hnow, hlater⟩ := List.forall_mem_append.mp hopen
    obtain ⟨track₁, hi₁, hmarks₁, hkeeps⟩ := ho.marks_step hstep hi hmarks hnow
    obtain ⟨track', hi', hmarks', hkeeps'⟩ := ih (ho.step hstep) hi₁ hmarks₁ hlater
    exact ⟨track', hi', hmarks', hkeeps.trans hkeeps'⟩

/-! ## The name of a file -/

/-- A marked file is not at the name without the mark. -/
theorem Track.Marks.not_finished (h : track.Marks d p id) (hd : d.Sound) :
    d.lookup? p ≠ some (.file id) := by
  intro hfinished
  obtain ⟨hplace, hnode⟩ := hd.lookup_eq_file_iff.mp hfinished
  obtain ⟨hplace', hnode'⟩ := hd.lookup_eq_file_iff.mp h.marked
  have hsame := hd.unique _ _ _ hnode hnode'
  rw [← hsame] at hplace'
  -- the two are in one directory, under different names
  obtain ⟨init, name, dir, hsegments, -, hwalk, hloc⟩ := Disk.place?_eq_some_iff.mp hplace
  obtain ⟨init', name', dir', hsegments', -, hwalk', hloc'⟩ := Disk.place?_eq_some_iff.mp hplace'
  obtain ⟨init₀, last, hlast, hmarked⟩ := p.exists_segments_inProgress
  obtain ⟨rfl, hname⟩ := List.append_inj' (hlast.symm.trans hsegments) rfl
  obtain ⟨rfl, hname'⟩ := List.append_inj' (hmarked.symm.trans hsegments') rfl
  cases hname
  cases hname'
  have hlength := congrArg (fun loc : Location => loc.names.map (·.length)) (hloc.symm.trans hloc')
  simp [Location.inside] at hlength

/-- **A file gets its name** when that is not taken, whatever the writer answered when it was asked
to finish the file. -/
theorem Orderly.renamed (ho : s.Orderly) (h : s.FaultyStep es s') (hi : s.tracks[0]? = some track)
    (hmarks : track.Marks s.disk p id) (hend : ∃ e ∈ entriesOf es 0, e.isFileEnd = true) :
    track.stream.wasAskedToFinish = true ∧
      (s.disk.node? (p.place s.disk.home) = none →
        s'.disk.lookup? p = some (.file id) ∧ s'.disk.content id = s.disk.content id ∧
          s'.disk.contains p.inProgress = false) := by
  obtain ⟨e, he, hend⟩ := hend
  rcases ho.calm_or_called h hi with
    ⟨stream, hcalm, -, -⟩ | ⟨en, task, writer, error, hact, hcalled, -, hes⟩
  · cases (hcalm.keeps.1.not_ended e he).symm.trans hend
  rw [hes] at he
  obtain ⟨en', next, error', hpublishing, -⟩ := (hcalled.step hact).publishes_of_end he hend
  obtain ⟨-, hnamed, hindex⟩ := ho.streams 0 track hi
  rw [hact] at hpublishing
  cases hpublishing
  refine ⟨by rw [Stream.wasAskedToFinish, hact]; rfl, fun hfree => ?_⟩
  obtain ⟨f, hf⟩ := Track.Marks.exists_file hmarks
  have hpath : f.path = p := by
    have hunended := hmarks.unended
    rw [Stream.unended?_of_task hact (by simp), hf] at hunended
    exact Option.some.inj hunended
  have hwritten : f.writePath = p.inProgress := by
    rw [hnamed f hf, Stream.writePath, if_pos hindex, hpath]
  have hmarked := hmarks.marked
  obtain ⟨hplace, -⟩ := ho.disk.lookup_eq_file_iff.mp hmarked
  obtain ⟨renamed, hrename, hchanges, hfound, hcontent, hgone⟩ :=
    ho.disk.rename hmarked (ho.disk.place_finished hplace (by simp [hfree])) hfree
  have hdisk : s'.disk = renamed := by
    obtain ⟨-, hdisk, -⟩ := hcalled.of_publishing
    have hcontains : s.disk.contains p.inProgress = true := by simp [Disk.contains, hmarked]
    simp [hdisk, callOut, hf, hpath, hwritten, p.inProgress_ne, hcontains, hrename]
  rw [hdisk]
  refine ⟨hfound, hcontent, hchanges.sound.contains_eq_false ?_⟩
  rw [hchanges.home]
  exact hgone

/-- **A file is marked until the writer was asked to finish it, and no longer.** The first stream
writes files, and calls to writers fail in any way. As long as it is not told that the open file
ended, the file is found under the marked name, and not under its own. When that is told, the writer
was asked to finish the file. If nothing had come to the name of the file, it is there then, and
nothing is at the marked name. All this is so however the writer answered: a file that it failed to
finish is not told from one that it finished. -/
theorem marked_until_asked_to_finish (config : SessionConfig) (writer : StreamConfig → Writer)
    {disk : Disk} (hdisk : disk.Sound) (hfirst : ∀ stream, config.streams[0]? = some stream →
      writer stream = .toFiles) (hreach : (assemble config writer disk).FaultySteps es s)
    (hstream : s.stream? 0 = some stream) (hopen : stream.unended? = some p) :
    ∃ id, ∀ es₁ s₁, s.FaultySteps es₁ s₁ → (∀ e ∈ entriesOf es₁ 0, e.isFileEnd = false) →
      (s₁.disk.lookup? p.inProgress = some (.file id) ∧ s₁.disk.lookup? p ≠ some (.file id)) ∧
      ∀ es₂ s₂, s₁.FaultyStep es₂ s₂ → (∃ e ∈ entriesOf es₂ 0, e.isFileEnd = true) →
        (stream.wasAskedToFinish = true ∨ .deinit ∈ entriesOf es₁ 0) ∧
        (s₁.disk.node? (p.place s₁.disk.home) = none →
          s₂.disk.lookup? p = some (.file id) ∧ s₂.disk.content id = s₁.disk.content id ∧
            s₂.disk.contains p.inProgress = false) := by
  have ho := (orderly_assemble config writer hdisk hfirst).steps hreach
  obtain ⟨track, hi, rfl⟩ := Option.map_eq_some_iff.mp hstream
  obtain ⟨id, hmarks⟩ := ho.marks track p hi hopen
  refine ⟨id, fun es₁ s₁ hsteps hunended => ?_⟩
  obtain ⟨track₁, hi₁, hmarks₁, hkeeps⟩ := ho.marks_steps hsteps hi hmarks hunended
  have ho₁ := ho.steps hsteps
  refine ⟨⟨hmarks₁.marked, Track.Marks.not_finished hmarks₁ ho₁.disk⟩, fun es₂ s₂ hstep hend => ?_⟩
  obtain ⟨hasked, hrenamed⟩ := ho₁.renamed hstep hi₁ hmarks₁ hend
  exact ⟨hkeeps.asked hasked, hrenamed⟩

/-! ## A file that is not finished -/

/-- The session that films is shut down, and the worker waits for the writer to finish the file. -/
def finishingSession : Session := ((filmingSession.shutDown.1.wake 0).1.afterTurns 3).1

/-- The call fails. -/
def unfinishedSession : Session := (finishingSession.replyTo 0 true).1

/-- It is told that the file ended. -/
def namedSession : Session := (unfinishedSession.turn 0).1

/-- The file is marked while the call has failed, and has its name after. -/
theorem marked_until_asked_to_finish_in_vain : ∃ id,
    unfinishedSession.disk.lookup? (Path.inProgress ⟨[1]⟩) = some (.file id) ∧
    namedSession.disk.lookup? ⟨[1]⟩ = some (.file id) ∧
    namedSession.disk.contains (Path.inProgress ⟨[1]⟩) = false := by
  have hreach : (assemble ⟨0, [withSound]⟩ (fun _ => .toFiles) {}).Steps _ filmingSession :=
    .cons .start (.cons .broadcast (.cons .broadcast (.cons .broadcast (.cons .wake
      (steps_afterTurns (by decide +kernel) 16)))))
  have hfails : filmingSession.Steps _ unfinishedSession :=
    .cons .shutDown (.cons .wake ((steps_afterTurns (by decide +kernel) 3).append (.single .reply)))
  have hfound : (unfinishedSession.stream? 0).isSome = true := by decide +kernel
  obtain ⟨unfinished, hunfinished⟩ := Option.isSome_iff_exists.mp hfound
  have hopen : (filmingSession.stream? 0).bind Stream.unended? = some ⟨[1]⟩ := by decide +kernel
  obtain ⟨stream, hstream, hopen⟩ := Option.bind_eq_some_iff.mp hopen
  obtain ⟨id, hmarked⟩ := marked_until_asked_to_finish _ _ Disk.sound_empty (fun _ _ => rfl)
    hreach.faulty hstream hopen
  obtain ⟨⟨hmarked, -⟩, hends⟩ := hmarked _ _ hfails.faulty (by decide +kernel)
  obtain ⟨-, hnamed⟩ := hends _ namedSession (.step (step_turn hunfinished)) (by decide +kernel)
  obtain ⟨hthere, -, hgone⟩ := hnamed (by decide +kernel)
  exact ⟨id, hmarked, hthere, hgone⟩

/-- A file has its name, and no mark, although the only call that was to finish it has failed. It
is empty, although data was handed over. -/
theorem unfinished_file_loses_mark : ∃ es,
    (assemble ⟨0, [withSound]⟩ (fun _ => .toFiles) {}).Steps es namedSession ∧
    (entriesOf es 0).filter (fun e => e.isDeinit || e.isFailure || e.isFileEnd)
      = [.deinit, .failed .io, .event (.fileEnd ⟨[1]⟩ 200)] ∧
    videos (entriesOf es 0) = [⟨0, ⟨[7], 0, true⟩⟩] ∧
    namedSession.disk.read? ⟨[1]⟩ = some [] ∧
    namedSession.disk.contains (Path.inProgress ⟨[1]⟩) = false := by
  have hfound : (unfinishedSession.stream? 0).isSome = true := by decide +kernel
  obtain ⟨unfinished, hunfinished⟩ := Option.isSome_iff_exists.mp hfound
  have hreach : (assemble ⟨0, [withSound]⟩ (fun _ => .toFiles) {}).Steps _ filmingSession :=
    .cons .start (.cons .broadcast (.cons .broadcast (.cons .broadcast (.cons .wake
      (steps_afterTurns (by decide +kernel) 16)))))
  have hfails : filmingSession.Steps _ unfinishedSession :=
    .cons .shutDown (.cons .wake ((steps_afterTurns (by decide +kernel) 3).append (.single .reply)))
  refine ⟨_, hreach.append (hfails.append (.single (step_turn hunfinished))), ?_, ?_, ?_, ?_⟩
  all_goals decide +kernel

end Session

end CameraRecorder

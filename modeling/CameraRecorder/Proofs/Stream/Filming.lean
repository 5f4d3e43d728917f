import CameraRecorder.Proofs.Stream.Flow
import CameraRecorder.Proofs.Stream.Turns

/-!
# How a move adds to a file

Most moves leave the open file as it is, its snapshot apart, and hand no video frame over. A move
that does more creates the file, hands a frame over for it, ends the call for that frame, or closes
the file (`Stream.Films`). Whatever is said about the frames of a file is proved from these five
cases.
-/

namespace CameraRecorder

/-- The video frame that an entry hands to the writer. -/
def Entry.video? : Entry → Option Ticket
  | .video ticket => some ticket
  | _ => none

/-- The video frames handed to the writer, in order. -/
def videos (es : List Entry) : List Ticket := es.filterMap Entry.video?

@[simp] theorem videos_append (es es' : List Entry) :
    videos (es ++ es') = videos es ++ videos es' :=
  List.filterMap_append

/-- Whether an entry asks the camera for a snapshot. -/
def Entry.isRequest : Entry → Bool
  | .thumbnail _ => true
  | _ => false

/-- Whether an entry tells of a file that begins, of a video frame for it, or of the request for its
snapshot. -/
def Entry.isFilming : Entry → Bool
  | .video _ | .thumbnail _ | .event (.fileBegin _) => true
  | _ => false

theorem Entry.video?_of_not_isFilming {e : Entry} (h : e.isFilming = false) : e.video? = none := by
  cases e with
  | video => cases h
  | _ => rfl

theorem videos_eq_nil {es : List Entry} (h : ∀ e ∈ es, e.isFilming = false) : videos es = [] :=
  List.filterMap_eq_nil_iff.mpr fun e he => Entry.video?_of_not_isFilming (h e he)

/-- The frame of the call that a task waits for, if it is a call to write a video frame. -/
def Task.writing? : Task → Option Ticket
  | writingVideo ticket => some ticket
  | _ => none

/-- The file apart from its snapshot. -/
def OpenFile.bare (f : OpenFile) : OpenFile := { f with thumbnail := none }

namespace Stream

variable {s s' : Stream} {m : Move} {es : List Entry}

/-- The video frame whose writing the worker waits for. -/
def writing? (s : Stream) : Option Ticket := s.activity.task?.bind Task.writing?

theorem writing?_awake {en : Bool} {task : Task} (h : s.activity = .awake en task) :
    s.writing? = task.writing? := by
  rw [writing?, h]
  rfl

theorem writing?_resting (h : s.activity.task? = none) : s.writing? = none := by
  rw [writing?, h]
  rfl

/-- Whether the snapshot is asked for after one more frame. -/
def asksAfter (s : Stream) (file : OpenFile) : Bool :=
  !file.thumbnailAsked && s.policy.thumbnailDue (file.frameCount + 1)

/-- The file after one more frame. -/
def filmed (s : Stream) (file : OpenFile) (ticket : Ticket) : OpenFile :=
  { file with
    frameCount := file.frameCount + 1
    lastPts := ticket.frame.pts
    thumbnailAsked := file.thumbnailAsked || s.asksAfter file }

/-- The file that is created with a frame. -/
def newFile (s : Stream) (ticket : Ticket) (generation : Nat) (path : Path) : OpenFile where
  path := path
  writePath := s.writePath path
  generation := generation
  startedAt := ticket.frame.pts
  lastPts := ticket.frame.pts

/-- What a move does with the open file and the video frames for it. -/
inductive Films (s : Stream) (m : Move) (es : List Entry) (s' : Stream) : Prop
  /-- Nothing. -/
  | apart (hes : ∀ e ∈ es, e.isFilming = false) (hwriting : s'.writing? = s.writing?)
    (hwritten : s'.framesWritten = s.framesWritten)
    (hfile : s'.file.map OpenFile.bare = s.file.map OpenFile.bare)
  | creates {en ticket generation path}
    (h : s.activity = .awake en (.creating ticket generation path))
    (hes : es = [.event (.fileBegin path)]) (h' : s'.activity = .awake en (.beginning ticket))
    (hwritten : s'.framesWritten = s.framesWritten)
    (hfile : s'.file = some (s.newFile ticket generation path))
  | hands {en ticket}
    (h : s.activity = .awake en (.beginning ticket) ∨
      s.activity = .awake en (.handling (.video ticket)) ∧
        ∃ file, s.file = some file ∧ s.splits file ticket.frame = false)
    (hes : es = [.video ticket]) (h' : s'.activity = .awake en (.writingVideo ticket))
    (hwritten : s'.framesWritten = s.framesWritten) (hfile : s'.file = s.file)
  | returns {en ticket file error} (h : s.activity = .awake en (.writingVideo ticket))
    (hm : m = .reply error) (hopen : s.file = some file)
    (hes : es = (error.map Entry.failed).toList ++
      if s.asksAfter file then [.thumbnail s.handle.channelId] else [])
    (hwriting : s'.writing? = none)
    (hwritten : s'.framesWritten = s.framesWritten + error.isNone.toNat)
    (hfile : s'.file = some (s.filmed file ticket))
  | closes {en next} (h : s.activity = .awake en (.ending next)) (hes : es = [])
    (h' : s'.activity = .awake en next.task) (hwritten : s'.framesWritten = s.framesWritten)
    (hfile : s'.file = none)

theorem isFilming_of_isSnapshot {e : Entry} (h : e.isSnapshot = true) : e.isFilming = false := by
  rcases Entry.eq_of_isSnapshot h with ⟨ticket, rfl⟩ | ⟨tickets, rfl⟩ <;> rfl

theorem bare_withSnapshots (s : Stream) (waiting : Lane) (kept : Option Ticket) :
    (s.withSnapshots waiting kept).file.map OpenFile.bare = s.file.map OpenFile.bare := by
  cases hfile : s.file <;> simp [withSnapshots, hfile, OpenFile.bare]

/-- From one task to the next nothing is filmed. -/
theorem Films.of_tasks {s₁ : Stream} {en en' : Bool} {task task' : Task}
    (h : s.activity = .awake en task) (htask : task.writing? = none)
    (h' : s₁.activity = .awake en' task') (htask' : task'.writing? = none)
    (hes : ∀ e ∈ es, e.isFilming = false) (hwritten : s₁.framesWritten = s.framesWritten)
    (hfile : s₁.file.map OpenFile.bare = s.file.map OpenFile.bare) : s.Films m es s₁ := by
  refine .apart hes ?_ hwritten hfile
  rw [writing?_awake h, writing?_awake h', htask, htask']

theorem framesWritten_setLane (s : Stream) (l : Lane) (kind : LaneKind) :
    (s.setLane l kind).framesWritten = s.framesWritten := by
  cases kind <;> rfl

theorem writing?_setLane (s : Stream) (l : Lane) (kind : LaneKind) :
    (s.setLane l kind).writing? = s.writing? := by
  cases kind <;> rfl

/-- **What a move does with the open file and the video frames for it.** -/
theorem Step.films (h : Step s m s' es) (hs : s.Shaped) : s.Films m es s' := by
  have hcollect : ∀ e ∈ s.collectThumbnail.2, e.isFilming = false := fun e he =>
    isFilming_of_isSnapshot (s.isSnapshot_collectThumbnail e he)
  have hlatch : ∀ e ∈ s.latchThumbnail.2, e.isFilming = false := fun e he =>
    isFilming_of_isSnapshot (s.isSnapshot_latchThumbnail e he)
  cases h with
  | idle => exact .apart (by simp) rfl rfl rfl
  | start | stop | shutDown => exact .apart (by simp [Entry.isFilming]) rfl rfl rfl
  | misnamed => exact .apart (forall_mem_optional _ fun _ => rfl) rfl rfl rfl
  | accept | displace =>
    refine .apart (by simp [Entry.isFilming]) (writing?_setLane ..) (framesWritten_setLane ..) ?_
    rw [file_setLane]
  | wake h _ | wakeInterrupted h _ _ =>
    refine .apart (by simp [Entry.isFilming]) ?_ rfl rfl
    rw [writing?_resting (s := s) (by rw [h]; rfl)]
    rfl
  | take h htake _ | takeInterrupted h htake _ =>
    obtain ⟨l, l', -, rfl⟩ := takeFrame?_eq_some htake
    refine .of_tasks h rfl rfl rfl (by simp [Entry.isFilming]) (framesWritten_setLane ..) ?_
    rw [file_setLane]
  | sleep h _ =>
    obtain ⟨waiting, kept, hsnap⟩ := s.exists_collectThumbnail
    rw [hsnap]
    exact .apart hcollect (writing?_awake h).symm rfl (s.bare_withSnapshots waiting kept)
  | closeLast h _ _ | turnIdle h _ _ | collect h =>
    obtain ⟨waiting, kept, hsnap⟩ := s.exists_collectThumbnail
    rw [hsnap]
    exact .of_tasks h rfl rfl rfl hcollect rfl (s.bare_withSnapshots waiting kept)
  | appendTrailer h _ | finishBare h _ =>
    obtain ⟨waiting, kept, hsnap⟩ := s.exists_latchThumbnail
    rw [hsnap]
    refine .of_tasks h rfl rfl rfl (fun e he => ?_) rfl (s.bare_withSnapshots waiting kept)
    rcases List.mem_append.mp he with he | he
    · exact hlatch e he
    · rw [List.mem_singleton.mp he]
      rfl
  | split h _ _ | tryOpen h _ | writeAudio h _ | loseAudio h _ | loseDisabled h _ | askName h _ _
  | askKeyFrame h _ _ _ | loseNonKey h _ _ _ | fail h =>
    exact .of_tasks h rfl rfl rfl (by simp [Entry.isFilming]) rfl rfl
  | asked h htask =>
    rcases htask with rfl | rfl <;> exact .of_tasks h rfl rfl rfl (by simp) rfl rfl
  | name h | finish h =>
    exact .of_tasks h rfl rfl rfl (List.forall_mem_append.mpr
      ⟨forall_mem_optional _ fun _ => rfl, List.forall_mem_singleton.mpr rfl⟩) rfl rfl
  | nameless h | audioWritten h | publish h | tellEnd h =>
    exact .of_tasks h rfl rfl rfl (forall_mem_optional _ fun _ => rfl) rfl rfl
  | @retire en h =>
    refine .apart (s.forall_mem_retire fun _ _ => rfl) ?_ rfl rfl
    rw [writing?_awake h, writing?_resting s.task?_retire]
    rfl
  | create h _ => exact .creates h rfl rfl rfl rfl
  | writeVideo h hfile hsplit => exact .hands (.inr ⟨h, _, hfile, hsplit⟩) rfl rfl rfl rfl
  | begin h => exact .hands (.inl h) rfl rfl rfl rfl
  | @videoWritten _ ticket file error h hfile hdue =>
    have hasks : s.asksAfter file = false := hdue
    refine .returns h rfl hfile ?_ rfl ?_ ?_
    · simp [hasks]
    · cases error <;> rfl
    · simp [filmed, hasks]
  | @askThumbnail _ ticket file error h hfile hdue =>
    have hasks : s.asksAfter file = true := hdue
    refine .returns h rfl hfile ?_ rfl ?_ ?_
    · simp [hasks]
    · cases error <;> rfl
    · simp [filmed, hasks]
  | videoStray h hfile =>
    obtain ⟨file, hopen⟩ := hs.exists_file h rfl
    cases hfile.symm.trans hopen
  | @resume _ next _ h => exact .closes h rfl (by cases next <;> rfl) rfl rfl

/-! ## Calls that return -/

/-- Whether a call to write a video frame succeeds that a move ends. -/
def videoReply? (s : Stream) : Move → Option Bool
  | .reply error => s.writing?.map fun _ => error.isNone
  | _ => none

/-- For each call to write a video frame that has returned, in order, whether it succeeded. -/
def videoReplies (s : Stream) : List Move → List Bool
  | [] => []
  | m :: ms => (s.videoReply? m).toList ++ (s.move m).1.videoReplies ms

theorem videoReply?_eq_none (h : s.writing? = none) (m : Move) : s.videoReply? m = none := by
  cases m <;> simp [videoReply?, h]

theorem exists_writing {ticket : Ticket} (h : s.writing? = some ticket) :
    ∃ en, s.activity = .awake en (.writingVideo ticket) := by
  cases hact : s.activity with
  | asleep | stopped | crashed => simp [writing?, hact, Activity.task?] at h
  | awake en task =>
    rw [writing?_awake hact] at h
    cases task with
    | writingVideo t =>
      cases h
      exact ⟨en, rfl⟩
    | _ => cases h

/-- A call to write a video frame that a move ends is not waited for any more. -/
theorem writing?_of_videoReply {ok : Bool} (h : s.videoReply? m = some ok) :
    (s.move m).1.writing? = none := by
  unfold videoReply? at h
  split at h
  · next error =>
    obtain ⟨ticket, hwriting, -⟩ := Option.map_eq_some_iff.mp h
    obtain ⟨en, hact⟩ := exists_writing hwriting
    have hturn : s.isTurn (.reply error) = true := by
      simp [isTurn, hact, Activity.task?, Task.isCall]
    have hmoved := activity_ne_of_isTurn hturn
    rcases (s.step_move (.reply error)).leads hact with hsame | ⟨task', hact', hleads⟩
      | ⟨-, htask, -⟩ | ⟨htask, -⟩
    · exact absurd (hsame.trans hact.symm) hmoved
    · rw [writing?_awake hact']
      cases hleads <;> rfl
    · cases htask
    · cases htask
  · cases h

theorem videoReply_move (hs : s.Shaped) (m : Move) :
    (s.move m).1.framesWritten = s.framesWritten + (s.videoReply? m).toList.count true ∧
      (videos (s.move m).2).length + s.writing?.toList.length
        = (s.videoReply? m).toList.length + (s.move m).1.writing?.toList.length := by
  cases (s.step_move m).films hs with
  | apart hes hwriting hwritten hfile =>
    have hnone : s.videoReply? m = none := by
      cases hreply : s.videoReply? m with
      | none => rfl
      | some ok =>
        -- the worker would still wait for the call that it ends
        have hwaits := hwriting.symm.trans (writing?_of_videoReply hreply)
        cases hreply.symm.trans (videoReply?_eq_none hwaits m)
    rw [hwritten, hwriting, hnone, videos_eq_nil hes]
    exact ⟨rfl, rfl⟩
  | creates h hes h' hwritten hfile =>
    have hwriting := writing?_awake h
    rw [hwritten, writing?_awake h', hwriting, videoReply?_eq_none hwriting, hes]
    exact ⟨rfl, rfl⟩
  | @closes en next h hes h' hwritten hfile =>
    have hwriting := writing?_awake h
    rw [hwritten, writing?_awake h', hwriting, videoReply?_eq_none hwriting, hes]
    cases next <;> exact ⟨rfl, rfl⟩
  | @hands en ticket h hes h' hwritten hfile =>
    have hwriting : s.writing? = none := by
      rcases h with h | ⟨h, -⟩ <;> exact writing?_awake h
    rw [hwritten, writing?_awake h', hwriting, videoReply?_eq_none hwriting, hes]
    exact ⟨rfl, rfl⟩
  | @returns en ticket file error h hm hopen hes hwriting hwritten hfile =>
    subst hm
    have hvideos : videos (s.move (.reply error)).2 = [] := by
      rw [hes]
      cases error <;> cases s.asksAfter file <;> rfl
    rw [hwritten, hwriting, videoReply?, writing?_awake h, hvideos]
    cases error <;> exact ⟨rfl, rfl⟩

/-- **The count of written frames and the calls for them.** Each move makes as many calls to write a
video frame as it ends, or the worker then waits for one more. -/
theorem videoReplies_run (hs : s.Shaped) (ms : List Move) :
    (s.run ms).1.framesWritten = s.framesWritten + (s.videoReplies ms).count true ∧
      (videos (s.run ms).2).length + s.writing?.toList.length
        = (s.videoReplies ms).length + (s.run ms).1.writing?.toList.length := by
  induction ms generalizing s with
  | nil => exact ⟨rfl, by simp [videos, videoReplies]⟩
  | cons m ms ih =>
    have hstep := s.step_move m
    obtain ⟨hwritten, hcalled⟩ := ih (hstep.shaped hs)
    obtain ⟨hwritten₁, hcalled₁⟩ := videoReply_move hs m
    rw [run_cons, videoReplies, videos_append]
    simp only [List.length_append, List.count_append]
    omega

end Stream

end CameraRecorder

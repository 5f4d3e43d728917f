import CameraRecorder.Proofs.Disk.Calls
import CameraRecorder.Proofs.Session.Contents
import CameraRecorder.Proofs.Session.Faults
import CameraRecorder.Proofs.Session.Parts

/-!
# A worker and its writer in accord

A writer refuses a call that does not fit its state: to open a file while one is open, to write or
finish one while none is, or to write sound for a recording without a track for it. No worker ever
makes such a call, whatever fails when files are read and written, as long as its calls get to the
writer (`Session.ReachingStep`). For a worker holds a file exactly while its writer is open
(`Track.InAccord`): when a file cannot be opened both stay closed, when data cannot be written both
stay open, and when a file cannot be finished both are closed all the same.
-/

namespace CameraRecorder

/-! ## What a worker takes its writer for -/

/-- Whether the writer still has the file of a stream during a task. -/
def Task.leavesOpen : Task → Bool
  | publishing _ | ending _ => false
  | _ => true

namespace Stream

variable {s s' : Stream} {m : Move} {es : List Entry} {en : Bool} {task : Task}

/-- Whether the worker takes its writer to be open: it has a file, and did not get an answer to
finishing it yet. -/
def holdsWriter (s : Stream) : Bool := s.file.isSome && s.activity.task?.all Task.leavesOpen

theorem holdsWriter_of_task (hact : s.activity = .awake en task) :
    s.holdsWriter = (s.file.isSome && task.leavesOpen) := by
  rw [holdsWriter, hact]
  rfl

/-- What the worker takes its writer for after a call that was answered, with an error or not. -/
def holdsWriterAfter (s : Stream) (error : Option WriterError) : Task → Bool
  | .creating .. => error.isNone
  | .finishing _ => false
  | _ => s.holdsWriter

/-- Sound is only written for a stream that has a track for it. -/
def WritesSound (s : Stream) : Prop :=
  ∀ en ticket, s.activity = .awake en (.writingAudio ticket) → s.config.audio.isSome = true

theorem Step.writesSound (h : Step s m s' es) (hs : s.Shaped) (hw : s.WritesSound) :
    s'.WritesSound := by
  intro en ticket hact'
  rw [h.same.config]
  generalize htask : Task.writingAudio ticket = task' at hact'
  rcases h.comes_from hact' with hsame | ⟨task, hact, hleads⟩ | ⟨-, -, -, -, rfl⟩
  · subst htask
    exact hw en ticket hsame
  · cases hleads with
    | @writeAudio ticket =>
      -- the frame was in hand before
      exact hs.hand ⟨.audio, ticket⟩ (by simp [inHand_awake hact, Task.inHand, Pending.item,
        Pending.lane, Pending.ticket]) rfl
    | @resume next => cases next <;> cases htask
    | _ => cases htask
  · split at htask <;> cases htask

/-- It is only told that a call failed when the call ends. -/
theorem Step.of_failed (h : Step s m s' es) {cause : WriterError} (he : .failed cause ∈ es) :
    m = .reply (some cause) ∧ s.endsDiskCall m = true := by
  have hsnapshots {es : List Entry} (hes : ∀ e ∈ es, e.isSnapshot = true) : .failed cause ∉ es :=
    fun he => by cases hes _ he
  have hanswer {error : Option WriterError} {en : Bool} {task : Task}
      (hact : s.activity = .awake en task) (htask : task.usesDisk = true)
      (he : .failed cause ∈ (error.map Entry.failed).toList) :
      Move.reply error = .reply (some cause) ∧ s.endsDiskCall (.reply error) = true := by
    obtain ⟨cause', herror, hcause⟩ := Option.map_eq_some_iff.mp (Option.mem_toList.mp he)
    cases hcause
    rw [herror, endsDiskCall, hact]
    exact ⟨rfl, htask⟩
  cases h with
  | @fail _ _ _ _ cause' h => exact @hanswer (some cause') _ _ h rfl he
  | videoWritten h _ _ | videoStray h _ | audioWritten h | publish h => exact hanswer h rfl he
  | askThumbnail h _ _ | finish h => exact hanswer h rfl (by simpa using he)
  | sleep | closeLast | turnIdle | collect =>
    exact absurd he (hsnapshots s.isSnapshot_collectThumbnail)
  | appendTrailer | finishBare =>
    rcases List.mem_append.mp he with he | he
    · exact absurd he (hsnapshots s.isSnapshot_latchThumbnail)
    · simp at he
  | retire => simp [Stream.retire] at he
  | name | nameless | misnamed | tellEnd => simp at he
  | idle | split | tryOpen | loseAudio | loseDisabled | askName | loseNonKey | asked | resume =>
    cases he
  | _ => simp at he

/-- Moves that end no call on the disk leave the writer to the worker as it was. -/
theorem Step.holdsWriter (h : Step s m s' es) (hm : s.endsDiskCall m = false) :
    s'.holdsWriter = s.holdsWriter := by
  have hkept {s' : Stream} {en en' : Bool} {task task' : Task} (hact : s.activity = .awake en task)
      (hact' : s'.activity = .awake en' task') (hfile : s'.file.isSome = s.file.isSome)
      (htasks : task'.leavesOpen = task.leavesOpen) : s'.holdsWriter = s.holdsWriter := by
    rw [holdsWriter_of_task hact, holdsWriter_of_task hact', hfile, htasks]
  have hcalls {en : Bool} {task : Task} {error : Option WriterError} {p : Prop}
      (hact : s.activity = .awake en task) (htask : task.usesDisk = true)
      (hm : s.endsDiskCall (.reply error) = false) : p := by
    rw [endsDiskCall, hact] at hm
    exact absurd htask (by simpa [Activity.task?] using hm)
  cases h with
  | idle | start | stop | shutDown | misnamed => rfl
  | accept | displace => rw [Stream.holdsWriter, Stream.holdsWriter, file_setLane, activity_setLane]
  | wake h _ | wakeInterrupted h _ _ =>
    simp [Stream.holdsWriter, h, Activity.task?, Task.leavesOpen]
  | take h htake _ | takeInterrupted h htake _ =>
    obtain ⟨l, l', -, rfl⟩ := takeFrame?_eq_some htake
    exact hkept h rfl (by rw [file_setLane]) rfl
  | sleep h _ =>
    rw [holdsWriter_of_task h, Stream.holdsWriter]
    exact congrArg₂ (· && ·) s.isSome_file_collectThumbnail rfl
  | closeLast h _ _ | turnIdle h _ _ | collect h =>
    exact hkept h rfl s.isSome_file_collectThumbnail rfl
  | appendTrailer h _ | finishBare h _ => exact hkept h rfl s.isSome_file_latchThumbnail rfl
  | retire h =>
    rw [holdsWriter_of_task h, Stream.holdsWriter, s.task?_retire]
    rfl
  | asked h htask => rcases htask with rfl | rfl <;> exact hkept h rfl rfl rfl
  | split h _ _ | writeVideo h _ _ | tryOpen h _ | writeAudio h _ | loseAudio h _
  | loseDisabled h _ | askName h _ _ | askKeyFrame h _ _ _ | loseNonKey h _ _ _ | name h
  | nameless h | begin h => exact hkept h rfl rfl rfl
  | @resume _ next _ h =>
    rw [holdsWriter_of_task h, Task.leavesOpen, Bool.and_false]
    rfl
  | create h _ | fail h | videoWritten h _ _ | askThumbnail h _ _ | videoStray h _
  | audioWritten h | finish h | publish h | tellEnd h => exact hcalls h rfl hm

/-- A stream that is moved without the end of a call on the disk leaves the writer to the worker as
it was, and nothing is told of a failure. -/
theorem Calm.holdsWriter (h : s.Calm es s') :
    s'.holdsWriter = s.holdsWriter ∧ ∀ cause, .failed cause ∉ es := by
  induction h with
  | nil => exact ⟨rfl, fun _ => List.not_mem_nil⟩
  | @cons s s' m es hm _ ih =>
    have hstep := s.step_move m
    obtain ⟨hholds, hes⟩ := ih
    refine ⟨hholds.trans (hstep.holdsWriter hm), fun cause he => ?_⟩
    rcases List.mem_append.mp he with he | he
    · cases (hstep.of_failed he).2.symm.trans hm
    · exact hes cause he

theorem holdsWriter_videoWritten {file : OpenFile} (hfile : s.file = some file) (en : Bool)
    (ticket : Ticket) (isWritten : Bool) :
    (s.videoWritten en ticket isWritten).1.holdsWriter = true := by
  unfold videoWritten
  simp only [hfile]
  by_cases hdue : (!file.thumbnailAsked && s.policy.thumbnailDue (file.frameCount + 1)) = true
  · simp only [policy] at hdue
    simp [policy, hdue, turnTo, holdsWriter, Activity.task?, Task.leavesOpen]
  · simp only [policy] at hdue
    simp [policy, hdue, turnTo, holdsWriter, Activity.task?, Task.leavesOpen]

/-- What the worker takes its writer for when a call has ended, however it was answered. -/
theorem holdsWriter_reply (hs : s.Shaped) (hact : s.activity = .awake en task)
    (error : Option WriterError) :
    (s.reply error).1.holdsWriter = s.holdsWriterAfter error task := by
  have hbefore := holdsWriter_of_task hact
  unfold holdsWriterAfter
  cases task with
  | creating ticket generation path =>
    have hnone := hs.file_eq_none hact rfl
    cases error <;>
      simp [Stream.reply, hact, created, turnTo, holdsWriter, hnone, Activity.task?,
        Task.leavesOpen]
  | writingVideo ticket =>
    obtain ⟨f, hfile⟩ := hs.exists_file hact rfl
    rw [hfile] at hbefore
    rw [hbefore]
    simp only [Stream.reply, hact]
    exact holdsWriter_videoWritten hfile en ticket _
  | ending next =>
    rw [hbefore]
    simp [Stream.reply, hact, Stream.resume, turnTo, holdsWriter, Task.leavesOpen]
  | _ =>
    rw [hbefore]
    simp [Stream.reply, hact, turnTo, holdsWriter, Activity.task?, Task.leavesOpen]

end Stream

/-! ## Who is told of a failure -/

namespace Session

variable {s s' : Session} {es es' : Entries} {i : Nat}

/-- Failures are told of streams of the session. -/
def Addressed (s : Session) (es : Entries) : Prop :=
  ∀ i cause, (i, .failed cause) ∈ es → i < s.tracks.length

theorem Addressed.append (h : s.Addressed es) (h' : s.Addressed es') : s.Addressed (es ++ es') :=
  fun i cause he => (List.mem_append.mp he).elim (h i cause) (h' i cause)

theorem Addressed.of_length (h : s.Addressed es) (hlen : s.tracks.length = s'.tracks.length) :
    s'.Addressed es := fun i cause he => hlen ▸ h i cause he

theorem addressed_nil (s : Session) : s.Addressed [] := fun _ _ => nofun

theorem addressed_map {stream : Stream} (hi : s.stream? i = some stream) (es : List Entry) :
    s.Addressed (es.map (i, ·)) := by
  intro j cause he
  obtain ⟨e, -, heq⟩ := List.mem_map.mp he
  cases heq
  obtain ⟨track, htrack, -⟩ := Option.map_eq_some_iff.mp hi
  exact (List.getElem?_eq_some_iff.mp htrack).1

theorem addressed_onStream (s : Session) (i : Nat) (act : Stream → Stream × List Entry) :
    s.Addressed (s.onStream i act).2 := by
  unfold onStream
  cases hi : s.stream? i with
  | none => exact s.addressed_nil
  | some stream => exact addressed_map hi _

theorem addressed_onStreams (s : Session) (act : Stream → Stream × List Entry) :
    s.Addressed (s.onStreams act).2 := by
  unfold onStreams
  refine (List.foldlRecOn (motive := fun r : Session × Entries =>
    r.1.tracks.length = s.tracks.length ∧ s.Addressed r.2) _ _ ⟨rfl, s.addressed_nil⟩ ?_).2
  rintro ⟨s₁, es⟩ ⟨hlen, hes⟩ i -
  exact ⟨(s₁.length_onStream i act).trans hlen,
    hes.append ((s₁.addressed_onStream i act).of_length hlen)⟩

theorem addressed_submitTo {submit : Stream → Except SubmitError (Stream × List Entry)}
    {r : Session × Entries} (h : s.submitTo i submit = .ok r) : s.Addressed r.2 := by
  unfold submitTo at h
  cases hi : s.stream? i with
  | none =>
    rw [hi] at h
    cases h
  | some stream =>
    cases hr : submit stream with
    | error cause =>
      simp only [hi, hr] at h
      cases h
    | ok made =>
      simp only [hi, hr] at h
      cases h
      exact addressed_map hi _

theorem addressed_broadcast (s : Session) (kind : LaneKind) (frame : Frame) :
    s.Addressed (s.broadcast kind frame).2.1 := by
  unfold broadcast
  refine (List.foldlRecOn (motive := fun r : Session × Entries × Nat =>
    r.1.tracks.length = s.tracks.length ∧ s.Addressed r.2.1) _ _ ⟨rfl, s.addressed_nil⟩ ?_).2
  rintro ⟨s₁, es, count⟩ ⟨hlen, hes⟩ i -
  cases hsubmit : s₁.submitTo i (·.submit kind frame) with
  | ok r =>
    simp only [hsubmit]
    exact ⟨(length_submitTo hsubmit).trans hlen,
      hes.append ((addressed_submitTo hsubmit).of_length hlen)⟩
  | error cause =>
    simp only [hsubmit]
    exact ⟨hlen, hes⟩

theorem addressed_replyTo (s : Session) (i : Nat) (faulty : Bool) :
    s.Addressed (s.replyTo i faulty).2 := by
  unfold replyTo
  cases s.tracks[i]? with
  | none => exact s.addressed_nil
  | some track =>
    cases htask : track.stream.activity.task? with
    | none =>
      simp only [htask]
      exact s.addressed_nil
    | some task =>
      simp only [htask]
      by_cases hfaulty : (faulty && reachesWriter task) = true
      · rw [if_pos hfaulty]
        exact s.addressed_onStream i _
      · rw [if_neg hfaulty]
        exact (addressed_onStream _ i _).of_length (by simp)

/-- Whatever is done with a session, failures are told of its streams. -/
theorem Step.addressed (h : s.Step es s') : s.Addressed es := by
  cases h with
  | start => exact s.addressed_onStreams _
  | stop => exact s.addressed_onStreams _
  | shutDown => exact s.addressed_onStreams _
  | @submitVideo channel _ _ h =>
    unfold Session.submitVideo at h
    cases hi : s.indexOf? channel with
    | none =>
      rw [hi] at h
      cases h
    | some i =>
      rw [hi] at h
      exact addressed_submitTo h
  | submit h => exact addressed_submitTo h
  | retry h => exact addressed_submitTo h
  | broadcast => exact s.addressed_broadcast _ _
  | wake => exact s.addressed_onStream _ _
  | advance hi => exact addressed_map hi _
  | @name _ request i source =>
    have hasked : s.Addressed (if (s.names.take? i).isSome then []
        else [(i, .names s.names.cameraId s.names.slots.length)]) := by
      intro j cause he
      split at he <;> simp at he
    exact hasked.append (addressed_onStream { s with names := _ } i _)
  | reply => exact s.addressed_replyTo _ _

end Session

/-! ## Calls that get to the writer -/

namespace Session

variable {s s' s'' : Session} {es es' : Entries} {i : Nat} {track : Track} {task : Task}
  {d d' : Disk} {writer : Writer} {error : Option WriterError} {en : Bool}

/-- A call for a task gets to the writer: it is carried out, or it fails at a file. -/
inductive Reached (track : Track) (task : Task) (d : Disk) :
    Writer → Disk → Option WriterError → Prop
  | carried : Reached track task d (callOut track task d).1 (callOut track task d).2.1
    (callOut track task d).2.2
  | faltered {writer : Writer} {d' : Disk} (h : track.writer.Falters d d' task writer) :
    Reached track task d writer d' (some .io)

theorem Reached.called (h : Reached track task d writer d' error) :
    Called track task d writer d' error := by
  cases h with
  | carried => exact .carried
  | faltered h => exact .faltered h

/-- What can be done with a session when every call gets to its writer, and any call may fail at the
files. -/
inductive ReachingStep (s : Session) : Entries → Session → Prop
  | calm {es : Entries} {s' : Session} (h : s.Step es s') (hcalm : s.Calm es s') :
    ReachingStep s es s'
  | reached {i : Nat} {track : Track} {en : Bool} {task : Task} {writer : Writer} {disk : Disk}
    {error : Option WriterError} (hi : s.tracks[i]? = some track)
    (hact : track.stream.activity = .awake en task) (htask : task.usesDisk = true)
    (h : Reached track task s.disk writer disk error) :
    ReachingStep s ((track.stream.reply error).2.map (i, ·))
      { s with disk, tracks := s.tracks.set i ⟨(track.stream.reply error).1, writer⟩ }

/-- What can be done with a session over time when every call gets to its writer. -/
inductive ReachingSteps : Session → Entries → Session → Prop
  | nil {s : Session} : ReachingSteps s [] s
  | cons {s s₁ s' : Session} {es es' : Entries} (h : ReachingStep s es s₁)
    (hs : ReachingSteps s₁ es' s') : ReachingSteps s (es ++ es') s'

theorem ReachingSteps.trans (h : s.ReachingSteps es s') (h' : s'.ReachingSteps es' s'') :
    s.ReachingSteps (es ++ es') s'' := by
  induction h with
  | nil => exact h'
  | cons hstep _ ih =>
    rw [List.append_assoc]
    exact .cons hstep (ih h')

/-- The end of a call that got to the writer. -/
theorem reachingStep_replyTo (s : Session) (i : Nat) :
    s.ReachingStep (s.replyTo i false).2 (s.replyTo i false).1 := by
  rcases s.calm_replyTo_or i false with hcalm | ⟨track, en, task, hi, hact, htask⟩
  · exact .calm .reply hcalm
  · rw [replyTo_eq hi hact rfl]
    exact .reached hi hact htask .carried

/-- **Whatever is done with a session, calls get to their writers, or one does not.** -/
theorem FaultyStep.reaching_or_lost (h : s.FaultyStep es s') : s.ReachingStep es s' ∨
    ∃ i task, (s.stream? i).bind (·.activity.task?) = some task ∧ reachesWriter task = true ∧
      es = (s.replyTo i true).2 ∧ s' = (s.replyTo i true).1 := by
  cases h with
  | falter hi hact h =>
    exact .inl (.reached hi hact (Task.usesDisk_of_reaches h.reaches) (.faltered h))
  | step h =>
    rcases h.calm_or_reply with hcalm | ⟨i, faulty, rfl, rfl⟩
    · exact .inl (.calm h hcalm)
    cases faulty with
    | false => exact .inl (s.reachingStep_replyTo i)
    | true =>
      rcases s.calm_replyTo_or i true with hcalm | ⟨track, en, task, hi, hact, htask⟩
      · exact .inl (.calm h hcalm)
      cases hreaches : reachesWriter task with
      | true =>
        refine .inr ⟨i, task, ?_, hreaches, rfl, rfl⟩
        simp [stream?, hi, hact, Activity.task?]
      | false =>
        rw [replyTo_eq hi hact (by simp [hreaches])]
        exact .inl (.reached hi hact htask .carried)

end Session

/-! ## Accord -/

/-- A worker and its writer of files, if it has one, are in accord: the writer is open exactly when
the worker takes it to be, and then it has a track for sound if the stream has one. -/
structure Track.InAccord (track : Track) : Prop where
  shaped : track.stream.Shaped
  writesSound : track.stream.WritesSound
  opened : ∀ w, track.writer = .files w → w.files.isSome = track.stream.holdsWriter
  sound : ∀ w files, track.writer = .files w → w.files = some files →
    files.audio.isSome = track.stream.config.audio.isSome

namespace Track

variable {track : Track} {task : Task} {d d' : Disk} {writer : Writer} {error : Option WriterError}
  {en : Bool}

theorem inAccord_create (handle : StreamHandle) (config : StreamConfig)
    (h : writer = .silent ∨ writer = .toFiles) : InAccord ⟨.create handle config, writer⟩ where
  shaped := Stream.shaped_create handle config
  writesSound := nofun
  opened w hw := by
    rcases h with rfl | rfl <;> cases hw
    rfl
  sound w files hw hfiles := by
    rcases h with rfl | rfl <;> cases hw
    cases hfiles

/-- A stream that is moved and no more stays in accord with its writer. -/
theorem InAccord.calm {es : List Entry} {stream : Stream} (h : track.InAccord)
    (hcalm : track.stream.Calm es stream) :
    InAccord { track with stream } ∧ ∀ cause, .failed cause ∉ es := by
  obtain ⟨hholds, hes⟩ := hcalm.holdsWriter
  obtain ⟨ms, rfl, -⟩ := hcalm.exists_run
  obtain ⟨hshaped, hsound⟩ := Stream.run_invariant
    (P := fun stream => stream.Shaped ∧ stream.WritesSound)
    (fun h hs => ⟨h.shaped hs.1, h.writesSound hs.1 hs.2⟩) ⟨h.shaped, h.writesSound⟩ ms
  refine ⟨⟨hshaped, hsound, fun w hw => (h.opened w hw).trans hholds.symm,
    fun w files hw hfiles => ?_⟩, hes⟩
  exact (h.sound w files hw hfiles).trans (by rw [(track.stream.same_run ms).config])

/-- What a call leaves of the writer: refused for no other reason than the files, and in accord with
what the worker then takes it for. -/
structure Fits (track : Track) (task : Task) (writer : Writer) (error : Option WriterError) :
    Prop where
  refused : ∀ cause, error = some cause → cause = .io
  opened : ∀ w, writer = .files w → w.files.isSome = track.stream.holdsWriterAfter error task
  sound : ∀ w files, writer = .files w → w.files = some files →
    files.audio.isSome = track.stream.config.audio.isSome

/-- A silent writer fits any call. -/
theorem fits_silent : track.Fits task .silent none := ⟨nofun, nofun, nofun⟩

theorem fits_files {w : FileWriter} (hrefused : ∀ cause, error = some cause → cause = .io)
    (hopened : w.files.isSome = track.stream.holdsWriterAfter error task)
    (hsound : ∀ files, w.files = some files →
      files.audio.isSome = track.stream.config.audio.isSome) :
    track.Fits task (.files w) error where
  refused := hrefused
  opened w' h := by
    cases h
    exact hopened
  sound w' files h := by
    cases h
    exact hsound files

/-- After a call that writes, the writer is open as it was. -/
theorem fits_written {w : FileWriter} {files : OpenFiles}
    (htask : (∃ ticket, task = .writingVideo ticket) ∨ (∃ ticket, task = .writingAudio ticket) ∨
      ∃ snapshot data next, task = .trailing snapshot data next)
    (hholds : track.stream.holdsWriter = true)
    (hrefused : ∀ cause, error = some cause → cause = .io)
    (hfiles : w.files = some files)
    (haudio : files.audio.isSome = track.stream.config.audio.isSome) :
    track.Fits task (.files w) error := by
  refine fits_files hrefused ?_ fun files' hfiles' => ?_
  · rw [hfiles, Option.isSome_some]
    rcases htask with ⟨ticket, rfl⟩ | ⟨ticket, rfl⟩ | ⟨snapshot, data, next, rfl⟩ <;>
      exact hholds.symm
  · cases hfiles.symm.trans hfiles'
    exact haudio

section Calls

variable {w : FileWriter} {files : OpenFiles}

/-- While a worker waits to write, its writer is open. -/
theorem InAccord.exists_files (h : track.InAccord) (hw : track.writer = .files w)
    (hact : track.stream.activity = .awake en task) (hfile : task.hasFile? = some true)
    (htask : task.leavesOpen = true) :
    ∃ files, w.files = some files ∧ files.audio.isSome = track.stream.config.audio.isSome ∧
      track.stream.holdsWriter = true := by
  obtain ⟨f, hf⟩ := h.shaped.exists_file hact hfile
  have hholds : track.stream.holdsWriter = true := by
    rw [Stream.holdsWriter_of_task hact, hf, htask]
    rfl
  obtain ⟨files, hfiles⟩ := Option.isSome_iff_exists.mp ((h.opened w hw).trans hholds)
  exact ⟨files, hfiles, h.sound w files hw hfiles, hholds⟩

/-- **A call that is carried out fits**, since the writer is in the state that it is for. -/
theorem InAccord.fits_callOut (h : track.InAccord) (hact : track.stream.activity = .awake en task)
    (htask : task.usesDisk = true) (d : Disk) :
    track.Fits task (Session.callOut track task d).1 (Session.callOut track task d).2.2 := by
  cases hw : track.writer with
  | silent =>
    obtain ⟨hwriter, herror⟩ := Session.callOut_silent hw task d
    rw [hwriter, herror]
    exact fits_silent
  | files w =>
    cases task with
    | creating ticket generation path =>
      have hclosed : w.files = none := by
        have hopened := h.opened w hw
        rw [Stream.holdsWriter_of_task hact, h.shaped.file_eq_none hact rfl] at hopened
        simpa using hopened
      simp only [Session.callOut, hw, Writer.init, Writer.onFiles]
      cases hmade : w.init (track.stream.writePath path) track.stream.config.audio d with
      | mk w' outcome =>
        rcases FileWriter.init_of_closed hclosed hmade with
          ⟨herror, files', hfiles', haudio⟩ | ⟨herror, hclosed'⟩
        · refine fits_files (by simp [herror])
            (by simp [herror, hfiles', Stream.holdsWriterAfter]) fun files hfiles => ?_
          cases hfiles'.symm.trans hfiles
          exact haudio
        · refine fits_files (by simp [herror])
            (by simp [herror, hclosed', Stream.holdsWriterAfter]) fun files hfiles => ?_
          cases hclosed'.symm.trans hfiles
    | writingVideo ticket =>
      obtain ⟨files, hfiles, haudio, hholds⟩ := h.exists_files hw hact rfl rfl
      simp only [Session.callOut, hw, Writer.writeVideo, Writer.onFiles]
      cases hmade : w.writeVideo ticket.frame.data d with
      | mk w' outcome =>
        obtain ⟨herror, files', hfiles', hsame⟩ := FileWriter.writeVideo_of_open hfiles hmade
        exact fits_written (.inl ⟨_, rfl⟩) hholds (fun cause h => (herror cause h).1) hfiles'
          (hsame ▸ haudio)
    | writingAudio ticket =>
      obtain ⟨files, hfiles, haudio, hholds⟩ := h.exists_files hw hact rfl rfl
      have hsound := h.writesSound _ _ hact
      simp only [Session.callOut, hw, Writer.writeAudio, Writer.onFiles]
      cases hmade : w.writeAudio ticket.frame.data d with
      | mk w' outcome =>
        obtain ⟨herror, files', hfiles', haudio'⟩ :=
          FileWriter.writeAudio_of_open hfiles (haudio.trans hsound) hmade
        exact fits_written (.inr (.inl ⟨_, rfl⟩)) hholds (fun cause h => (herror cause h).1) hfiles'
          (haudio'.trans hsound.symm)
    | trailing snapshot data next =>
      obtain ⟨files, hfiles, haudio, hholds⟩ := h.exists_files hw hact rfl rfl
      simp only [Session.callOut, hw, Writer.appendTrailer, Writer.onFiles]
      cases hmade : w.appendTrailer data d with
      | mk w' outcome =>
        obtain ⟨herror, files', hfiles', hsame⟩ := FileWriter.writeVideo_of_open hfiles hmade
        exact fits_written (.inr (.inr ⟨_, _, _, rfl⟩)) hholds (fun cause h => (herror cause h).1)
          hfiles' (hsame ▸ haudio)
    | finishing next =>
      obtain ⟨files, hfiles, -⟩ := h.exists_files hw hact rfl rfl
      simp only [Session.callOut, hw, Writer.deinit, Writer.onFiles]
      cases hmade : w.deinit d with
      | mk w' outcome =>
        obtain ⟨herror, hclosed⟩ := FileWriter.deinit_of_open hfiles hmade
        refine fits_files (fun cause h => (herror cause h).1)
          (by simp [hclosed, Stream.holdsWriterAfter]) fun files' hfiles' => ?_
        cases hclosed.symm.trans hfiles'
    | publishing next =>
      have hcalled : Session.Called track (.publishing next) d _ _ _ := .carried
      obtain ⟨hwriter, -, herror⟩ := hcalled.of_publishing
      rw [hwriter, herror, hw]
      exact fits_files (by simp) (h.opened w hw) fun files => h.sound w files hw
    | _ => cases htask

/-- **A call that fails at the files fits as well.** -/
theorem InAccord.fits_falters (h : track.InAccord) (hact : track.stream.activity = .awake en task)
    (hfalters : track.writer.Falters d d' task writer) : track.Fits task writer (some .io) := by
  have hio : ∀ cause, some WriterError.io = some cause → cause = .io := by
    rintro cause ⟨⟩
    rfl
  generalize hw : track.writer = old at hfalters
  cases hfalters with
  | opening hclosed =>
    refine fits_files hio (by simp [hclosed, Stream.holdsWriterAfter]) fun files hfiles => ?_
    cases hclosed.symm.trans hfiles
  | @writing files files' _ htask _ haudio _ =>
    have hsame : files'.audio.isSome = files.audio.isSome := by
      simpa using congrArg Option.isSome haudio
    have hholds : track.stream.holdsWriter = true := (h.opened _ hw).symm
    exact fits_written htask hholds hio rfl (hsame.trans (h.sound _ _ hw rfl))
  | finishing => exact fits_files hio rfl nofun

/-- A call that fits leaves the worker and its writer in accord. -/
theorem InAccord.answered (h : track.InAccord) (hact : track.stream.activity = .awake en task)
    (hstep : Stream.Step track.stream (.reply error) (track.stream.reply error).1
      (track.stream.reply error).2)
    (hfits : track.Fits task writer error) : InAccord ⟨(track.stream.reply error).1, writer⟩ where
  shaped := hstep.shaped h.shaped
  writesSound := hstep.writesSound h.shaped h.writesSound
  opened w hw := by
    rw [hfits.opened w hw]
    exact (Stream.holdsWriter_reply h.shaped hact error).symm
  sound w files hw hfiles := (hfits.sound w files hw hfiles).trans (by rw [hstep.same.config])

end Calls

end Track

/-! ## Sessions -/

namespace Session

variable {s s' : Session} {es : Entries}

/-- **A step keeps workers and writers in accord**, and no call is refused for another reason than
the files. -/
theorem ReachingStep.inAccord (h : s.ReachingStep es s') (ha : ∀ track ∈ s.tracks, track.InAccord) :
    (∀ track ∈ s'.tracks, track.InAccord) ∧ ∀ i cause, (i, .failed cause) ∈ es → cause = .io := by
  cases h with
  | calm h hcalm =>
    have hmoved {i : Nat} {track' : Track} (hi' : s'.tracks[i]? = some track') :
        track'.InAccord ∧ ∀ cause, .failed cause ∉ entriesOf es i := by
      have hlt := (List.getElem?_eq_some_iff.mp hi').1
      rw [hcalm.length] at hlt
      obtain ⟨stream, hstream, hi''⟩ := hcalm.tracks i _ (List.getElem?_eq_getElem hlt)
      cases hi'.symm.trans hi''
      exact (ha _ (List.getElem_mem hlt)).calm hstream
    refine ⟨fun track' htrack' => ?_, fun i cause he => ?_⟩
    · obtain ⟨i, hi'⟩ := List.getElem?_of_mem htrack'
      exact (hmoved hi').1
    · have hlt := h.addressed i cause he
      rw [← hcalm.length] at hlt
      refine absurd ?_ ((hmoved (List.getElem?_eq_getElem hlt)).2 cause)
      exact List.mem_filterMap.mpr ⟨_, he, if_pos rfl⟩
  | @reached i track en task writer disk error hi hact htask h =>
    have htrack := ha track (List.mem_of_getElem? hi)
    have hstep := h.called.step hact
    have hfits : track.Fits task writer error := by
      cases h with
      | carried => exact htrack.fits_callOut hact htask _
      | faltered h => exact htrack.fits_falters hact h
    refine ⟨fun track' htrack' => ?_, fun j cause he => ?_⟩
    · rcases List.mem_or_eq_of_mem_set htrack' with hmem | rfl
      · exact ha track' hmem
      · exact htrack.answered hact hstep hfits
    · obtain ⟨e, he, heq⟩ := List.mem_map.mp he
      cases heq
      obtain ⟨herror, -⟩ := hstep.of_failed he
      exact hfits.refused cause (by cases herror; rfl)

theorem ReachingSteps.inAccord (h : s.ReachingSteps es s')
    (ha : ∀ track ∈ s.tracks, track.InAccord) :
    (∀ track ∈ s'.tracks, track.InAccord) ∧ ∀ i cause, (i, .failed cause) ∈ es → cause = .io := by
  induction h with
  | nil => exact ⟨ha, fun _ _ => nofun⟩
  | cons hstep _ ih =>
    obtain ⟨ha', hio⟩ := hstep.inAccord ha
    obtain ⟨ha'', hio'⟩ := ih ha'
    exact ⟨ha'', fun i cause he => (List.mem_append.mp he).elim (hio i cause) (hio' i cause)⟩

theorem inAccord_assemble (config : SessionConfig) {writer : StreamConfig → Writer} (disk : Disk)
    (hwriters : ∀ stream ∈ config.streams, writer stream = .silent ∨ writer stream = .toFiles) :
    ∀ track ∈ (assemble config writer disk).tracks, track.InAccord := by
  intro track htrack
  obtain ⟨i, hlt, rfl⟩ := List.mem_mapIdx.mp htrack
  exact Track.inAccord_create _ _ (hwriters _ (List.getElem_mem hlt))

/-- **No worker misuses its writer.** Each stream of a session writes files, or nothing. Whatever is
done with the session, with names that are refused and calls that fail at the files in any way, as
long as calls get to the writers: no call fails for another reason than the files. None is refused
since a file is open, since none is, or since there is no track for sound. And this is so of
whatever call a worker makes next. -/
theorem writer_never_misused (config : SessionConfig) (writer : StreamConfig → Writer) (disk : Disk)
    (hwriters : ∀ stream ∈ config.streams, writer stream = .silent ∨ writer stream = .toFiles)
    (hreach : (assemble config writer disk).ReachingSteps es s) :
    (∀ i cause, (i, .failed cause) ∈ es → cause = .io) ∧
    ∀ (track : Track) en task, track ∈ s.tracks → track.stream.activity = .awake en task →
      ∀ writer' disk' cause, Reached track task s.disk writer' disk' (some cause) →
        cause = .io := by
  obtain ⟨ha, hio⟩ := hreach.inAccord (inAccord_assemble config disk hwriters)
  refine ⟨hio, fun track en task htrack hact writer' disk' cause hreached => ?_⟩
  generalize herror : some cause = error at hreached
  cases hreached with
  | faltered => exact Option.some.inj herror
  | carried =>
    cases htask : task.usesDisk with
    | true => exact ((ha track htrack).fits_callOut hact htask s.disk).refused cause herror.symm
    | false => rw [callOut_calm htask] at herror; cases herror

/-! ## A file that cannot be opened at once -/

/-- In a turn the call of a worker gets to its writer. -/
theorem reachingStep_turn {stream : Stream} (hi : s.stream? i = some stream) :
    s.ReachingStep (s.turn i).2 (s.turn i).1 := by
  have hstep := step_turn hi
  unfold turn at hstep ⊢
  cases hmade : stream.advance? with
  | some r =>
    simp only [hi, hmade] at hstep ⊢
    have hmove : stream.move .advance = r := by
      rw [Stream.move, hmade]
      rfl
    refine .calm hstep ?_
    rw [← hmove]
    exact calm_setStream hi rfl
  | none =>
    simp only [hi, hmade] at hstep ⊢
    split at hstep
    · exact .calm hstep (calm_nameFile oneName s i ())
    · exact s.reachingStep_replyTo i

theorem reachingSteps_afterTurns (hs : 0 < s.tracks.length) (n : Nat) :
    s.ReachingSteps (s.afterTurns n).2 (s.afterTurns n).1 := by
  induction n generalizing s with
  | zero => exact .nil
  | succ n ih =>
    have hfirst : s.stream? 0 = some s.tracks[0].stream := by
      simp [stream?, List.getElem?_eq_getElem hs]
    refine .cons (reachingStep_turn hfirst) (ih ?_)
    rw [(step_turn hfirst).length]
    exact hs

/-- A session is started and gets a key frame, and its worker waits for a file to be opened. -/
def openingSession : Session :=
  let started := (assemble ⟨0, [withSound]⟩ (fun _ => .toFiles) {}).start.1
  (((started.broadcast .video ⟨[7], 0, true⟩).1.wake 0).1.afterTurns 4).1

/-- Its worker with its writer. -/
def openingTrack : Track := openingSession.tracks.head (by decide +kernel)

/-- The file could not be created. -/
def unopenedSession : Session :=
  { openingSession with
    tracks := openingSession.tracks.set 0 ⟨(openingTrack.stream.reply (some .io)).1, .toFiles⟩ }

/-- The next key frame gets a file. -/
def reopenedSession : Session :=
  ((unopenedSession.broadcast .video ⟨[8], 200000, true⟩).1.afterTurns 12).1

/-- When a file could not be opened, the next one can: the writer is not taken to be open. -/
theorem writer_never_misused_reopened : ∃ es,
    (assemble ⟨0, [withSound]⟩ (fun _ => .toFiles) {}).ReachingSteps es reopenedSession ∧
    (entriesOf es 0).filter (fun e => e.isFailure || e.isFileBegin)
      = [.failed .io, .event (.fileBegin ⟨[1]⟩)] ∧
    ∀ i cause, (i, .failed cause) ∈ es → cause = .io := by
  have hfalters : openingTrack.writer.Falters openingSession.disk openingSession.disk
      (.creating ⟨0, ⟨[7], 0, true⟩⟩ 0 ⟨[1]⟩) .toFiles := by
    have hwriter : openingTrack.writer = .files {} := by decide +kernel
    have hdisk : openingSession.disk = {} := by decide +kernel
    rw [hwriter, hdisk]
    exact .opening rfl Disk.sound_empty.grows_refl
  have htrack : openingSession.tracks[0]? = some openingTrack := by decide +kernel
  have hact : openingTrack.stream.activity
      = .awake true (.creating ⟨0, ⟨[7], 0, true⟩⟩ 0 ⟨[1]⟩) := by decide +kernel
  have hreach : (assemble ⟨0, [withSound]⟩ (fun _ => .toFiles) {}).ReachingSteps _
      reopenedSession :=
    .cons (.calm .start (calm_start _)) (.cons (.calm .broadcast (calm_broadcast _ _ _))
      (.cons (.calm .wake (calm_wake _ _)) ((reachingSteps_afterTurns (by decide +kernel) 4).trans
        (.cons (.reached htrack hact rfl (.faltered hfalters))
          (.cons (.calm .broadcast (calm_broadcast _ _ _))
            (reachingSteps_afterTurns (by decide +kernel) 12))))))
  obtain ⟨hio, -⟩ := writer_never_misused _ _ _ (fun _ _ => .inr rfl) hreach
  exact ⟨_, hreach, by decide +kernel, hio⟩

end Session

end CameraRecorder

import CameraRecorder.Proofs.Disk.Growth
import CameraRecorder.Proofs.Session.Runs
import CameraRecorder.Proofs.Stream.Recordings

/-!
# Calls to writers that fail half-way

A call to a writer may fail before it gets there, may be refused, or may fail at any operation on a
file that it makes. Then part of what it was to do is done, in whatever order (`Writer.Falters`);
the calls of a file writer with a fault are of this kind (`Writer.Falters.of_callOut`). Whatever
happens to a session in this way (`Session.FaultySteps`), a step either leaves the writers and the
disk alone or is about one call, of which it is known what it can have done
(`Session.FaultyStep.calm_or_answered`).
-/

namespace CameraRecorder

/-- A call for a task fails at an operation on a file. When a file was to be opened, directories and
files may have been created, but the writer is still closed; when data was to be written, any bytes
may have reached the files; when the file was to be finished, the writer is closed. In no case a
name is taken away. -/
inductive Writer.Falters (d d' : Disk) : Writer → Task → Writer → Prop
  | opening {w : FileWriter} {ticket : Ticket} {generation : Nat} {path : Path}
    (hclosed : w.files = none) (hd : d.Grows d') :
    Falters d d' (.files w) (.creating ticket generation path) (.files w)
  | writing {files files' : OpenFiles} {task : Task}
    (htask : (∃ ticket, task = .writingVideo ticket) ∨ (∃ ticket, task = .writingAudio ticket) ∨
      ∃ snapshot data next, task = .trailing snapshot data next)
    (hvideo : files'.video.file = files.video.file)
    (haudio : files'.audio.map (·.file) = files.audio.map (·.file)) (hd : d.Grows d') :
    Falters d d' (.files { files := some files }) task (.files { files := some files' })
  | finishing {files : OpenFiles} {next : Resumption} (hd : d.Grows d') :
    Falters d d' (.files { files := some files }) (.finishing next) .toFiles

theorem Task.usesDisk_of_reaches {task : Task} (h : Session.reachesWriter task = true) :
    task.usesDisk = true := by
  cases task <;> first | rfl | cases h

theorem Writer.Falters.reaches {d d' : Disk} {writer writer' : Writer} {task : Task}
    (h : writer.Falters d d' task writer') : Session.reachesWriter task = true := by
  cases h with
  | opening | finishing => rfl
  | writing htask => rcases htask with ⟨_, rfl⟩ | ⟨_, rfl⟩ | ⟨_, _, _, rfl⟩ <;> rfl

theorem Writer.Falters.grows {d d' : Disk} {writer writer' : Writer} {task : Task}
    (h : writer.Falters d d' task writer') : d.Grows d' := by
  cases h <;> assumption

/-- Only a writer of files refuses calls. -/
theorem Writer.of_onFiles {writer writer' : Writer} {d d' : Disk} {cause : WriterError}
    {call : FileWriter → Disk → FileWriter.Outcome}
    (h : writer.onFiles d call = (writer', d', some cause)) :
    ∃ w w', writer = .files w ∧ writer' = .files w' ∧ call w d = (w', d', some cause) := by
  cases writer with
  | silent => cases h
  | files w =>
    rcases hmade : call w d with ⟨w', d₁, error⟩
    rw [onFiles, hmade] at h
    cases h
    exact ⟨w, w', rfl, rfl, hmade⟩

/-- A call that was to write data falters if it keeps the files. -/
theorem Writer.Falters.of_written {w w' : FileWriter} {d d' : Disk} {task : Task}
    (htask : (∃ ticket, task = .writingVideo ticket) ∨ (∃ ticket, task = .writingAudio ticket) ∨
      ∃ snapshot data next, task = .trailing snapshot data next)
    (hopen : w.files ≠ none) (hkept : d.Grows d' ∧ w.KeepsFiles w') :
    Falters d d' (.files w) task (.files w') := by
  obtain ⟨files⟩ := w
  obtain ⟨files'⟩ := w'
  cases files with
  | none => exact absurd rfl hopen
  | some files =>
    obtain ⟨hgrows, hkept⟩ := hkept
    obtain ⟨_, rfl, hvideo, haudio⟩ := hkept files rfl
    exact .writing htask hvideo haudio hgrows

/-- **A call in which an operation on files fails falters**, whichever it is. -/
theorem Writer.Falters.of_callOut {track : Track} {task : Task} {d d' : Disk} {writer : Writer}
    {fault : Option Fault} (hd : d.Sound)
    (h : Session.callOut track task d fault = (writer, d', some .io)) :
    track.writer.Falters d d' task writer := by
  cases task with
  | creating ticket generation path =>
    simp only [Session.callOut] at h
    obtain ⟨w, w', hw, rfl, hmade⟩ := of_onFiles h
    have hgrows := (FileWriter.grows_init hd hmade).1
    have hopens := w.opens_init (track.stream.writePath path) track.stream.config.audio d fault
    rw [hmade] at hopens
    rw [hw]
    cases hopens with
    | noVideo hclosed | noSound hclosed => exact .opening hclosed hgrows
  | writingVideo ticket =>
    simp only [Session.callOut] at h
    obtain ⟨w, w', hw, rfl, hmade⟩ := of_onFiles h
    rw [hw]
    refine .of_written (.inl ⟨ticket, rfl⟩) (fun hclosed => ?_)
      (FileWriter.grows_writeVideo hd hmade)
    simp [FileWriter.writeVideo, hclosed] at hmade
  | writingAudio ticket =>
    simp only [Session.callOut] at h
    obtain ⟨w, w', hw, rfl, hmade⟩ := of_onFiles h
    rw [hw]
    refine .of_written (.inr (.inl ⟨ticket, rfl⟩)) (fun hclosed => ?_)
      (FileWriter.grows_writeAudio hd hmade)
    simp [FileWriter.writeAudio, hclosed] at hmade
  | trailing snapshot data next =>
    simp only [Session.callOut] at h
    obtain ⟨w, w', hw, rfl, hmade⟩ := of_onFiles h
    rw [hw]
    refine .of_written (.inr (.inr ⟨snapshot, data, next, rfl⟩)) (fun hclosed => ?_)
      (FileWriter.grows_writeVideo hd hmade)
    simp [FileWriter.appendTrailer, FileWriter.writeVideo, hclosed] at hmade
  | finishing next =>
    simp only [Session.callOut] at h
    obtain ⟨w, w', hw, rfl, hmade⟩ := of_onFiles h
    rw [hw]
    obtain ⟨hgrows, hclosed⟩ := FileWriter.grows_deinit hd hmade
    obtain ⟨files⟩ := w
    cases files with
    | none => simp [FileWriter.deinit] at hmade
    | some files =>
      obtain ⟨files'⟩ := w'
      cases hclosed
      exact .finishing hgrows
  | publishing next =>
    simp only [Session.callOut] at h
    split at h
    · split at h <;> cases h
    · cases h
  | _ => cases h

theorem Writer.onFiles_of_ne {writer : Writer} {d : Disk}
    {call call' : FileWriter → Disk → FileWriter.Outcome}
    (hok : (writer.onFiles d call).2.2 ≠ some .io)
    (hcall : ∀ w, (call w d).2.2 ≠ some .io → call w d = call' w d) :
    writer.onFiles d call = writer.onFiles d call' := by
  cases writer with
  | silent => rfl
  | files w => rw [onFiles, onFiles, hcall w hok]

/-- A call in which no operation on files fails is carried out in full. -/
theorem Session.callOut_of_ne {track : Track} {task : Task} {d : Disk} {fault : Option Fault}
    (hok : (callOut track task d fault).2.2 ≠ some .io) :
    callOut track task d fault = callOut track task d := by
  cases task with
  | creating =>
    simp only [callOut] at hok ⊢
    exact Writer.onFiles_of_ne hok fun _ => FileWriter.init_of_ne
  | writingVideo | trailing =>
    simp only [callOut] at hok ⊢
    exact Writer.onFiles_of_ne hok fun _ => FileWriter.writeVideo_of_ne
  | writingAudio =>
    simp only [callOut] at hok ⊢
    exact Writer.onFiles_of_ne hok fun _ => FileWriter.writeAudio_of_ne
  | finishing =>
    simp only [callOut] at hok ⊢
    exact Writer.onFiles_of_ne hok fun _ => FileWriter.deinit_of_ne
  | _ => rfl

namespace Session

variable {s s' s'' : Session} {es es' : Entries} {i : Nat}

/-- What can be done with a session when calls to writers may also fail half-way. -/
inductive FaultyStep (s : Session) : Entries → Session → Prop
  | step {es : Entries} {s' : Session} (h : s.Step es s') : FaultyStep s es s'
  | falter {i : Nat} {track : Track} {en : Bool} {task : Task} {writer : Writer} {disk : Disk}
    (hi : s.tracks[i]? = some track) (hact : track.stream.activity = .awake en task)
    (h : track.writer.Falters s.disk disk task writer) :
    FaultyStep s ((track.stream.reply (some .io)).2.map (i, ·))
      { s with disk, tracks := s.tracks.set i ⟨(track.stream.reply (some .io)).1, writer⟩ }

/-- What can be done with a session over time, when calls to writers may also fail half-way. -/
inductive FaultySteps : Session → Entries → Session → Prop
  | nil {s : Session} : FaultySteps s [] s
  | cons {s s₁ s' : Session} {es es' : Entries} (h : FaultyStep s es s₁)
    (hs : FaultySteps s₁ es' s') : FaultySteps s (es ++ es') s'

theorem Steps.faulty (h : s.Steps es s') : s.FaultySteps es s' := by
  induction h with
  | nil => exact .nil
  | cons hstep _ ih => exact .cons (.step hstep) ih

/-- **A faulty step is what comes of a call that may fail at the files.** -/
theorem FaultyStep.of_fault {track : Track} {en : Bool} {task : Task} (hd : s.disk.Sound)
    (hi : s.tracks[i]? = some track) (hact : track.stream.activity = .awake en task)
    (fault : Option Fault) :
    let outcome := callOut track task s.disk fault
    s.FaultyStep ((track.stream.reply outcome.2.2).2.map (i, ·)) { s with
      disk := outcome.2.1
      tracks := s.tracks.set i ⟨(track.stream.reply outcome.2.2).1, outcome.1⟩ } := by
  intro outcome
  by_cases hio : outcome.2.2 = some .io
  · rw [hio]
    exact .falter hi hact (.of_callOut hd (Prod.ext rfl (Prod.ext rfl hio)))
  · have hstep : s.FaultyStep (s.replyTo i false).2 (s.replyTo i false).1 := .step .reply
    rw [replyTo_eq hi hact rfl, ← callOut_of_ne hio] at hstep
    exact hstep

/-- A call for a task is answered, with an error or without: it is carried out, it fails half-way,
or it fails before it gets there. -/
inductive Called (track : Track) (task : Task) (d : Disk) :
    Writer → Disk → Option WriterError → Prop
  | carried : Called track task d (callOut track task d).1 (callOut track task d).2.1
    (callOut track task d).2.2
  | faltered {writer : Writer} {d' : Disk} (h : track.writer.Falters d d' task writer) :
    Called track task d writer d' (some .io)
  | lost (h : reachesWriter task = true) : Called track task d track.writer d (some .io)

/-- A call that is carried out on the disk is answered. -/
inductive Answered (s : Session) : Entries → Session → Prop
  | mk {i : Nat} {track : Track} {en : Bool} {task : Task} {writer : Writer} {disk : Disk}
    {error : Option WriterError} (hi : s.tracks[i]? = some track)
    (hact : track.stream.activity = .awake en task) (htask : task.usesDisk = true)
    (hcalled : Called track task s.disk writer disk error) :
    Answered s ((track.stream.reply error).2.map (i, ·))
      { s with disk, tracks := s.tracks.set i ⟨(track.stream.reply error).1, writer⟩ }

/-- **A step is calm, or a call is answered.** -/
theorem FaultyStep.calm_or_answered (h : s.FaultyStep es s') : s.Calm es s' ∨ s.Answered es s' := by
  cases h with
  | falter hi hact h => exact .inr (.mk hi hact (Task.usesDisk_of_reaches h.reaches) (.faltered h))
  | step h =>
    rcases h.calm_or_reply with hcalm | ⟨i, faulty, rfl, rfl⟩
    · exact .inl hcalm
    rcases s.calm_replyTo_or i faulty with hcalm | ⟨track, en, task, hi, hact, htask⟩
    · exact .inl hcalm
    cases hfaulty : faulty && reachesWriter task with
    | false =>
      rw [replyTo_eq hi hact hfaulty]
      exact .inr (.mk hi hact htask .carried)
    | true =>
      have hreply : s.replyTo i faulty = ({ s with
          tracks := s.tracks.set i ⟨(track.stream.reply (some .io)).1, track.writer⟩ },
          (track.stream.reply (some .io)).2.map (i, ·)) := by
        simp only [replyTo, hi, hact, Activity.task?, hfaulty, if_true, onStream, stream?,
          Option.map_some, setStream_eq hi]
      rw [hreply]
      exact .inr (.mk hi hact htask (.lost (Bool.and_eq_true_iff.mp hfaulty).2))

theorem Answered.length (h : s.Answered es s') : s'.tracks.length = s.tracks.length := by
  cases h with
  | mk => exact List.length_set ..

theorem FaultyStep.length (h : s.FaultyStep es s') : s'.tracks.length = s.tracks.length := by
  rcases h.calm_or_answered with hcalm | hanswered
  · exact hcalm.length
  · exact hanswered.length

theorem FaultySteps.trans (h : s.FaultySteps es s') (h' : s'.FaultySteps es' s'') :
    s.FaultySteps (es ++ es') s'' := by
  induction h with
  | nil => exact h'
  | cons hstep _ ih =>
    rw [List.append_assoc]
    exact .cons hstep (ih h')

/-! ## What a call does -/

section Called

variable {track : Track} {task : Task} {d d' : Disk} {writer : Writer} {error : Option WriterError}
  {en : Bool}

/-- Only the writer refuses calls. -/
theorem Called.error_eq_none (h : Called track task d writer d' error)
    (hreaches : reachesWriter task = false) : error = none := by
  cases h with
  | carried => exact callOut_error hreaches
  | faltered h => cases hreaches.symm.trans h.reaches
  | lost h => cases hreaches.symm.trans h

/-- The answer to a call is a move of the stream. -/
theorem Called.step (h : Called track task d writer d' error)
    (hact : track.stream.activity = .awake en task) :
    Stream.Step track.stream (.reply error) (track.stream.reply error).1
      (track.stream.reply error).2 := by
  rw [reply_eq_move (by rw [hact]; rfl) h.error_eq_none]
  exact Stream.step_move _ _

theorem grows_onFiles {call : FileWriter → Disk → FileWriter.Outcome} (hd : d.Sound)
    (hcall : ∀ {w w' d' error}, call w d = (w', d', error) → d.Grows d') (writer : Writer) :
    d.Grows (writer.onFiles d call).2.1 := by
  cases writer with
  | silent => exact hd.grows_refl
  | files w => exact hcall rfl

/-- Unless a file is to get its name, a call only adds to the disk. -/
theorem Called.grows (h : Called track task d writer d' error) (hd : d.Sound)
    (htask : ∀ next, task ≠ .publishing next) : d.Grows d' := by
  cases h with
  | faltered h => exact h.grows
  | lost => exact hd.grows_refl
  | carried =>
    cases task with
    | creating => exact grows_onFiles hd (fun h => (FileWriter.grows_init hd h).1) _
    | writingVideo | trailing =>
      exact grows_onFiles hd (fun h => (FileWriter.grows_writeVideo hd h).1) _
    | writingAudio => exact grows_onFiles hd (fun h => (FileWriter.grows_writeAudio hd h).1) _
    | finishing => exact grows_onFiles hd (fun h => (FileWriter.grows_deinit hd h).1) _
    | publishing next => exact absurd rfl (htask next)
    | _ => exact hd.grows_refl

theorem Called.of_publishing {next : Resumption}
    (h : Called track (.publishing next) d writer d' error) :
    writer = track.writer ∧ d' = (callOut track (.publishing next) d).2.1 ∧ error = none := by
  cases h with
  | faltered h => cases h.reaches
  | lost h => cases h
  | carried =>
    refine ⟨?_, rfl, callOut_error rfl⟩
    unfold callOut
    cases track.stream.file with
    | none => rfl
    | some file => simp only; split <;> rfl

/-- Only the first stream gives a file another name, so the calls of any other only add to the
disk. -/
theorem Called.grows_later (h : Called track task d writer d' error) (hd : d.Sound)
    (hnamed : track.stream.WritesAsNamed) (hlater : track.stream.handle.index ≠ 0) :
    d.Grows d' := by
  by_cases htask : ∃ next, task = .publishing next
  · obtain ⟨next, rfl⟩ := htask
    obtain ⟨-, rfl, -⟩ := h.of_publishing
    unfold callOut
    cases hfile : track.stream.file with
    | none => exact hd.grows_refl
    | some file =>
      have hsame : file.writePath = file.path := by
        rw [hnamed file hfile, Stream.writePath, if_neg hlater]
      simp only [hsame, ne_eq, not_true_eq_false, false_and, if_false]
      exact hd.grows_refl
  · exact h.grows hd fun next hnext => htask ⟨next, hnext⟩

/-- A disk stays a tree whatever calls do to it. -/
theorem Called.sound (h : Called track task d writer d' error) (hd : d.Sound) : d'.Sound := by
  by_cases htask : ∃ next, task = .publishing next
  · obtain ⟨next, rfl⟩ := htask
    obtain ⟨-, rfl, -⟩ := h.of_publishing
    unfold callOut
    cases track.stream.file with
    | none => exact hd
    | some file =>
      simp only
      split
      · cases hrename : d.rename? file.writePath file.path with
        | none => exact hd
        | some renamed => exact hd.rename_sound hrename
      · exact hd
  · exact (h.grows hd fun next hnext => htask ⟨next, hnext⟩).sound

/-- A writer of files stays one. -/
theorem Called.writes_files (h : Called track task d writer d' error)
    (hfiles : ∃ w, track.writer = .files w) : ∃ w, writer = .files w := by
  obtain ⟨w, hw⟩ := hfiles
  cases h with
  | lost => exact ⟨w, hw⟩
  | faltered h =>
    generalize track.writer = old at h
    cases h with
    | opening | writing | finishing => exact ⟨_, rfl⟩
  | carried =>
    cases task with
    | publishing next => exact ⟨w, (Called.of_publishing .carried).1.trans hw⟩
    | creating | writingVideo | writingAudio | trailing | finishing =>
      simp only [callOut, hw]
      exact ⟨_, rfl⟩
    | _ => exact ⟨w, hw⟩

/-- An open writer stays at its video file until it is asked to finish it. -/
theorem Called.video_file (h : Called track task d writer d' error) (hd : d.Sound)
    {files : OpenFiles} (hopen : track.writer = .files { files := some files })
    (htask : ∀ next, task ≠ .finishing next) :
    ∃ files', writer = .files { files := some files' } ∧ files'.video.file = files.video.file := by
  have hkept {w : FileWriter} (h : FileWriter.KeepsFiles { files := some files } w) :
      ∃ files', Writer.files w = .files { files := some files' } ∧
        files'.video.file = files.video.file := by
    obtain ⟨files', hfiles, hsame, -⟩ := h files rfl
    exact ⟨files', by rw [← hfiles], hsame⟩
  cases h with
  | lost => exact ⟨files, hopen, rfl⟩
  | faltered h =>
    generalize track.writer = old at h hopen
    cases h with
    | opening hclosed =>
      cases hopen
      cases hclosed
    | writing _ hvideo =>
      cases hopen
      exact ⟨_, rfl, hvideo⟩
    | finishing => exact absurd rfl (htask _)
  | carried =>
    cases task with
    | finishing next => exact absurd rfl (htask next)
    | publishing next => exact ⟨files, (Called.of_publishing .carried).1.trans hopen, rfl⟩
    | creating ticket generation path =>
      simp only [callOut, hopen]
      exact ⟨files, rfl, rfl⟩
    | writingVideo | trailing =>
      simp only [callOut, hopen]
      exact hkept (FileWriter.grows_writeVideo hd rfl).2
    | writingAudio =>
      simp only [callOut, hopen]
      exact hkept (FileWriter.grows_writeAudio hd rfl).2
    | _ => exact ⟨files, hopen, rfl⟩

end Called

end Session

end CameraRecorder

import CameraRecorder.Proofs.Stream.Run

/-!
# Streams without the names of their files

The name of a file goes through a stream, but nothing depends on it. Two streams that are the same
but for the names of their files (`Stream.nameless`) are moved in the same way, and the same is told
of them, names aside (`Stream.namelessly_move`).
-/

namespace CameraRecorder

/-- A task, whatever the name of the file it opens. -/
def Task.nameless : Task → Task
  | .creating ticket generation _ => .creating ticket generation ⟨[]⟩
  | task => task

def Activity.nameless : Activity → Activity
  | .awake enabled task => .awake enabled task.nameless
  | activity => activity

/-- An open file, whatever its names. -/
def OpenFile.nameless (f : OpenFile) : OpenFile := { f with path := ⟨[]⟩, writePath := ⟨[]⟩ }

/-- What an entry tells, whatever the names of files. A request for names tells nothing then: when
one is made depends on the names that others have taken. -/
def Entry.nameless? : Entry → Option Entry
  | .names .. => none
  | .init format _ params sound => some (.init format ⟨[]⟩ params sound)
  | .event (.fileBegin _) => some (.event (.fileBegin ⟨[]⟩))
  | .event (.fileEnd _ duration) => some (.event (.fileEnd ⟨[]⟩ duration))
  | e => some e

namespace Stream

/-- A stream, whatever the names of its files. -/
def nameless (s : Stream) : Stream :=
  { s with activity := s.activity.nameless, file := s.file.map OpenFile.nameless }

/-- A stream and what is told of it, whatever the names of its files. -/
def namelessly (r : Stream × List Entry) : Stream × List Entry :=
  (r.1.nameless, r.2.filterMap Entry.nameless?)

/-- Something done with a stream does not depend on the names of its files. -/
def Respects (act : Stream → Stream × List Entry) : Prop :=
  ∀ s, namelessly (act s) = namelessly (act s.nameless)

@[simp] theorem nameless_nameless (s : Stream) : s.nameless.nameless = s.nameless := by
  unfold nameless
  congr 1
  · cases s.activity with
    | awake enabled task => cases task <;> rfl
    | _ => rfl
  · cases s.file <;> rfl

theorem Respects.congr {act : Stream → Stream × List Entry} (h : Respects act) {s s' : Stream}
    (hs : s.nameless = s'.nameless) : namelessly (act s) = namelessly (act s') := by
  rw [h s, hs, ← h s']

/-! ## What nothing is told of -/

@[simp] theorem isInterrupted_nameless (s : Stream) :
    s.nameless.isInterrupted = s.isInterrupted := by
  unfold isInterrupted nameless
  cases s.file <;> rfl

@[simp] theorem isEnabled_nameless (s : Stream) : s.nameless.isEnabled = s.isEnabled := rfl

theorem phase_nameless (s : Stream) : s.nameless.phase = s.phase := by
  obtain ⟨_, _, _, _, _, _, _, _, _, _, activity, file, _⟩ := s
  cases activity <;> cases file <;> rfl

theorem takeFrame?_nameless (s : Stream) :
    s.nameless.takeFrame? = s.takeFrame?.map fun r => (r.1, r.2.nameless) := by
  have hvideo : s.nameless.takeVideo? = s.takeVideo?.map fun r => (r.1, r.2.nameless) := by
    show s.video.pop?.map _ = (s.video.pop?.map _).map _
    rw [Option.map_map]
    rfl
  have haudio : s.nameless.takeAudio? = s.takeAudio?.map fun r => (r.1, r.2.nameless) := by
    show (s.audio.bind Lane.pop?).map _ = ((s.audio.bind Lane.pop?).map _).map _
    rw [Option.map_map]
    rfl
  unfold takeFrame?
  rw [hvideo, haudio]
  have hvideo' : s.nameless.video = s.video := rfl
  have haudio' : s.nameless.audio = s.audio := rfl
  rw [hvideo', haudio']
  cases s.video.peek? <;> cases s.audio.bind Lane.peek? <;> try rfl
  next video audio =>
    simp only
    split <;> rfl

theorem latchThumbnail_nameless (s : Stream) :
    s.nameless.latchThumbnail = (s.latchThumbnail.1.nameless, s.latchThumbnail.2) := by
  obtain ⟨_, _, _, _, thumbnails, _, _, _, _, _, _, file, _⟩ := s
  cases file with
  | none => rfl
  | some file =>
    unfold latchThumbnail nameless
    simp only [Option.map_some, OpenFile.nameless]
    split
    · rfl
    · cases thumbnails.pop? <;> rfl

theorem collectThumbnail_nameless (s : Stream) :
    s.nameless.collectThumbnail = (s.collectThumbnail.1.nameless, s.collectThumbnail.2) := by
  unfold collectThumbnail
  rw [latchThumbnail_nameless]
  rfl

/-! ## Tasks -/

theorem respects_turnTo (enabled : Bool) (task : Task) : Respects (·.turnTo enabled task) := by
  intro ⟨_, _, _, _, _, _, _, _, _, _, _, file, _⟩
  cases file <;> cases task <;> rfl

/-- More is told before. -/
theorem namelessly_append {r r' : Stream × List Entry} (h : namelessly r = namelessly r')
    (es : List Entry) : namelessly (r.1, es ++ r.2) = namelessly (r'.1, es ++ r'.2) := by
  obtain ⟨hstream, htold⟩ := Prod.mk.inj h
  exact Prod.ext hstream (by simp only [namelessly, List.filterMap_append, htold])

theorem namelessly_idle (s : Stream) (es : List Entry) :
    namelessly (s, es) = namelessly (s.nameless, es) :=
  Prod.ext s.nameless_nameless.symm rfl

theorem respects_wake : Respects wake := by
  intro s
  have hact' : s.nameless.activity = s.activity.nameless := rfl
  cases hact : s.activity with
  | asleep =>
    rw [hact] at hact'
    simp only [wake, hact, hact', Activity.nameless, isEnabled_nameless, isInterrupted_nameless]
    exact namelessly_append (respects_turnTo _ _ s) [_]
  | awake | stopped | crashed =>
    rw [hact] at hact'
    simp only [wake, hact, hact', Activity.nameless]
    exact s.namelessly_idle []

theorem respects_finishWake (enabled : Bool) : Respects (·.finishWake enabled) := by
  intro s
  cases enabled with
  | true => exact namelessly_idle { s with activity := .asleep } []
  | false =>
    have hfile : s.nameless.file.isSome = s.file.isSome := by simp [nameless]
    simp only [finishWake, hfile]
    exact respects_turnTo _ _ s

theorem respects_takeNext (enabled : Bool) : Respects (·.takeNext enabled) := by
  intro s
  cases htake : s.takeFrame? with
  | some r =>
    simp only [takeNext, takeFrame?_nameless, htake, Option.map_some, isInterrupted_nameless]
    exact namelessly_append (respects_turnTo _ _ r.2) [_]
  | none =>
    simp only [takeNext, takeFrame?_nameless, htake, Option.map_none, collectThumbnail_nameless]
    exact namelessly_append (respects_finishWake enabled _) _

theorem respects_handlePending (enabled : Bool) (pending : Pending) :
    Respects (·.handlePending enabled pending) := by
  intro s
  have hfile' : s.nameless.file = s.file.map OpenFile.nameless := rfl
  cases hfile : s.file with
  | none =>
    rw [hfile] at hfile'
    cases pending <;> simp only [handlePending, hfile, hfile', Option.map_none] <;>
      exact respects_turnTo _ _ s
  | some file =>
    rw [hfile] at hfile'
    cases pending <;> simp only [handlePending, hfile, hfile', Option.map_some] <;>
      exact respects_turnTo _ _ s

theorem respects_tryOpen (enabled : Bool) (ticket : Ticket) :
    Respects (·.tryOpen enabled ticket) := by
  intro s
  have hdue : s.nameless.keyFrameDue ticket.frame.pts = s.keyFrameDue ticket.frame.pts := rfl
  have hstops : s.nameless.stops = s.stops := rfl
  simp only [tryOpen, isEnabled_nameless, hdue, hstops]
  split
  · exact respects_turnTo _ _ s
  · split
    · exact respects_turnTo _ _ s
    · split
      · exact respects_turnTo _ _ { s with keyFrameAskedAt := some ticket.frame.pts }
      · exact respects_turnTo _ _ s

theorem respects_collect (enabled : Bool) : Respects (·.collect enabled) := by
  intro s
  simp only [collect, collectThumbnail_nameless]
  exact namelessly_append (respects_turnTo _ _ _) _

theorem trailer?_nameless (s : Stream) : s.nameless.trailer? = s.trailer? := by
  have hkept : s.nameless.file.bind (·.thumbnail) = s.file.bind (·.thumbnail) := by
    unfold nameless
    cases s.file <;> rfl
  rw [trailer?, hkept]
  rfl

theorem respects_close (enabled : Bool) (next : Resumption) :
    Respects (·.close enabled next) := by
  intro s
  simp only [close, latchThumbnail_nameless, trailer?_nameless]
  exact namelessly_append (respects_turnTo _ _ _) _

theorem respects_retire : Respects retire := by
  intro s
  refine Prod.ext ?_ rfl
  unfold namelessly retire nameless
  cases s.file <;> cases s.shutdown <;> rfl

/-! ## Calls -/

theorem namelessly_created (s : Stream) (enabled : Bool) (ticket : Ticket) (generation : Nat)
    (path path' : Path) (isOpen : Bool) :
    namelessly (s.created enabled ticket generation path isOpen)
      = namelessly (s.nameless.created enabled ticket generation path' isOpen) := by
  cases isOpen with
  | true => exact Prod.ext rfl rfl
  | false => exact respects_turnTo _ _ s

theorem respects_videoWritten (enabled : Bool) (ticket : Ticket) (isWritten : Bool) :
    Respects (·.videoWritten enabled ticket isWritten) := by
  intro s
  have hfile' : s.nameless.file = s.file.map OpenFile.nameless := rfl
  let counted := { s with framesWritten := s.framesWritten + if isWritten then 1 else 0 }
  unfold videoWritten
  cases hfile : s.file with
  | none =>
    rw [hfile] at hfile'
    simp only [hfile, hfile', Option.map_none]
    exact respects_turnTo _ _ { counted with file := none }
  | some file =>
    rw [hfile] at hfile'
    simp only [hfile, hfile', Option.map_some]
    let shown := { file with frameCount := file.frameCount + 1, lastPts := ticket.frame.pts }
    -- a snapshot is due by the count of frames alone
    by_cases hdue : (!file.thumbnailAsked && s.policy.thumbnailDue (file.frameCount + 1)) = true
    · refine (congrArg namelessly (if_pos hdue)).trans
        (Eq.trans ?_ (congrArg namelessly (if_pos hdue)).symm)
      exact respects_turnTo _ _ { counted with file := some { shown with thumbnailAsked := true } }
    · refine (congrArg namelessly (if_neg hdue)).trans
        (Eq.trans ?_ (congrArg namelessly (if_neg hdue)).symm)
      exact respects_turnTo _ _ { counted with file := some shown }

theorem respects_resume (enabled : Bool) (next : Resumption) :
    Respects (·.resume enabled next) := by
  intro s
  exact respects_turnTo _ _ { s with file := none }

theorem respects_reply (error : Option WriterError) : Respects (·.reply error) := by
  intro s
  have hact' : s.nameless.activity = s.activity.nameless := rfl
  cases hact : s.activity with
  | asleep | stopped | crashed =>
    rw [hact] at hact'
    simp only [reply, hact, hact', Activity.nameless]
    exact s.namelessly_idle []
  | awake enabled task =>
    rw [hact] at hact'
    cases task <;> simp only [reply, hact, hact', Activity.nameless, Task.nameless]
    case creating ticket generation path =>
      exact namelessly_append (s.namelessly_created _ _ _ _ _ _) _
    case writingVideo ticket => exact namelessly_append (respects_videoWritten _ _ _ s) _
    case publishing next =>
      exact namelessly_append
        (respects_turnTo _ _ { s with filesCompleted := s.filesCompleted + 1 }) _
    case ending next => exact namelessly_append (respects_resume _ _ s) _
    case taking | handling | opening | collecting | closing | retiring | naming =>
      exact s.namelessly_idle _
    all_goals exact namelessly_append (respects_turnTo _ _ s) _

theorem respects_named (result : Except NameError Path) : Respects (·.named result) := by
  intro s
  have hact' : s.nameless.activity = s.activity.nameless := rfl
  cases hact : s.activity with
  | asleep | stopped | crashed =>
    rw [hact] at hact'
    simp only [named, hact, hact', Activity.nameless]
    exact s.namelessly_idle []
  | awake enabled task =>
    rw [hact] at hact'
    cases task <;> simp only [named, hact, hact', Activity.nameless, Task.nameless]
    case naming ticket generation => exact respects_turnTo _ _ s
    all_goals exact s.namelessly_idle []

/-- It does not matter which name a file gets. -/
theorem namelessly_named (s : Stream) (p q : Path) :
    namelessly (s.named (.ok p)) = namelessly (s.named (.ok q)) := by
  unfold named
  split
  · exact Prod.ext rfl rfl
  · rfl

/-! ## Frames -/

theorem setLane_nameless (s : Stream) (lane : Lane) (kind : LaneKind) :
    s.nameless.setLane lane kind = (s.setLane lane kind).nameless := by
  cases kind <;> rfl

/-- Whether a frame is taken, and why not, does not depend on names. -/
theorem offer_nameless (s : Stream) (kind : LaneKind) (frame : Frame) (mayDrop : Bool) :
    s.nameless.offer kind frame mayDrop
      = (s.offer kind frame mayDrop).map fun r => (r.1.nameless, r.2) := by
  have hlane' : s.nameless.lane? kind = s.lane? kind := by cases kind <;> rfl
  unfold offer
  rw [hlane', isEnabled_nameless]
  cases s.lane? kind with
  | none => rfl
  | some lane =>
    cases s.isEnabled with
    | false => rfl
    | true =>
      cases hpush : lane.push? frame with
      | some r => simp [hpush, setLane_nameless, Except.map]
      | none =>
        simp only [hpush, Bool.not_true, Bool.false_eq_true, if_false]
        by_cases hthumbnail : kind = .thumbnail
        · simp only [hthumbnail, if_true]
          rfl
        · simp only [hthumbnail, if_false]
          cases hold : (if mayDrop then lane.dropNonKey? else none) with
          | none => rfl
          | some r =>
            obtain ⟨old, left⟩ := r
            cases hagain : left.push? frame with
            | none => simp [hagain, Except.map]
            | some r' => simp [hagain, setLane_nameless, Except.map]

theorem respects_submitted (kind : LaneKind) (frame : Frame) (mayDrop : Stream → Bool)
    (hdrop : ∀ s : Stream, mayDrop s.nameless = mayDrop s) :
    Respects fun s => s.submitted (s.offer kind frame (mayDrop s)) := by
  intro s
  simp only [offer_nameless, hdrop]
  cases s.offer kind frame (mayDrop s) with
  | error cause => exact s.namelessly_idle []
  | ok r => exact r.1.namelessly_idle r.2

theorem respects_advance : Respects fun s => s.move .advance := by
  intro s
  have hact' : s.nameless.activity = s.activity.nameless := rfl
  have hidle : namelessly (s, []) = namelessly (s.nameless, []) := s.namelessly_idle []
  cases hact : s.activity with
  | asleep | stopped | crashed =>
    rw [hact] at hact'
    simpa only [move, advance?, hact, hact', Activity.nameless, Option.getD_none] using hidle
  | awake enabled task =>
    rw [hact] at hact'
    cases task <;> 
      simp only [move, advance?, hact, hact', Activity.nameless, Task.nameless, Option.getD_some,
        Option.getD_none]
    case taking => exact respects_takeNext _ s
    case handling pending => exact respects_handlePending _ _ s
    case opening ticket => exact respects_tryOpen _ _ s
    case collecting => exact respects_collect _ s
    case closing next => exact respects_close _ _ s
    case retiring => exact respects_retire s
    all_goals exact hidle

/-! ## Moves -/

theorem awaitsWriter_nameless (s : Stream) : s.nameless.awaitsWriter = s.awaitsWriter := by
  show Option.any _ s.activity.nameless.task? = Option.any _ s.activity.task?
  cases s.activity with
  | awake enabled task => cases task <;> rfl
  | _ => rfl

/-- **No move depends on the names of files.** -/
theorem respects_move (m : Move) : Respects (·.move m) := by
  intro s
  cases m with
  | start => exact namelessly_idle { s with enabled := true } _
  | stop => exact namelessly_idle { s with enabled := false, stops := s.stops + 1 } _
  | shutDown =>
    exact namelessly_idle { s with enabled := false, shutdown := true, stops := s.stops + 1 } _
  | submit kind frame =>
    exact respects_submitted kind frame (·.config.pools.dropNonKeyOnOverflow) (fun _ => rfl) s
  | retry kind frame => exact respects_submitted kind frame (fun _ => false) (fun _ => rfl) s
  | wake => exact respects_wake s
  | advance => exact respects_advance s
  | named request result => exact namelessly_append (respects_named result s) _
  | reply error =>
    simp only [move, awaitsWriter_nameless]
    exact respects_reply _ s

/-- It matters neither which name a file gets nor whether it was requested for it. -/
theorem namelessly_move_named (s : Stream) (request : Option (UInt32 × Nat)) (p : Path) :
    namelessly (s.move (.named request (.ok p)))
      = namelessly (s.move (.named none (.ok ⟨[]⟩))) := by
  obtain ⟨hstream, htold⟩ := Prod.mk.inj (s.namelessly_named p ⟨[]⟩)
  refine Prod.ext hstream ?_
  cases request with
  | none => exact htold
  | some request => exact htold

end Stream

end CameraRecorder

import CameraRecorder.Session.Basic

/-!
# Runs of one stream

A stream is moved by its session, by its producers and by its worker (`Stream.Move`). A run is any
list of moves: whatever happens between two tasks of the worker happens between two moves, so all
interleavings are runs. `Stream.Step` says once what a move can do, with one constructor for each
way; every invariant is proved from it, and nothing below it unfolds a task again.
-/

namespace CameraRecorder

/-- Whatever can happen to a stream, next to the end of its worker in the middle of a task. -/
inductive Stream.Move where
  | start
  | stop
  | shutDown
  /-- Submit a frame. -/
  | submit (kind : LaneKind) (frame : Frame)
  /-- Offer a frame again that waits for a cell. It drops no other. -/
  | retry (kind : LaneKind) (frame : Frame)
  | wake
  /-- Let the worker do the task at hand, unless it is a call. -/
  | advance
  /-- Answer a call for a name. If a batch was requested for it, `request` tells from which camera
  and for how many streams. -/
  | named (request : Option (UInt32 × Nat)) (result : Except NameError Path)
  /-- Answer any other call. Only the writer's calls can fail. -/
  | reply (error : Option WriterError)

/-- Whether a call for the task is carried out on the disk. -/
def Task.usesDisk : Task → Bool
  | publishing _ => true
  | task => Session.reachesWriter task

namespace Stream

/-- The stream after a submission, which changes nothing if the frame is refused. -/
def submitted (s : Stream) (result : Except SubmitError (Stream × List Entry)) :
    Stream × List Entry :=
  match result with
  | .ok r => r
  | .error _ => (s, [])

/-- The task that a worker waits for goes to the writer. -/
def awaitsWriter (s : Stream) : Bool := s.activity.task?.any Session.reachesWriter

/-- Whether a move ends a call that is carried out on the disk: a call to the writer, or the one
that gives the file its final name. -/
def endsDiskCall (s : Stream) : Move → Bool
  | .reply _ => s.activity.task?.any Task.usesDisk
  | _ => false

/-- The stream after a move, and what happened. -/
def move (s : Stream) : Move → Stream × List Entry
  | .start => (s.enable.1, s.enable.2 ++ [.event .streamStart])
  | .stop => (s.disable.1, s.disable.2 ++ [.event .streamStop])
  | .shutDown => s.shutDown
  | .submit kind frame => s.submitted (s.submit kind frame)
  | .retry kind frame => s.submitted (s.offer kind frame false)
  | .wake => s.wake
  | .advance => s.advance?.getD (s, [])
  | .named request result =>
    ((s.named result).1, (request.map fun r => Entry.names r.1 r.2).toList ++ (s.named result).2)
  | .reply error => s.reply (if s.awaitsWriter then error else none)

/-- The stream after a series of moves, and what happened. -/
def run (s : Stream) : List Move → Stream × List Entry
  | [] => (s, [])
  | m :: ms => (((s.move m).1.run ms).1, (s.move m).2 ++ ((s.move m).1.run ms).2)

@[simp] theorem run_nil (s : Stream) : s.run [] = (s, []) := rfl

theorem run_cons (s : Stream) (m : Move) (ms : List Move) :
    s.run (m :: ms) = (((s.move m).1.run ms).1, (s.move m).2 ++ ((s.move m).1.run ms).2) := rfl

theorem run_append (s : Stream) (ms ns : List Move) :
    s.run (ms ++ ns) = (((s.run ms).1.run ns).1, (s.run ms).2 ++ ((s.run ms).1.run ns).2) := by
  induction ms generalizing s with
  | nil => rfl
  | cons m ms ih => simp [run_cons, ih]

/-- Each entry of a run's journal was made by one of the moves. -/
theorem exists_move_of_entry {s : Stream} {ms : List Move} {e : Entry} {pre post : List Entry}
    (h : (s.run ms).2 = pre ++ e :: post) :
    ∃ ms₁ m ms₂ es₁ es₂, ms = ms₁ ++ m :: ms₂ ∧
      ((s.run ms₁).1.move m).2 = es₁ ++ e :: es₂ ∧ pre = (s.run ms₁).2 ++ es₁ ∧
      post = es₂ ++ (((s.run ms₁).1.move m).1.run ms₂).2 := by
  induction ms generalizing s pre with
  | nil =>
    have := congrArg List.length h
    simp at this
  | cons m ms ih =>
    rw [run_cons] at h
    rcases List.append_eq_append_iff.mp h with ⟨mid, rfl, hrest⟩ | ⟨mid, hes, hrest⟩
    · obtain ⟨ms₁, m', ms₂, es₁, es₂, rfl, hes, rfl, rfl⟩ := ih hrest
      exact ⟨m :: ms₁, m', ms₂, es₁, es₂, rfl, hes, by simp [run_cons], rfl⟩
    · cases mid with
      | nil =>
        -- the entry is the first of a later move
        obtain ⟨ms₁, m', ms₂, es₁, es₂, rfl, hes', hnil, rfl⟩ :=
          ih (show _ = [] ++ e :: post from hrest.symm)
        refine ⟨m :: ms₁, m', ms₂, es₁, es₂, rfl, hes', ?_, rfl⟩
        rw [List.append_nil] at hes
        rw [run_cons, List.append_assoc, ← hnil, List.append_nil, hes]
      | cons e' mid =>
        obtain ⟨rfl, rfl⟩ := List.cons.inj hrest
        exact ⟨[], m, ms, pre, mid, rfl, hes, rfl, rfl⟩

/-- What happened before an entry that is made alone was run before it, and what happened after it
is run after it. -/
theorem exists_lone_move {s : Stream} {ms : List Move} {e : Entry} {pre post : List Entry}
    (hlone : ∀ (s : Stream) (m : Move), e ∈ (s.move m).2 → (s.move m).2 = [e])
    (h : (s.run ms).2 = pre ++ e :: post) :
    ∃ ms₁ m ms₂, ms = ms₁ ++ m :: ms₂ ∧ pre = (s.run ms₁).2 ∧
      ((s.run ms₁).1.move m).2 = [e] ∧ post = (((s.run ms₁).1.move m).1.run ms₂).2 := by
  obtain ⟨ms₁, m, ms₂, es₁, es₂, rfl, hes, rfl, rfl⟩ := exists_move_of_entry h
  have hsingle := hlone _ m (by rw [hes]; simp)
  have hlength := congrArg List.length (hes.symm.trans hsingle)
  simp only [List.length_append, List.length_cons, List.length_nil] at hlength
  obtain rfl := List.length_eq_zero_iff.mp (show es₁.length = 0 by omega)
  obtain rfl := List.length_eq_zero_iff.mp (show es₂.length = 0 by omega)
  exact ⟨ms₁, m, ms₂, rfl, List.append_nil _, hsingle, rfl⟩

/-! ## Snapshots -/

end Stream

/-- Whether an entry is about a snapshot that leaves its lane. -/
def Entry.isSnapshot : Entry → Bool
  | .taken .thumbnail _ | .discarded .thumbnail _ => true
  | _ => false

theorem Entry.eq_of_isSnapshot {e : Entry} (h : e.isSnapshot = true) :
    (∃ ticket, e = .taken .thumbnail ticket) ∨ ∃ tickets, e = .discarded .thumbnail tickets := by
  unfold isSnapshot at h
  split at h
  · exact .inl ⟨_, rfl⟩
  · exact .inr ⟨_, rfl⟩
  · cases h

namespace Stream

/-- The stream with other snapshots: those that wait, and the one that the open file keeps. -/
def withSnapshots (s : Stream) (waiting : Lane) (kept : Option Ticket) : Stream :=
  { s with thumbnails := waiting, file := s.file.map fun file => { file with thumbnail := kept } }

theorem withSnapshots_self (s : Stream) :
    s.withSnapshots s.thumbnails (s.file.bind (·.thumbnail)) = s := by
  have hfile : s.file.map (fun file => { file with thumbnail := s.file.bind (·.thumbnail) })
      = s.file := by
    cases s.file <;> rfl
  unfold withSnapshots
  rw [hfile]

/-- Latching a snapshot moves nothing else. -/
theorem exists_latchThumbnail (s : Stream) :
    ∃ waiting kept, s.latchThumbnail.1 = s.withSnapshots waiting kept := by
  have hsame : ∃ waiting kept, s = s.withSnapshots waiting kept :=
    ⟨_, _, s.withSnapshots_self.symm⟩
  unfold latchThumbnail
  cases hfile : s.file with
  | none => exact hsame
  | some file =>
    by_cases hkept : file.thumbnail.isSome = true
    · simpa only [hkept, if_true] using hsame
    · cases hpop : s.thumbnails.pop? with
      | none => simpa only [hkept, Bool.false_eq_true, if_false] using hsame
      | some r => exact ⟨r.2, some r.1, by simp [hkept, withSnapshots, hfile]⟩

/-- Collecting snapshots moves nothing else. -/
theorem exists_collectThumbnail (s : Stream) :
    ∃ waiting kept, s.collectThumbnail.1 = s.withSnapshots waiting kept := by
  obtain ⟨waiting, kept, h⟩ := s.exists_latchThumbnail
  refine ⟨waiting.drain.2, kept, ?_⟩
  show { s.latchThumbnail.1 with thumbnails := s.latchThumbnail.1.thumbnails.drain.2 } = _
  rw [h]
  rfl

theorem isSnapshot_latchThumbnail (s : Stream) : ∀ e ∈ s.latchThumbnail.2, e.isSnapshot = true := by
  intro e he
  unfold latchThumbnail at he
  split at he
  · split at he
    · cases he
    · split at he
      · simp only [List.mem_singleton] at he
        subst he
        rfl
      · cases he
  · cases he

theorem isSnapshot_collectThumbnail (s : Stream) :
    ∀ e ∈ s.collectThumbnail.2, e.isSnapshot = true := by
  intro e he
  rcases List.mem_append.mp he with he | he
  · exact s.isSnapshot_latchThumbnail e he
  · rw [List.mem_singleton.mp he]
    rfl

/-! ## Taking frames -/

/-- Taking a frame changes nothing but its lane. -/
theorem takeFrame?_eq_some {s s₁ : Stream} {p : Pending} (h : s.takeFrame? = some (p, s₁)) :
    ∃ l l', s.lane? p.lane = some l ∧ s₁ = s.setLane l' p.lane := by
  have hvideo : ∀ {p s₁}, s.takeVideo? = some (p, s₁) →
      ∃ l l', s.lane? p.lane = some l ∧ s₁ = s.setLane l' p.lane := by
    intro p s₁ h
    obtain ⟨⟨t, l'⟩, -, heq⟩ := Option.map_eq_some_iff.mp h
    cases heq
    exact ⟨s.video, l', rfl, rfl⟩
  have haudio : ∀ {p s₁}, s.takeAudio? = some (p, s₁) →
      ∃ l l', s.lane? p.lane = some l ∧ s₁ = s.setLane l' p.lane := by
    intro p s₁ h
    obtain ⟨⟨t, l'⟩, hbind, heq⟩ := Option.map_eq_some_iff.mp h
    cases heq
    obtain ⟨l, hl, -⟩ := Option.bind_eq_some_iff.mp hbind
    exact ⟨l, l', hl, rfl⟩
  unfold takeFrame? at h
  split at h
  · split at h
    · exact haudio h
    · exact hvideo h
  · exact hvideo h
  · exact haudio h
  · cases h

/-! ## What a move can do -/

/-- What a move does to a stream: the state before, the move, the state after, and the entries.
Constructors are named for what happens. -/
inductive Step : Stream → Move → Stream → List Entry → Prop
  /-- Nothing happens. -/
  | idle {s m} : Step s m s []
  | start {s} : Step s .start { s with enabled := true } [.enabled, .event .streamStart]
  | stop {s} :
    Step s .stop { s with enabled := false, stops := s.stops + 1 } [.disabled, .event .streamStop]
  | shutDown {s} :
    Step s .shutDown { s with enabled := false, shutdown := true, stops := s.stops + 1 } [.shutDown]
  | accept {s m kind frame lane ticket lane'} (hm : m = .submit kind frame ∨ m = .retry kind frame)
    (hen : s.isEnabled = true) (hlane : s.lane? kind = some lane)
    (hpush : lane.push? frame = some (ticket, lane')) :
    Step s m (s.setLane lane' kind) [.accepted kind ticket]
  | displace {s kind frame lane old lane₁ ticket lane'} (hen : s.isEnabled = true)
    (hdrop : s.config.pools.dropNonKeyOnOverflow = true) (hlane : s.lane? kind = some lane)
    (hfull : lane.push? frame = none) (hold : lane.dropNonKey? = some (old, lane₁))
    (hpush : lane₁.push? frame = some (ticket, lane')) :
    Step s (.submit kind frame) (s.setLane lane' kind) [.evicted old, .accepted kind ticket]
  | wake {s} (h : s.activity = .asleep) (hi : (s.isEnabled && s.isInterrupted) = false) :
    Step s .wake { s with activity := .awake s.isEnabled .taking } [.woken s.isEnabled]
  | wakeInterrupted {s} (h : s.activity = .asleep) (hen : s.isEnabled = true)
    (hi : s.isInterrupted = true) :
    Step s .wake { s with activity := .awake true (.closing .take) } [.woken true]
  | take {s en pending s₁} (h : s.activity = .awake en .taking)
    (htake : s.takeFrame? = some (pending, s₁)) (hi : (en && s₁.isInterrupted) = false) :
    Step s .advance { s₁ with activity := .awake en (.handling pending) }
      [.taken pending.lane pending.ticket]
  | takeInterrupted {s pending s₁} (h : s.activity = .awake true .taking)
    (htake : s.takeFrame? = some (pending, s₁)) (hi : s₁.isInterrupted = true) :
    Step s .advance { s₁ with activity := .awake true (.closing (.handle pending)) }
      [.taken pending.lane pending.ticket]
  | sleep {s} (h : s.activity = .awake true .taking) (hnone : s.takeFrame? = none) :
    Step s .advance { s.collectThumbnail.1 with activity := .asleep } s.collectThumbnail.2
  | closeLast {s} (h : s.activity = .awake false .taking) (hnone : s.takeFrame? = none)
    (hfile : s.collectThumbnail.1.file.isSome = true) :
    Step s .advance { s.collectThumbnail.1 with activity := .awake false (.closing .retire) }
      s.collectThumbnail.2
  | turnIdle {s} (h : s.activity = .awake false .taking) (hnone : s.takeFrame? = none)
    (hfile : s.collectThumbnail.1.file = none) :
    Step s .advance { s.collectThumbnail.1 with activity := .awake false .retiring }
      s.collectThumbnail.2
  | split {s en ticket file} (h : s.activity = .awake en (.handling (.video ticket)))
    (hfile : s.file = some file) (hsplit : s.splits file ticket.frame = true) :
    Step s .advance { s with activity := .awake en (.closing (.reopen ticket)) } []
  | writeVideo {s en ticket file} (h : s.activity = .awake en (.handling (.video ticket)))
    (hfile : s.file = some file) (hsplit : s.splits file ticket.frame = false) :
    Step s .advance { s with activity := .awake en (.writingVideo ticket) } [.video ticket]
  | tryOpen {s en ticket} (h : s.activity = .awake en (.handling (.video ticket)))
    (hfile : s.file = none) :
    Step s .advance { s with activity := .awake en (.opening ticket) } []
  | writeAudio {s en ticket file} (h : s.activity = .awake en (.handling (.audio ticket)))
    (hfile : s.file = some file) :
    Step s .advance { s with activity := .awake en (.writingAudio ticket) } [.audio ticket]
  | loseAudio {s en ticket} (h : s.activity = .awake en (.handling (.audio ticket)))
    (hfile : s.file = none) :
    Step s .advance { s with activity := .awake en .collecting } []
  | loseDisabled {s en ticket} (h : s.activity = .awake en (.opening ticket))
    (hen : en = false ∨ s.isEnabled = false) :
    Step s .advance { s with activity := .awake en .collecting } []
  | askName {s ticket} (h : s.activity = .awake true (.opening ticket)) (hen : s.isEnabled = true)
    (hkey : ticket.frame.isKey = true) :
    Step s .advance { s with activity := .awake true (.naming ticket s.stops) } []
  | askKeyFrame {s ticket} (h : s.activity = .awake true (.opening ticket))
    (hen : s.isEnabled = true) (hkey : ticket.frame.isKey = false)
    (hdue : s.keyFrameDue ticket.frame.pts = true) :
    Step s .advance
      { s with keyFrameAskedAt := some ticket.frame.pts, activity := .awake true .askingKeyFrame }
      [.keyFrame s.handle.channelId]
  | loseNonKey {s ticket} (h : s.activity = .awake true (.opening ticket))
    (hen : s.isEnabled = true) (hkey : ticket.frame.isKey = false)
    (hdue : s.keyFrameDue ticket.frame.pts = false) :
    Step s .advance { s with activity := .awake true .collecting } []
  | collect {s en} (h : s.activity = .awake en .collecting) :
    Step s .advance { s.collectThumbnail.1 with activity := .awake en .taking } s.collectThumbnail.2
  | appendTrailer {s en next snapshot data} (h : s.activity = .awake en (.closing next))
    (htrailer : s.latchThumbnail.1.trailer? = some (snapshot, data)) :
    Step s .advance
      { s.latchThumbnail.1 with activity := .awake en (.trailing snapshot data next) }
      (s.latchThumbnail.2 ++ [.trailer snapshot data])
  | finishBare {s en next} (h : s.activity = .awake en (.closing next))
    (htrailer : s.latchThumbnail.1.trailer? = none) :
    Step s .advance { s.latchThumbnail.1 with activity := .awake en (.finishing next) }
      (s.latchThumbnail.2 ++ [.deinit])
  | retire {s en} (h : s.activity = .awake en .retiring) : Step s .advance s.retire.1 s.retire.2
  | name {s en ticket generation path request}
    (h : s.activity = .awake en (.naming ticket generation)) :
    Step s (.named request (.ok path))
      { s with activity := .awake en (.creating ticket generation path) }
      ((request.map fun r => Entry.names r.1 r.2).toList ++
        [.init s.config.format (s.writePath path) s.config.video s.config.audio])
  | nameless {s en ticket generation e request}
    (h : s.activity = .awake en (.naming ticket generation)) :
    Step s (.named request (.error e)) { s with activity := .awake en .collecting }
      (request.map fun r => Entry.names r.1 r.2).toList
  | misnamed {s request result} :
    Step s (.named request result) s (request.map fun r => Entry.names r.1 r.2).toList
  | create {s en ticket generation path error}
    (h : s.activity = .awake en (.creating ticket generation path)) (herror : error = none) :
    Step s (.reply error)
      { s with
        keyFrameAskedAt := none
        file := some {
          path
          writePath := s.writePath path
          generation
          startedAt := ticket.frame.pts
          lastPts := ticket.frame.pts }
        activity := .awake en (.beginning ticket) }
      [.event (.fileBegin path)]
  | fail {s en ticket generation path cause}
    (h : s.activity = .awake en (.creating ticket generation path)) :
    Step s (.reply (some cause)) { s with activity := .awake en .collecting } [.failed cause]
  | begin {s en ticket error} (h : s.activity = .awake en (.beginning ticket)) :
    Step s (.reply error) { s with activity := .awake en (.writingVideo ticket) } [.video ticket]
  | videoWritten {s en ticket file error} (h : s.activity = .awake en (.writingVideo ticket))
    (hfile : s.file = some file)
    (hdue : (!file.thumbnailAsked && s.policy.thumbnailDue (file.frameCount + 1)) = false) :
    Step s (.reply error)
      { s with
        framesWritten := s.framesWritten + if error.isNone then 1 else 0
        file := some { file with frameCount := file.frameCount + 1, lastPts := ticket.frame.pts }
        activity := .awake en .collecting }
      (error.map Entry.failed).toList
  | askThumbnail {s en ticket file error} (h : s.activity = .awake en (.writingVideo ticket))
    (hfile : s.file = some file)
    (hdue : (!file.thumbnailAsked && s.policy.thumbnailDue (file.frameCount + 1)) = true) :
    Step s (.reply error)
      { s with
        framesWritten := s.framesWritten + if error.isNone then 1 else 0
        file := some { file with
          frameCount := file.frameCount + 1, lastPts := ticket.frame.pts, thumbnailAsked := true }
        activity := .awake en .askingThumbnail }
      ((error.map Entry.failed).toList ++ [.thumbnail s.handle.channelId])
  | videoStray {s en ticket error} (h : s.activity = .awake en (.writingVideo ticket))
    (hfile : s.file = none) :
    Step s (.reply error)
      { s with
        framesWritten := s.framesWritten + if error.isNone then 1 else 0
        activity := .awake en .collecting }
      (error.map Entry.failed).toList
  | audioWritten {s en ticket error} (h : s.activity = .awake en (.writingAudio ticket)) :
    Step s (.reply error) { s with activity := .awake en .collecting }
      (error.map Entry.failed).toList
  | asked {s en task error} (h : s.activity = .awake en task)
    (htask : task = .askingKeyFrame ∨ task = .askingThumbnail) :
    Step s (.reply error) { s with activity := .awake en .collecting } []
  | finish {s en snapshot data next error}
    (h : s.activity = .awake en (.trailing snapshot data next)) :
    Step s (.reply error) { s with activity := .awake en (.finishing next) }
      ((error.map Entry.failed).toList ++ [.deinit])
  | publish {s en next error} (h : s.activity = .awake en (.finishing next)) :
    Step s (.reply error) { s with activity := .awake en (.publishing next) }
      (error.map Entry.failed).toList
  | tellEnd {s en next error} (h : s.activity = .awake en (.publishing next)) :
    Step s (.reply error)
      { s with filesCompleted := s.filesCompleted + 1, activity := .awake en (.ending next) }
      (s.file.map fun f => Entry.event (.fileEnd f.path (s.durationMs f))).toList
  | resume {s en next error} (h : s.activity = .awake en (.ending next)) :
    Step s (.reply error)
      { s with
        file := none
        activity := .awake en (match next with
          | .take => .taking
          | .handle pending => .handling pending
          | .reopen ticket => .opening ticket
          | .retire => .retiring) }
      []

theorem step_submit (s : Stream) (kind : LaneKind) (frame : Frame) {m : Move} {mayDrop : Bool}
    (hm : m = .submit kind frame ∧ mayDrop = s.config.pools.dropNonKeyOnOverflow
      ∨ m = .retry kind frame ∧ mayDrop = false) :
    Step s m (s.submitted (s.offer kind frame mayDrop)).1
      (s.submitted (s.offer kind frame mayDrop)).2 := by
  unfold offer
  cases hlane : s.lane? kind with
  | none => exact .idle
  | some lane =>
    by_cases hen : s.isEnabled = true
    · simp only [hen, Bool.not_true, Bool.false_eq_true, if_false]
      cases hpush : lane.push? frame with
      | some r => exact .accept (hm.imp And.left And.left) hen hlane hpush
      | none =>
        by_cases hthumb : kind = .thumbnail
        · simp only [hthumb, if_true]
          exact .idle
        · simp only [hthumb, if_false]
          rcases hm with ⟨rfl, hdrop⟩ | ⟨rfl, hdrop⟩
          · cases hd : mayDrop with
            | false => exact .idle
            | true =>
              cases hold : lane.dropNonKey? with
              | none => simp only [if_true]; exact .idle
              | some r =>
                obtain ⟨old, lane₁⟩ := r
                simp only [if_true]
                cases hpush' : lane₁.push? frame with
                | none => exact .idle
                | some r' => exact .displace hen (hdrop ▸ hd) hlane hpush hold hpush'
          · simp only [hdrop, Bool.false_eq_true, if_false]
            exact .idle
    · simp only [hen, Bool.not_false, if_true]
      exact .idle

theorem step_wake (s : Stream) : Step s .wake s.wake.1 s.wake.2 := by
  unfold wake
  cases h : s.activity with
  | asleep =>
    by_cases hi : (s.isEnabled && s.isInterrupted) = true
    · obtain ⟨hen, hint⟩ := Bool.and_eq_true_iff.mp hi
      simpa [turnTo, callEntry?, hen, hint] using Step.wakeInterrupted h hen hint
    · have hi := Bool.eq_false_iff.mpr hi
      simpa [turnTo, callEntry?, hi] using Step.wake h hi
  | awake en task => exact .idle
  | stopped => exact .idle
  | crashed => exact .idle

theorem step_takeNext {s : Stream} {en : Bool} (h : s.activity = .awake en .taking) :
    Step s .advance (s.takeNext en).1 (s.takeNext en).2 := by
  unfold takeNext
  cases htake : s.takeFrame? with
  | some r =>
    obtain ⟨pending, s₁⟩ := r
    by_cases hi : (en && s₁.isInterrupted) = true
    · -- the stop came since the file was opened
      obtain ⟨rfl, hint⟩ := Bool.and_eq_true_iff.mp hi
      simpa [turnTo, callEntry?, hint] using Step.takeInterrupted h htake hint
    · have hi := Bool.eq_false_iff.mpr hi
      simpa [turnTo, callEntry?, hi] using Step.take h htake hi
  | none =>
    cases en with
    | true => simpa [finishWake] using Step.sleep h htake
    | false =>
      cases hfile : s.collectThumbnail.1.file with
      | none => simpa [finishWake, turnTo, callEntry?, hfile] using Step.turnIdle h htake hfile
      | some file =>
        have hsome : s.collectThumbnail.1.file.isSome = true := by simp [hfile]
        simpa [finishWake, turnTo, callEntry?, hfile] using Step.closeLast h htake hsome

theorem step_handlePending {s : Stream} {en : Bool} {pending : Pending}
    (h : s.activity = .awake en (.handling pending)) :
    Step s .advance (s.handlePending en pending).1 (s.handlePending en pending).2 := by
  unfold handlePending
  cases pending with
  | video ticket =>
    cases hfile : s.file with
    | none => exact .tryOpen h hfile
    | some file =>
      by_cases hs : s.splits file ticket.frame = true
      · simpa [turnTo, callEntry?, hs] using Step.split h hfile hs
      · simpa [turnTo, callEntry?, hs] using Step.writeVideo h hfile (Bool.eq_false_iff.mpr hs)
  | audio ticket =>
    cases hfile : s.file with
    | none => exact .loseAudio h hfile
    | some file => exact .writeAudio h hfile

theorem step_tryOpen {s : Stream} {en : Bool} {ticket : Ticket}
    (h : s.activity = .awake en (.opening ticket)) :
    Step s .advance (s.tryOpen en ticket).1 (s.tryOpen en ticket).2 := by
  unfold tryOpen
  cases en with
  | false => exact .loseDisabled h (.inl rfl)
  | true =>
    by_cases hen : s.isEnabled = true
    · simp only [hen, Bool.not_true, Bool.or_self, Bool.false_eq_true, if_false]
      by_cases hkey : ticket.frame.isKey = true
      · simp only [hkey, if_true]
        exact .askName h hen hkey
      · have hkey := Bool.eq_false_iff.mpr hkey
        by_cases hdue : s.keyFrameDue ticket.frame.pts = true
        · simp only [hkey, hdue, Bool.false_eq_true, if_false, if_true]
          exact .askKeyFrame h hen hkey hdue
        · simp only [hkey, hdue, Bool.false_eq_true, if_false]
          exact .loseNonKey h hen hkey (Bool.eq_false_iff.mpr hdue)
    · have hen := Bool.eq_false_iff.mpr hen
      simp only [hen, Bool.not_true, Bool.not_false, Bool.or_true, if_true]
      exact .loseDisabled h (.inr hen)

theorem step_close {s : Stream} {en : Bool} {next : Resumption}
    (h : s.activity = .awake en (.closing next)) :
    Step s .advance (s.close en next).1 (s.close en next).2 := by
  unfold close
  cases htrailer : s.latchThumbnail.1.trailer? with
  | none => simpa [turnTo, callEntry?, htrailer] using Step.finishBare h htrailer
  | some r => simpa [turnTo, callEntry?, htrailer] using Step.appendTrailer h htrailer

theorem step_advance (s : Stream) :
    Step s .advance (s.advance?.getD (s, [])).1 (s.advance?.getD (s, [])).2 := by
  unfold advance?
  split
  · next h => exact step_takeNext h
  · next h => exact step_handlePending h
  · next h => exact step_tryOpen h
  · next h => simpa [Stream.collect, turnTo, callEntry?] using Step.collect h
  · next h => exact step_close h
  · next h => exact .retire h
  · exact .idle

theorem step_named (s : Stream) (request : Option (UInt32 × Nat)) (result : Except NameError Path) :
    Step s (.named request result) (s.named result).1
      ((request.map fun r => Entry.names r.1 r.2).toList ++ (s.named result).2) := by
  unfold named
  split
  · next h =>
    cases result with
    | ok path => exact .name h
    | error e => simpa [turnTo, callEntry?] using Step.nameless h
  · simpa using Step.misnamed

theorem step_videoWritten {s : Stream} {en : Bool} {ticket : Ticket}
    (h : s.activity = .awake en (.writingVideo ticket)) (error : Option WriterError) :
    Step s (.reply error) (s.videoWritten en ticket error.isNone).1
      ((error.map Entry.failed).toList ++ (s.videoWritten en ticket error.isNone).2) := by
  unfold videoWritten
  rcases hfile : s.file with _ | file
  · have step : Step s (.reply error) _ _ := .videoStray h hfile
    rw [hfile] at step
    simpa [turnTo, callEntry?] using step
  · by_cases hdue : (!file.thumbnailAsked && s.policy.thumbnailDue (file.frameCount + 1)) = true
    · have step : Step s (.reply error) _ _ := .askThumbnail h hfile hdue
      simp only [policy] at hdue
      simpa only [turnTo, callEntry?, policy, hdue, if_true, Option.toList_some] using step
    · have hdue := Bool.eq_false_iff.mpr hdue
      have step : Step s (.reply error) _ _ := .videoWritten h hfile hdue
      simp only [policy] at hdue
      simpa [turnTo, callEntry?, policy, hdue] using step

theorem step_reply (s : Stream) (error : Option WriterError) :
    Step s (.reply error) (s.reply (if s.awaitsWriter then error else none)).1
      (s.reply (if s.awaitsWriter then error else none)).2 := by
  unfold reply
  cases h : s.activity with
  | asleep => exact .idle
  | stopped => exact .idle
  | crashed => exact .idle
  | awake en task =>
    have hawaits : s.awaitsWriter = Session.reachesWriter task := by
      simp [awaitsWriter, h, Activity.task?]
    rw [hawaits]
    cases task with
    | taking => exact .idle
    | handling pending => exact .idle
    | opening ticket => exact .idle
    | collecting => exact .idle
    | closing next => exact .idle
    | retiring => exact .idle
    | naming ticket generation => exact .idle
    | creating ticket generation path =>
      cases error with
      | none => exact .create h rfl
      | some cause => exact .fail h
    | beginning ticket => exact .begin h
    | writingVideo ticket =>
      simp only [Session.reachesWriter, if_true]
      exact step_videoWritten h error
    | writingAudio ticket =>
      simpa [Session.reachesWriter, turnTo, callEntry?] using Step.audioWritten h
    | askingKeyFrame => exact .asked h (.inl rfl)
    | askingThumbnail => exact .asked h (.inr rfl)
    | trailing snapshot data next => exact .finish h
    | finishing next => simpa [Session.reachesWriter, turnTo, callEntry?] using Step.publish h
    | publishing next => exact .tellEnd h
    | ending next => cases next <;> exact .resume h

/-- **Every move is a step.** -/
theorem step_move (s : Stream) (m : Move) : Step s m (s.move m).1 (s.move m).2 := by
  cases m with
  | start => exact .start
  | stop => exact .stop
  | shutDown => exact .shutDown
  | submit kind frame => exact step_submit s kind frame (.inl ⟨rfl, rfl⟩)
  | retry kind frame => exact step_submit s kind frame (.inr ⟨rfl, rfl⟩)
  | wake => exact s.step_wake
  | advance => exact s.step_advance
  | named request result => exact s.step_named request result
  | reply error => exact s.step_reply error

/-! ## The entries of a move -/

section

variable {P : Entry → Prop}

/-- An entry that is only made if there is something to tell. -/
theorem forall_mem_optional {α : Type} (o : Option α) {f : α → Entry} (h : ∀ a, P (f a)) :
    ∀ e ∈ (o.map f).toList, P e := by
  intro e he
  obtain ⟨a, -, rfl⟩ := Option.map_eq_some_iff.mp (Option.mem_toList.mp he)
  exact h a

/-- Snapshots leave their lane one by one or all together. -/
theorem forall_mem_snapshots {es : List Entry} (hes : ∀ e ∈ es, e.isSnapshot = true)
    (htaken : ∀ ticket, P (.taken .thumbnail ticket))
    (hdiscarded : ∀ tickets, P (.discarded .thumbnail tickets)) : ∀ e ∈ es, P e := by
  intro e he
  rcases Entry.eq_of_isSnapshot (hes e he) with ⟨ticket, rfl⟩ | ⟨tickets, rfl⟩
  · exact htaken ticket
  · exact hdiscarded tickets

/-- At the end of a disabled wake frames are thrown out, and nothing else is told of. -/
theorem forall_mem_retire (s : Stream) (h : ∀ kind tickets, P (.discarded kind tickets)) :
    ∀ e ∈ s.retire.2, P e :=
  List.forall_mem_cons.mpr ⟨h _ _, List.forall_mem_append.mpr
    ⟨forall_mem_optional _ fun _ => h _ _, List.forall_mem_singleton.mpr (h _ _)⟩⟩

end

/-! ## Induction over runs -/

/-- What holds of a journal and a stream, and is kept by every move together with its entries, holds
after a run together with its journal. -/
theorem moves_induction {P : List Entry → Stream → Prop}
    (hmove : ∀ {journal s} m, P journal s → P (journal ++ (s.move m).2) (s.move m).1)
    {journal : List Entry} {s : Stream} (h : P journal s) (ms : List Move) :
    P (journal ++ (s.run ms).2) (s.run ms).1 := by
  induction ms generalizing journal s with
  | nil => rwa [run_nil, List.append_nil]
  | cons m ms ih =>
    have hrest := ih (hmove m h)
    rwa [List.append_assoc] at hrest

/-- The same for what is kept by every step. -/
theorem run_induction {P : List Entry → Stream → Prop}
    (hstep : ∀ {journal s m s' es}, Step s m s' es → P journal s → P (journal ++ es) s')
    {journal : List Entry} {s : Stream} (h : P journal s) (ms : List Move) :
    P (journal ++ (s.run ms).2) (s.run ms).1 :=
  moves_induction (fun m h => hstep (Stream.step_move _ m) h) h ms

/-- What holds of a stream and is kept by every move holds after a run. -/
theorem run_invariant {P : Stream → Prop} (hstep : ∀ {s m s' es}, Step s m s' es → P s → P s')
    {s : Stream} (h : P s) (ms : List Move) : P (s.run ms).1 :=
  @run_induction (fun _ s => P s) (fun hmove => hstep hmove) [] s h ms

/-! ## A stream to look at -/

/-- A stream that records files of a second. -/
def secondLong : StreamConfig where
  name := "main"
  channelId := 0
  video := ⟨.h264, 64, 32, 5, 5, 0⟩
  splitDurationSecs := 1

/-- The stream is started, and a wake opens a file with a key frame and goes back to sleep. -/
def recordedOnce : List Move :=
  [.start, .submit .video ⟨[1], 0, true⟩, .wake,
    .advance, .advance, .advance, .named none (.ok ⟨[1]⟩), .reply none, .reply none, .reply none,
    .reply none, .advance, .advance]

end Stream

end CameraRecorder

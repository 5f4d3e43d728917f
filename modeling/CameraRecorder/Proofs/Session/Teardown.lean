import CameraRecorder.Proofs.Session.Runs
import CameraRecorder.Proofs.Stream.Teardown

/-!
# The end of a session

When a session is shut down, so is each of its streams, and none is enabled again. From then on the
session refuses every frame (`Session.Refuses`), and each worker stops for good at the end of its
last wake.
-/

namespace CameraRecorder

namespace Session

variable {s s' : Session} {es es' : Entries} {i : Nat} {stream stream' : Stream}

/-! ## Every stream at once -/

theorem stream?_onStream (s : Session) (i j : Nat) (act : Stream → Stream × List Entry) :
    (s.onStream i act).1.stream? j
      = if i = j then (s.stream? j).map fun stream => (act stream).1 else s.stream? j := by
  unfold onStream
  cases hi : s.stream? i with
  | none =>
    by_cases hij : i = j
    · subst hij
      simp [hi]
    · simp [hij]
  | some stream =>
    show (s.setStream i (act stream).1).stream? j = _
    rw [stream?_setStream]
    by_cases hij : i = j
    · subst hij
      simp [hi]
    · simp [hij]

/-- Each stream does its part once. -/
theorem stream?_onStreams (s : Session) (act : Stream → Stream × List Entry) (i : Nat) :
    (s.onStreams act).1.stream? i = (s.stream? i).map fun stream => (act stream).1 := by
  have hupTo (n : Nat) : ((List.range n).foldl
      (fun (r : Session × Entries) j => ((r.1.onStream j act).1, r.2 ++ (r.1.onStream j act).2))
      (s, [])).1.stream? i
        = if i < n then (s.stream? i).map fun stream => (act stream).1 else s.stream? i := by
    induction n with
    | zero => rfl
    | succ n ih =>
      rw [List.range_succ, List.foldl_append, List.foldl_cons, List.foldl_nil, stream?_onStream, ih]
      by_cases hn : n = i
      · subst hn
        simp
      · have hiff : i < n + 1 ↔ i < n := by omega
        simp only [hn, if_false, hiff]
  rw [show (s.onStreams act).1.stream? i = _ from hupTo s.tracks.length]
  by_cases hi : i < s.tracks.length
  · rw [if_pos hi]
  · have hnone : s.stream? i = none := by
      simp [stream?, List.getElem?_eq_none (Nat.le_of_not_lt hi)]
    rw [if_neg hi, hnone]
    rfl

/-! ## Refusals -/

/-- Whatever is submitted to the session is refused, and nothing changes. -/
structure Refuses (s : Session) : Prop where
  submit : ∀ i kind frame, ∃ cause, s.submitTo i (·.submit kind frame) = .error cause
  retry : ∀ i kind frame, ∃ cause, s.submitTo i (·.offer kind frame false) = .error cause
  submitVideo : ∀ channel frame, ∃ cause, s.submitVideo channel frame = .error cause
  broadcast : ∀ kind frame, s.broadcast kind frame = (s, [], 0)

/-- A session refuses everything when all its streams are disabled. -/
theorem refuses_of_disabled
    (hs : ∀ i stream, s.stream? i = some stream → stream.isEnabled = false) : s.Refuses := by
  have hsubmitTo (i : Nat) {submit : Stream → Except SubmitError (Stream × List Entry)}
      (hrefuses : ∀ stream, stream.isEnabled = false → ∃ cause, submit stream = .error cause) :
      ∃ cause, s.submitTo i submit = .error cause := by
    unfold submitTo
    cases hi : s.stream? i with
    | none => exact ⟨_, rfl⟩
    | some stream =>
      obtain ⟨cause, hcause⟩ := hrefuses stream (hs i stream hi)
      exact ⟨cause, by simp only [hcause]; rfl⟩
  have hsubmit (i : Nat) (kind : LaneKind) (frame : Frame) :
      ∃ cause, s.submitTo i (·.submit kind frame) = .error cause :=
    hsubmitTo i fun stream hen => Stream.offer_eq_error hen kind frame _
  refine ⟨hsubmit, fun i kind frame => hsubmitTo i fun stream hen =>
    Stream.offer_eq_error hen kind frame _, fun channel frame => ?_, fun kind frame => ?_⟩
  · unfold Session.submitVideo
    cases s.indexOf? channel with
    | none => exact ⟨_, rfl⟩
    | some i => exact hsubmit i .video frame
  · unfold Session.broadcast
    refine List.foldlRecOn
      (motive := fun r : Session × Entries × Nat => r = (s, [], 0)) _ _ rfl ?_
    rintro r rfl i -
    obtain ⟨cause, hcause⟩ := hsubmit i kind frame
    simp only [hcause]

/-! ## After the shutdown -/

/-- Every stream of an assembled session is new. -/
theorem lawful_of_assemble {config : SessionConfig} {writer : StreamConfig → Writer} {disk : Disk}
    (hi : (assemble config writer disk).stream? i = some stream) :
    stream.Lawful ∧ stream.isOpen = false := by
  obtain ⟨track, htrack, rfl⟩ := Option.map_eq_some_iff.mp hi
  obtain ⟨hlt, rfl⟩ := List.getElem?_eq_some_iff.mp htrack
  simp only [assemble, List.getElem_mapIdx]
  exact ⟨Stream.lawful_create .., rfl⟩

/-- What a stream has come to some time after the shutdown. -/
theorem exists_run_of_shutDown {config : SessionConfig} {writer : StreamConfig → Writer}
    {disk : Disk} (hreach : (assemble config writer disk).Steps es s)
    (hlater : s.shutDown.1.Steps es' s') (hi : s'.stream? i = some stream) :
    stream.Lawful ∧ stream.shutdown = true ∧
      (∀ e ∈ entriesOf es' i, e.isAdmission = false) ∧
      (stream.Over → (entriesOf (es ++ s.shutDown.2 ++ es') i).countP Entry.isFileBegin
        = (entriesOf (es ++ s.shutDown.2 ++ es') i).countP Entry.isFileEnd) := by
  obtain ⟨stream₁, ms₁, hstream₁, rfl, hes'⟩ := hlater.exists_run hi
  have hshut : stream₁.shutdown = true := by
    rw [show s.shutDown.1.stream? i = _ from stream?_onStreams s _ i] at hstream₁
    obtain ⟨stream₀, -, rfl⟩ := Option.map_eq_some_iff.mp hstream₁
    rfl
  obtain ⟨first, ms, hfirst, hrun, hall⟩ :=
    ((hreach.append (.single .shutDown)).append hlater).exists_run hi
  obtain ⟨hlawful, hclosed⟩ := lawful_of_assemble hfirst
  refine ⟨hrun ▸ Stream.lawful_run hlawful ms, Stream.shutdown_run hshut ms₁, ?_, fun hover => ?_⟩
  · rw [hes']
    exact Stream.refuses_run_of_shutdown hshut ms₁
  · have hbalances := Stream.balances_run hlawful.shaped ms
    have hopen : (first.run ms).1.isOpen = false := by
      rw [← hrun, Stream.isOpen, hover.closed]
      rfl
    rw [Stream.Balances, hclosed, hopen, ← hall] at hbalances
    omega

/-- **After the shutdown a session takes nothing in, and its workers finish.** Whatever is done with
the session then, also if it is started again, every frame is refused. A worker that is not awake
sleeps, or it is done. One that sleeps does a last wake when it is woken, which comes to an end
whatever happens in it and whichever calls fail: then the worker is done, and if it had a file, that
file was finished and ended once. When a worker is done, its lanes are empty and stay so, it tells
the writer nothing more, and as many files ended as began. -/
theorem workers_finish (config : SessionConfig) (writer : StreamConfig → Writer) (disk : Disk)
    {es es₁ : Entries} {s s₁ : Session} (hreach : (assemble config writer disk).Steps es s)
    (hlater : s.shutDown.1.Steps es₁ s₁) :
    s₁.Refuses ∧ ∀ i stream, s₁.stream? i = some stream →
      (∀ e ∈ entriesOf es₁ i, e.isAdmission = false) ∧
      (stream.activity.task? = none → stream.activity = .asleep ∨ stream.Over) ∧
      (stream.Over → (entriesOf (es ++ s.shutDown.2 ++ es₁) i).countP Entry.isFileBegin
        = (entriesOf (es ++ s.shutDown.2 ++ es₁) i).countP Entry.isFileEnd) ∧
      (stream.activity = .asleep →
        let w := (stream.move .wake).1
        (∀ ms, w.turns ms ≤ w.work ∧
          ((w.run ms).1.activity = .stopped ∨ ∃ m, (w.run ms).1.isTurn m = true)) ∧
        ∀ es₂ s₂ stream₂, (s₁.wake i).1.Steps es₂ s₂ → s₂.stream? i = some stream₂ →
          stream₂.activity.task? = none → stream₂.Over ∧
            (entriesOf es₂ i).countP Entry.isDeinit = stream.file.isSome.toNat ∧
            (entriesOf es₂ i).countP Entry.isFileEnd = stream.file.isSome.toNat) := by
  refine ⟨refuses_of_disabled fun i stream hi => ?_, fun i stream hi => ?_⟩
  · exact Stream.isEnabled_of_shutdown (exists_run_of_shutDown hreach hlater hi).2.1
  obtain ⟨hlawful, hshut, hadmits, hbalance⟩ := exists_run_of_shutDown hreach hlater hi
  refine ⟨hadmits, fun hrest => ?_, hbalance, fun hasleep => ⟨fun ms => ?_, ?_⟩⟩
  · cases hact : stream.activity with
    | asleep => exact .inl rfl
    | stopped => exact .inr (hlawful.over hact)
    | crashed => exact absurd hact hlawful.not_crashed
    | awake en task =>
      rw [hact] at hrest
      cases hrest
  · obtain ⟨hturns, hgoes, -⟩ := hlawful.last_wake hasleep hshut ms
    exact ⟨hturns, hgoes⟩
  · intro es₂ s₂ stream₂ hsteps hi₂ hrest
    obtain ⟨w, ms, hw, rfl, hes₂⟩ := hsteps.exists_run hi₂
    have hwoken : w = (stream.move .wake).1 := by
      rw [show (s₁.wake i).1.stream? i = _ from s₁.stream?_onStream i i _, if_pos rfl, hi] at hw
      cases hw
      rfl
    subst hwoken
    rw [hes₂]
    exact (hlawful.last_wake hasleep hshut ms).2.2 hrest

/-! ## A session to look at -/

/-- Gives all files one name. -/
def oneName (_ : UInt32) (count : Nat) (_ : Unit) : Except NameError (List Path) × Unit :=
  (.ok (List.replicate count ⟨[1]⟩), ())

/-- Lets a worker do its task, or ends the call that it waits for. -/
def turn (s : Session) (i : Nat) : Session × Entries :=
  match s.stream? i with
  | none => (s, [])
  | some stream =>
    match stream.advance? with
    | some r => (s.setStream i r.1, r.2.map (i, ·))
    | none =>
      match stream.activity.task? with
      | some (.naming ..) =>
        let named := s.nameFile oneName i ()
        (named.1, named.2.1)
      | _ => s.replyTo i false

theorem step_turn (hi : s.stream? i = some stream) : s.Step (s.turn i).2 (s.turn i).1 := by
  unfold turn
  cases hmade : stream.advance? with
  | some r =>
    simp only [hi, hmade]
    exact .advance hi hmade
  | none =>
    simp only [hi, hmade]
    split
    · exact @Step.name s Unit oneName i ()
    · exact .reply

/-- A session after some turns of its first worker, and what happened. -/
def afterTurns (s : Session) : Nat → Session × Entries
  | 0 => (s, [])
  | n + 1 => (((s.turn 0).1.afterTurns n).1, (s.turn 0).2 ++ ((s.turn 0).1.afterTurns n).2)

theorem steps_afterTurns (hs : 0 < s.tracks.length) (n : Nat) :
    s.Steps (s.afterTurns n).2 (s.afterTurns n).1 := by
  induction n generalizing s with
  | zero => exact .nil
  | succ n ih =>
    have hfirst : s.stream? 0 = some s.tracks[0].stream := by
      simp [stream?, List.getElem?_eq_getElem hs]
    have hstep := step_turn hfirst
    exact .cons hstep (ih (by rw [hstep.length]; exact hs))

/-- The only stream of a session is started and gets a key frame. -/
def fedSession : Session :=
  ((assemble ⟨0, [Stream.secondLong]⟩ (fun _ => .silent) {}).start.1.broadcast .video
    ⟨[1], 0, true⟩).1

/-- Its worker opens a file with the frame, and sleeps again. -/
def recordingSession : Session := ((fedSession.wake 0).1.afterTurns 10).1

/-- A session is shut down while a file is open, and started again. It refuses what it is offered;
the last wake of its worker is no longer than seven turns, and the file is finished and ended in
it. -/
theorem workers_finish_recording :
    let s₁ := recordingSession.shutDown.1.start.1
    s₁.broadcast .video ⟨[2], 200000, true⟩ = (s₁, [], 0) ∧
      ∃ stream, s₁.stream? 0 = some stream ∧ stream.file.isSome = true ∧
        (∀ ms, (stream.move .wake).1.turns ms ≤ 7) ∧
        ∀ es₂ s₂ stream₂, (s₁.wake 0).1.Steps es₂ s₂ → s₂.stream? 0 = some stream₂ →
          stream₂.activity.task? = none → stream₂.Over ∧
            (entriesOf es₂ 0).countP Entry.isDeinit = 1 ∧
            (entriesOf es₂ 0).countP Entry.isFileEnd = 1 := by
  intro s₁
  have hfed : 0 < (fedSession.wake 0).1.tracks.length := by decide
  have hreach : (assemble ⟨0, [Stream.secondLong]⟩ (fun _ => .silent) {}).Steps _
      recordingSession :=
    .cons .start (.cons .broadcast (.cons .wake (steps_afterTurns hfed 10)))
  have hlater : recordingSession.shutDown.1.Steps _ s₁ := .single .start
  have hfound : (s₁.stream? 0).map (fun stream =>
      (stream.activity, stream.file.isSome, (stream.move .wake).1.work))
      = some (.asleep, true, 7) := by decide
  obtain ⟨stream, hstream, hfacts⟩ := Option.map_eq_some_iff.mp hfound
  obtain ⟨hasleep, hfile, hwork⟩ : stream.activity = .asleep ∧ stream.file.isSome = true ∧
      (stream.move .wake).1.work = 7 := by simpa using hfacts
  obtain ⟨hrefuses, hworkers⟩ := workers_finish _ _ _ hreach hlater
  obtain ⟨-, -, -, hlast⟩ := hworkers 0 stream hstream
  obtain ⟨hturns, hdone⟩ := hlast hasleep
  refine ⟨hrefuses.broadcast .video _, stream, hstream, hfile, fun ms => ?_, ?_⟩
  · exact hwork ▸ (hturns ms).1
  · rw [hfile] at hdone
    exact hdone

end Session

end CameraRecorder

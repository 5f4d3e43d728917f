import CameraRecorder.Proofs.Stream.Run

/-!
# What a session does to its streams

All that a session does to one of its streams is a run of that stream, and the entries of the
session tell what happened in it (`Session.Runs`). Unless a call ends that is carried out on the
disk, neither the writers nor the disk change (`Session.Calm`).
-/

namespace CameraRecorder

theorem Stream.run_single (s : Stream) (m : Stream.Move) : s.run [m] = s.move m := by
  simp [Stream.run_cons]

/-- Whether an entry tells that a call to the writer failed. -/
def Entry.isFailure : Entry → Bool
  | .failed _ => true
  | _ => false

/-- A stream is moved, and no call ends that is carried out on the disk. -/
inductive Stream.Calm : Stream → List Entry → Stream → Prop
  | nil {s : Stream} : Calm s [] s
  | cons {s s' : Stream} {m : Stream.Move} {es : List Entry} (hm : s.endsDiskCall m = false)
    (h : Calm (s.move m).1 es s') : Calm s ((s.move m).2 ++ es) s'

theorem Stream.Calm.single {s : Stream} {m : Stream.Move} (hm : s.endsDiskCall m = false) :
    s.Calm (s.move m).2 (s.move m).1 := by
  have h := Stream.Calm.cons hm .nil
  rwa [List.append_nil] at h

theorem Stream.Calm.trans {s s' s'' : Stream} {es es' : List Entry} (h : s.Calm es s')
    (h' : s'.Calm es' s'') : s.Calm (es ++ es') s'' := by
  induction h with
  | nil => exact h'
  | cons hm _ ih =>
    rw [List.append_assoc]
    exact .cons hm (ih h')

theorem Stream.Calm.exists_run {s s' : Stream} {es : List Entry} (h : s.Calm es s') :
    ∃ ms, s' = (s.run ms).1 ∧ es = (s.run ms).2 := by
  induction h with
  | nil => exact ⟨[], rfl, rfl⟩
  | @cons s s' m es _ _ ih =>
    obtain ⟨ms, hs', hes⟩ := ih
    exact ⟨m :: ms, hs', by rw [Stream.run_cons, ← hes]⟩

/-- A call that fails is told of when it ends. -/
theorem Stream.failed_mem_reply {s : Stream} {en : Bool} {task : Task}
    (hact : s.activity = .awake en task) (cause : WriterError) :
    .failed cause ∈ (s.reply (some cause)).2 := by
  rw [Stream.reply, hact]
  exact List.mem_append_left _ (List.mem_singleton_self _)

namespace Session

variable {s s' s'' : Session} {es es' : Entries} {i : Nat} {stream stream' : Stream}

/-- The entries of one stream. -/
def entriesOf (es : Entries) (i : Nat) : List Entry :=
  es.filterMap fun e => if e.1 = i then some e.2 else none

theorem entriesOf_append (es es' : Entries) (i : Nat) :
    entriesOf (es ++ es') i = entriesOf es i ++ entriesOf es' i :=
  List.filterMap_append

theorem entriesOf_self (es : List Entry) (i : Nat) : entriesOf (es.map (i, ·)) i = es := by
  simp only [entriesOf, List.filterMap_map, Function.comp_def, if_true, List.filterMap_some]

theorem entriesOf_other (es : List Entry) {i j : Nat} (h : i ≠ j) :
    entriesOf (es.map (i, ·)) j = [] := by
  simp [entriesOf, h]

/-- From one session to another each stream makes moves, and the entries tell what happened. -/
def Runs (s : Session) (es : Entries) (s' : Session) : Prop :=
  ∀ i stream, s.stream? i = some stream →
    ∃ ms, s'.stream? i = some (stream.run ms).1 ∧ entriesOf es i = (stream.run ms).2

theorem Runs.of_streams (h : ∀ i, s'.stream? i = s.stream? i) : s.Runs [] s' := by
  intro i stream hi
  exact ⟨[], (h i).trans hi, rfl⟩

theorem Runs.refl (s : Session) : s.Runs [] s := .of_streams fun _ => rfl

theorem Runs.trans (h : s.Runs es s') (h' : s'.Runs es' s'') : s.Runs (es ++ es') s'' := by
  intro i stream hi
  obtain ⟨ms, hs', hes⟩ := h i stream hi
  obtain ⟨ms', hs'', hes'⟩ := h' i _ hs'
  refine ⟨ms ++ ms', ?_, ?_⟩
  · rw [Stream.run_append]
    exact hs''
  · rw [Stream.run_append, entriesOf_append, hes, hes']

theorem stream?_setStream (s : Session) (i j : Nat) (stream : Stream) :
    (s.setStream i stream).stream? j =
      if i = j then (s.stream? j).map fun _ => stream else s.stream? j := by
  unfold stream? setStream
  rw [List.getElem?_modify]
  by_cases h : i = j <;> simp [h, Function.comp_def]

/-- The moves of one stream are a run of the session. -/
theorem runs_setStream (h : s.stream? i = some stream) (ms : List Stream.Move) :
    s.Runs ((stream.run ms).2.map (i, ·)) (s.setStream i (stream.run ms).1) := by
  intro j stream' hj
  rw [stream?_setStream]
  by_cases hij : i = j
  · subst hij
    cases h.symm.trans hj
    exact ⟨ms, by simp [h], entriesOf_self _ _⟩
  · exact ⟨[], by simp [hij, hj], entriesOf_other _ hij⟩

theorem runs_onStream {act : Stream → Stream × List Entry}
    (hact : ∀ stream, s.stream? i = some stream → ∃ m, act stream = stream.move m) :
    s.Runs (s.onStream i act).2 (s.onStream i act).1 := by
  unfold onStream
  cases hi : s.stream? i with
  | none => exact .refl s
  | some stream =>
    obtain ⟨m, hm⟩ := hact stream hi
    have hruns := runs_setStream hi [m]
    rw [Stream.run_single, ← hm] at hruns
    exact hruns

/-! ## Moves apart from the disk -/

/-- From one session to another streams are moved, and nothing else is: no writer, and not the
disk. -/
structure Calm (s : Session) (es : Entries) (s' : Session) : Prop where
  disk : s'.disk = s.disk
  length : s'.tracks.length = s.tracks.length
  tracks : ∀ i (track : Track), s.tracks[i]? = some track →
    ∃ stream, track.stream.Calm (entriesOf es i) stream ∧ s'.tracks[i]? = some { track with stream }

theorem Calm.refl (s : Session) : s.Calm [] s :=
  ⟨rfl, rfl, fun _ track h => ⟨track.stream, .nil, h⟩⟩

theorem Calm.trans (h : s.Calm es s') (h' : s'.Calm es' s'') : s.Calm (es ++ es') s'' where
  disk := h'.disk.trans h.disk
  length := h'.length.trans h.length
  tracks i track hi := by
    obtain ⟨stream, hcalm, hi'⟩ := h.tracks i track hi
    obtain ⟨stream', hcalm', hi''⟩ := h'.tracks i _ hi'
    refine ⟨stream', ?_, hi''⟩
    rw [entriesOf_append]
    exact hcalm.trans hcalm'

theorem Calm.runs (h : s.Calm es s') : s.Runs es s' := by
  intro i stream hi
  obtain ⟨track, htrack, rfl⟩ := Option.map_eq_some_iff.mp hi
  obtain ⟨stream', hcalm, htrack'⟩ := h.tracks i track htrack
  obtain ⟨ms, rfl, hes⟩ := hcalm.exists_run
  exact ⟨ms, by rw [stream?, htrack']; rfl, hes⟩

theorem calm_setStream (h : s.stream? i = some stream) {m : Stream.Move}
    (hm : stream.endsDiskCall m = false) :
    s.Calm ((stream.move m).2.map (i, ·)) (s.setStream i (stream.move m).1) := by
  refine ⟨rfl, by simp [setStream], fun j track hj => ?_⟩
  have hmodify : (s.setStream i (stream.move m).1).tracks[j]?
      = (fun track : Track =>
          if i = j then { track with stream := (stream.move m).1 } else track) <$> s.tracks[j]? :=
    List.getElem?_modify ..
  rw [hmodify, hj]
  by_cases hij : i = j
  · subst hij
    rw [stream?, hj] at h
    cases h
    rw [entriesOf_self]
    exact ⟨_, .single hm, by simp⟩
  · rw [entriesOf_other _ hij]
    exact ⟨track.stream, .nil, by simp [hij]⟩

theorem calm_onStream {act : Stream → Stream × List Entry}
    (hact : ∀ stream, s.stream? i = some stream →
      ∃ m, stream.endsDiskCall m = false ∧ act stream = stream.move m) :
    s.Calm (s.onStream i act).2 (s.onStream i act).1 := by
  unfold onStream
  cases hi : s.stream? i with
  | none => exact .refl s
  | some stream =>
    obtain ⟨m, hcalm, hm⟩ := hact stream hi
    simp only [hm]
    exact calm_setStream hi hcalm

theorem calm_onStreams {act : Stream → Stream × List Entry}
    (hact : ∀ stream, ∃ m, stream.endsDiskCall m = false ∧ act stream = stream.move m) :
    s.Calm (s.onStreams act).2 (s.onStreams act).1 := by
  unfold onStreams
  refine List.foldlRecOn (motive := fun r : Session × Entries => s.Calm r.2 r.1) _ _ (.refl s) ?_
  rintro ⟨s₁, es⟩ h i -
  exact h.trans (calm_onStream fun stream _ => hact stream)

theorem calm_start (s : Session) : s.Calm s.start.2 s.start.1 :=
  calm_onStreams fun _ => ⟨.start, rfl, rfl⟩

theorem calm_stop (s : Session) : s.Calm s.stop.2 s.stop.1 :=
  calm_onStreams fun _ => ⟨.stop, rfl, rfl⟩

theorem calm_shutDown (s : Session) : s.Calm s.shutDown.2 s.shutDown.1 :=
  calm_onStreams fun _ => ⟨.shutDown, rfl, rfl⟩

theorem calm_wake (s : Session) (i : Nat) : s.Calm (s.wake i).2 (s.wake i).1 :=
  calm_onStream fun _ _ => ⟨.wake, rfl, rfl⟩

theorem calm_submitTo {submit : Stream → Except SubmitError (Stream × List Entry)}
    (hsubmit : ∀ stream r, submit stream = .ok r →
      ∃ m, stream.endsDiskCall m = false ∧ r = stream.move m)
    {r : Session × Entries} (h : s.submitTo i submit = .ok r) : s.Calm r.2 r.1 := by
  unfold submitTo at h
  cases hi : s.stream? i with
  | none =>
    rw [hi] at h
    cases h
  | some stream =>
    cases hr : submit stream with
    | error cause =>
      simp only [hi, hr] at h
      cases h
    | ok made =>
      simp only [hi, hr] at h
      obtain ⟨m, hm, rfl⟩ := hsubmit stream made hr
      cases h
      exact calm_setStream hi hm

theorem calm_submit {kind : LaneKind} {frame : Frame} {r : Session × Entries}
    (h : s.submitTo i (·.submit kind frame) = .ok r) : s.Calm r.2 r.1 := by
  refine calm_submitTo (fun stream r hr => ⟨.submit kind frame, rfl, ?_⟩) h
  rw [Stream.move, hr]
  rfl

theorem calm_retry {kind : LaneKind} {frame : Frame} {r : Session × Entries}
    (h : s.submitTo i (·.offer kind frame false) = .ok r) : s.Calm r.2 r.1 := by
  refine calm_submitTo (fun stream r hr => ⟨.retry kind frame, rfl, ?_⟩) h
  rw [Stream.move, hr]
  rfl

theorem calm_submitVideo {channel : UInt32} {frame : Frame} {r : Session × Entries}
    (h : s.submitVideo channel frame = .ok r) : s.Calm r.2 r.1 := by
  unfold submitVideo at h
  cases hi : s.indexOf? channel with
  | none =>
    rw [hi] at h
    cases h
  | some i =>
    rw [hi] at h
    exact calm_submit h

theorem calm_broadcast (s : Session) (kind : LaneKind) (frame : Frame) :
    s.Calm (s.broadcast kind frame).2.1 (s.broadcast kind frame).1 := by
  unfold broadcast
  refine List.foldlRecOn (motive := fun r : Session × Entries × Nat => s.Calm r.2.1 r.1) _ _
    (.refl s) ?_
  rintro ⟨s₁, es, count⟩ h i -
  cases hsubmit : s₁.submitTo i (·.submit kind frame) with
  | ok r =>
    simp only [hsubmit]
    exact h.trans (calm_submit hsubmit)
  | error cause =>
    simp only [hsubmit]
    exact h

/-- A call for a name is answered, after a batch was requested if none was left. -/
theorem calm_nameFile {σ : Type} (request : UInt32 → Nat → σ → Except NameError (List Path) × σ)
    (s : Session) (i : Nat) (source : σ) :
    s.Calm (s.nameFile request i source).2.1 (s.nameFile request i source).1 := by
  unfold nameFile
  let asked :=
    if (s.names.take? i).isSome then none else some (s.names.cameraId, s.names.slots.length)
  have hasked : (if (s.names.take? i).isSome then []
      else [(i, Entry.names s.names.cameraId s.names.slots.length)])
      = (asked.map fun r => Entry.names r.1 r.2).toList.map (i, ·) := by
    by_cases h : (s.names.take? i).isSome = true <;> simp [asked, h]
  simp only [hasked, onStream]
  cases hi : s.stream? i with
  | none =>
    -- nobody is there to be named a file, so the request is no stream's
    have hi' : ({ s with names := (s.names.next request i source).2.1 } : Session).stream? i
        = none := hi
    simp only [hi', List.append_nil]
    refine ⟨rfl, rfl, fun j track hj => ⟨track.stream, ?_, hj⟩⟩
    have hij : i ≠ j := by
      rintro rfl
      simp [stream?, hj] at hi
    rw [entriesOf_other _ hij]
    exact .nil
  | some stream =>
    have hi' : ({ s with names := (s.names.next request i source).2.1 } : Session).stream? i
        = some stream := hi
    simp only [hi', ← List.map_append]
    have hcalm := calm_setStream hi (m := .named asked (s.names.next request i source).1) rfl
    exact ⟨hcalm.disk, hcalm.length, hcalm.tracks⟩

theorem runs_start (s : Session) : s.Runs s.start.2 s.start.1 := s.calm_start.runs

theorem runs_stop (s : Session) : s.Runs s.stop.2 s.stop.1 := s.calm_stop.runs

theorem runs_shutDown (s : Session) : s.Runs s.shutDown.2 s.shutDown.1 := s.calm_shutDown.runs

theorem runs_wake (s : Session) (i : Nat) : s.Runs (s.wake i).2 (s.wake i).1 := (s.calm_wake i).runs

theorem runs_submit {kind : LaneKind} {frame : Frame} {r : Session × Entries}
    (h : s.submitTo i (·.submit kind frame) = .ok r) : s.Runs r.2 r.1 := (calm_submit h).runs

theorem runs_retry {kind : LaneKind} {frame : Frame} {r : Session × Entries}
    (h : s.submitTo i (·.offer kind frame false) = .ok r) : s.Runs r.2 r.1 := (calm_retry h).runs

theorem runs_submitVideo {channel : UInt32} {frame : Frame} {r : Session × Entries}
    (h : s.submitVideo channel frame = .ok r) : s.Runs r.2 r.1 := (calm_submitVideo h).runs

theorem runs_broadcast (s : Session) (kind : LaneKind) (frame : Frame) :
    s.Runs (s.broadcast kind frame).2.1 (s.broadcast kind frame).1 :=
  (s.calm_broadcast kind frame).runs

theorem runs_nameFile {σ : Type} (request : UInt32 → Nat → σ → Except NameError (List Path) × σ)
    (s : Session) (i : Nat) (source : σ) :
    s.Runs (s.nameFile request i source).2.1 (s.nameFile request i source).1 :=
  (calm_nameFile request s i source).runs

/-! ## Replies -/

theorem callOut_error {track : Track} {task : Task} {disk : Disk} (h : reachesWriter task = false) :
    (callOut track task disk).2.2 = none := by
  cases task with
  | creating | writingVideo | writingAudio | trailing | finishing => cases h
  | publishing next =>
    unfold callOut
    cases track.stream.file with
    | none => rfl
    | some file => simp only; split <;> rfl
  | _ => rfl

/-- Only the writer can refuse a call. -/
theorem reply_eq_move {task : Task} (htask : stream.activity.task? = some task)
    {error : Option WriterError} (herror : reachesWriter task = false → error = none) :
    stream.reply error = stream.move (.reply error) := by
  have hawaits : stream.awaitsWriter = reachesWriter task := by
    rw [Stream.awaitsWriter, htask]
    rfl
  rw [Stream.move, hawaits]
  cases h : reachesWriter task with
  | true => rfl
  | false => rw [herror h]; rfl

theorem runs_replyTo (s : Session) (i : Nat) (faulty : Bool) :
    s.Runs (s.replyTo i faulty).2 (s.replyTo i faulty).1 := by
  unfold replyTo
  cases hi : s.tracks[i]? with
  | none => exact .refl s
  | some track =>
    have hstream : s.stream? i = some track.stream := by simp [stream?, hi]
    cases htask : track.stream.activity.task? with
    | none =>
      simp only [htask]
      exact .refl s
    | some task =>
      simp only [htask]
      by_cases hfaulty : (faulty && reachesWriter task) = true
      · rw [if_pos hfaulty]
        refine runs_onStream fun stream h => ⟨.reply (some .io), ?_⟩
        cases hstream.symm.trans h
        refine reply_eq_move htask fun hreaches => ?_
        simp [hreaches] at hfaulty
      · rw [if_neg hfaulty]
        -- the writer and the disk change first, and no stream does
        let outcome := callOut track task s.disk
        let s₁ : Session := { s with
          disk := outcome.2.1
          tracks := s.tracks.modify i fun track => { track with writer := outcome.1 } }
        have hstreams : ∀ j, s₁.stream? j = s.stream? j := by
          intro j
          simp only [s₁, stream?, List.getElem?_modify]
          by_cases hij : i = j <;> simp [hij, Function.comp_def]
        have hreply : s₁.Runs (s₁.onStream i (·.reply outcome.2.2)).2
            (s₁.onStream i (·.reply outcome.2.2)).1 := by
          refine runs_onStream fun stream h => ⟨.reply outcome.2.2, ?_⟩
          rw [hstreams, hstream] at h
          cases h
          exact reply_eq_move htask fun hreaches => callOut_error hreaches
        exact (Runs.of_streams hstreams).trans hreply

/-! ## Steps -/

/-- What can be done with a session, whoever does it: the application, producers, a worker at its
task, and whoever ends a call. Any call to a writer may fail; every call ends. -/
inductive Step (s : Session) : Entries → Session → Prop
  | start : Step s s.start.2 s.start.1
  | stop : Step s s.stop.2 s.stop.1
  | shutDown : Step s s.shutDown.2 s.shutDown.1
  | submitVideo {channel frame r} (h : s.submitVideo channel frame = .ok r) : Step s r.2 r.1
  | submit {i : Nat} {kind frame r} (h : s.submitTo i (·.submit kind frame) = .ok r) :
    Step s r.2 r.1
  | retry {i : Nat} {kind frame r} (h : s.submitTo i (·.offer kind frame false) = .ok r) :
    Step s r.2 r.1
  | broadcast {kind frame} : Step s (s.broadcast kind frame).2.1 (s.broadcast kind frame).1
  | wake {i : Nat} : Step s (s.wake i).2 (s.wake i).1
  | advance {i : Nat} {stream : Stream} {r} (hi : s.stream? i = some stream)
    (h : stream.advance? = some r) : Step s (r.2.map (i, ·)) (s.setStream i r.1)
  | name {σ : Type} {request : UInt32 → Nat → σ → Except NameError (List Path) × σ} {i : Nat}
    {source} : Step s (s.nameFile request i source).2.1 (s.nameFile request i source).1
  | reply {i : Nat} {faulty} : Step s (s.replyTo i faulty).2 (s.replyTo i faulty).1

/-- What can be done with a session over time. -/
inductive Steps : Session → Entries → Session → Prop
  | nil {s : Session} : Steps s [] s
  | cons {s s₁ s' : Session} {es es' : Entries} (h : Step s es s₁) (hs : Steps s₁ es' s') :
    Steps s (es ++ es') s'

theorem Steps.single (h : s.Step es s') : s.Steps es s' := by
  have hsteps := Steps.cons h .nil
  rwa [List.append_nil] at hsteps

theorem Steps.append (h : s.Steps es s') (h' : s'.Steps es' s'') : s.Steps (es ++ es') s'' := by
  induction h with
  | nil => exact h'
  | cons hstep _ ih =>
    rw [List.append_assoc]
    exact .cons hstep (ih h')

theorem Step.runs (h : s.Step es s') : s.Runs es s' := by
  cases h with
  | start => exact s.runs_start
  | stop => exact s.runs_stop
  | shutDown => exact s.runs_shutDown
  | submitVideo h => exact runs_submitVideo h
  | submit h => exact runs_submit h
  | retry h => exact runs_retry h
  | broadcast => exact s.runs_broadcast _ _
  | wake => exact s.runs_wake _
  | @advance i stream r hi h =>
    have hruns := runs_setStream hi [.advance]
    have hmove : stream.move .advance = r := by
      rw [Stream.move, h]
      rfl
    rw [Stream.run_single, hmove] at hruns
    exact hruns
  | name => exact runs_nameFile _ s _ _
  | reply => exact s.runs_replyTo _ _

theorem Steps.runs (h : s.Steps es s') : s.Runs es s' := by
  induction h with
  | nil => exact .refl _
  | cons hstep _ ih => exact hstep.runs.trans ih

/-! ## Calls that are carried out on the disk -/

/-- A call of a worker is carried out on the disk, and succeeds. -/
inductive Served (s : Session) : Entries → Session → Prop
  | mk {i : Nat} {track : Track} {en : Bool} {task : Task} {writer : Writer} {disk : Disk}
    (hi : s.tracks[i]? = some track) (hact : track.stream.activity = .awake en task)
    (htask : task.usesDisk = true) (hcall : callOut track task s.disk = (writer, disk, none)) :
    Served s ((track.stream.reply none).2.map (i, ·))
      { s with disk, tracks := s.tracks.set i ⟨(track.stream.reply none).1, writer⟩ }

/-- A call for another task changes neither the writer nor the disk. -/
theorem callOut_calm {track : Track} {task : Task} (h : task.usesDisk = false) (disk : Disk) :
    callOut track task disk = (track.writer, disk, none) := by
  cases task with
  | creating | writingVideo | writingAudio | trailing | finishing | publishing => cases h
  | _ => rfl

theorem modify_eq_set {α : Type} {l : List α} {i : Nat} {a : α} (hi : l[i]? = some a) (f : α → α) :
    l.modify i f = l.set i (f a) := by
  obtain ⟨hlt, rfl⟩ := List.getElem?_eq_some_iff.mp hi
  refine List.ext_getElem? fun j => ?_
  rw [List.getElem?_modify, List.getElem?_set]
  by_cases hij : i = j
  · subst hij
    simp [hlt]
  · simp [hij]

theorem setStream_eq {track : Track} (hi : s.tracks[i]? = some track) (stream : Stream) :
    s.setStream i stream = { s with tracks := s.tracks.set i { track with stream } } := by
  rw [setStream, modify_eq_set hi]

/-- A reply that is not about a fault leads where the call has led. -/
theorem replyTo_eq {track : Track} {en : Bool} {task : Task} (hi : s.tracks[i]? = some track)
    (hact : track.stream.activity = .awake en task) {faulty : Bool}
    (hfaulty : (faulty && reachesWriter task) = false) :
    let outcome := callOut track task s.disk
    s.replyTo i faulty = ({ s with
        disk := outcome.2.1
        tracks := s.tracks.set i ⟨(track.stream.reply outcome.2.2).1, outcome.1⟩ },
      (track.stream.reply outcome.2.2).2.map (i, ·)) := by
  have hlt := (List.getElem?_eq_some_iff.mp hi).1
  have htask : track.stream.activity.task? = some task := by
    rw [hact]
    rfl
  unfold replyTo
  simp only [hi, htask, hfaulty, Bool.false_eq_true, if_false, modify_eq_set hi]
  generalize callOut track task s.disk = outcome
  have htrack : (s.tracks.set i { track with writer := outcome.1 })[i]?
      = some { track with writer := outcome.1 } := by
    simp [hlt]
  simp only [onStream, stream?, htrack, Option.map_some, setStream, modify_eq_set htrack,
    List.set_set]

/-- The end of a call that is not carried out on the disk. -/
theorem calm_replyTo {track : Track} {en : Bool} {task : Task} (hi : s.tracks[i]? = some track)
    (hact : track.stream.activity = .awake en task) (htask : task.usesDisk = false)
    (faulty : Bool) : s.Calm (s.replyTo i faulty).2 (s.replyTo i faulty).1 := by
  have hreaches : reachesWriter task = false := by
    cases task <;> first | rfl | cases htask
  have hmove : track.stream.reply none = track.stream.move (.reply none) :=
    reply_eq_move (by rw [hact]; rfl) fun _ => rfl
  have hends : track.stream.endsDiskCall (.reply none) = false := by
    rw [Stream.endsDiskCall, hact]
    exact htask
  have hcalm := calm_setStream (i := i) (by rw [stream?, hi]; rfl) hends
  rw [setStream_eq hi] at hcalm
  rw [replyTo_eq hi hact (by simp [hreaches]), callOut_calm htask, hmove]
  exact hcalm

/-- The end of a call changes neither writers nor the disk, unless the call is one that is carried
out on the disk. -/
theorem calm_replyTo_or (s : Session) (i : Nat) (faulty : Bool) :
    s.Calm (s.replyTo i faulty).2 (s.replyTo i faulty).1 ∨
      ∃ track en task, s.tracks[i]? = some track ∧ track.stream.activity = .awake en task ∧
        task.usesDisk = true := by
  have hquiet (h : s.replyTo i faulty = (s, [])) :
      s.Calm (s.replyTo i faulty).2 (s.replyTo i faulty).1 := by
    rw [h]
    exact .refl s
  cases hi : s.tracks[i]? with
  | none => exact .inl (hquiet (by simp [replyTo, hi]))
  | some track =>
    cases hact : track.stream.activity with
    | asleep | stopped | crashed =>
      exact .inl (hquiet (by simp [replyTo, hi, hact, Activity.task?]))
    | awake en task =>
      cases htask : task.usesDisk with
      | false => exact .inl (calm_replyTo hi hact htask faulty)
      | true => exact .inr ⟨track, en, task, rfl, hact, htask⟩

/-- A step is calm, or it ends a call. -/
theorem Step.calm_or_reply (h : s.Step es s') :
    s.Calm es s' ∨ ∃ i faulty, es = (s.replyTo i faulty).2 ∧ s' = (s.replyTo i faulty).1 := by
  cases h with
  | start => exact .inl s.calm_start
  | stop => exact .inl s.calm_stop
  | shutDown => exact .inl s.calm_shutDown
  | submitVideo h => exact .inl (calm_submitVideo h)
  | submit h => exact .inl (calm_submit h)
  | retry h => exact .inl (calm_retry h)
  | broadcast => exact .inl (s.calm_broadcast _ _)
  | wake => exact .inl (s.calm_wake _)
  | @advance i stream r hi h =>
    have hmove : stream.move .advance = r := by
      rw [Stream.move, h]
      rfl
    rw [← hmove]
    exact .inl (calm_setStream hi rfl)
  | name => exact .inl (calm_nameFile _ s _ _)
  | @reply i faulty => exact .inr ⟨i, faulty, rfl, rfl⟩

/-- **A step is calm, or a call is served.** When nothing fails, a step of a session either changes
neither writers nor the disk, or it carries one call out. -/
theorem Step.calm_or_served (h : s.Step es s') (hsucceeds : ∀ e ∈ es, e.2.isFailure = false) :
    s.Calm es s' ∨ s.Served es s' := by
  rcases h.calm_or_reply with hcalm | ⟨i, faulty, rfl, rfl⟩
  · exact .inl hcalm
  rcases s.calm_replyTo_or i faulty with hcalm | ⟨track, en, task, hi, hact, htask⟩
  · exact .inl hcalm
  cases hfaulty : faulty && reachesWriter task with
  | true =>
    -- the fault is told of
    have hfailed : (i, Entry.failed .io) ∈ (s.replyTo i faulty).2 := by
      simp only [replyTo, hi, hact, Activity.task?, hfaulty, if_true, onStream, stream?,
        Option.map_some]
      exact List.mem_map_of_mem (Stream.failed_mem_reply hact _)
    cases hsucceeds _ hfailed
  | false =>
    have hmade := replyTo_eq hi hact hfaulty
    rw [hmade] at hsucceeds ⊢
    cases hcall : callOut track task s.disk with
    | mk writer outcome =>
      obtain ⟨disk, error⟩ := outcome
      cases error with
      | some cause =>
        rw [hcall] at hsucceeds
        cases hsucceeds _ (List.mem_map_of_mem (Stream.failed_mem_reply hact cause))
      | none => exact .inr (.mk hi hact htask hcall)

/-! ## The number of streams -/

theorem length_setStream (s : Session) (i : Nat) (stream : Stream) :
    (s.setStream i stream).tracks.length = s.tracks.length := by
  simp [setStream]

theorem length_onStream (s : Session) (i : Nat) (act : Stream → Stream × List Entry) :
    (s.onStream i act).1.tracks.length = s.tracks.length := by
  unfold onStream
  cases s.stream? i with
  | none => rfl
  | some stream => exact s.length_setStream i _

theorem length_onStreams (s : Session) (act : Stream → Stream × List Entry) :
    (s.onStreams act).1.tracks.length = s.tracks.length := by
  unfold onStreams
  refine List.foldlRecOn
    (motive := fun r : Session × Entries => r.1.tracks.length = s.tracks.length) _ _ rfl ?_
  rintro ⟨s₁, es⟩ h i -
  exact (s₁.length_onStream i act).trans h

theorem length_submitTo {submit : Stream → Except SubmitError (Stream × List Entry)}
    {r : Session × Entries} (h : s.submitTo i submit = .ok r) :
    r.1.tracks.length = s.tracks.length := by
  unfold submitTo at h
  cases hi : s.stream? i with
  | none =>
    rw [hi] at h
    cases h
  | some stream =>
    cases hr : submit stream with
    | error cause =>
      simp only [hi, hr] at h
      cases h
    | ok made =>
      simp only [hi, hr] at h
      cases h
      exact s.length_setStream i _

theorem length_broadcast (s : Session) (kind : LaneKind) (frame : Frame) :
    (s.broadcast kind frame).1.tracks.length = s.tracks.length := by
  unfold broadcast
  refine List.foldlRecOn
    (motive := fun r : Session × Entries × Nat => r.1.tracks.length = s.tracks.length) _ _ rfl ?_
  rintro ⟨s₁, es, count⟩ h i -
  cases hsubmit : s₁.submitTo i (·.submit kind frame) with
  | ok r =>
    simp only [hsubmit]
    exact (length_submitTo hsubmit).trans h
  | error cause =>
    simp only [hsubmit]
    exact h

theorem length_replyTo (s : Session) (i : Nat) (faulty : Bool) :
    (s.replyTo i faulty).1.tracks.length = s.tracks.length := by
  unfold replyTo
  cases s.tracks[i]? with
  | none => rfl
  | some track =>
    cases htask : track.stream.activity.task? with
    | none => simp only [htask]
    | some task =>
      simp only [htask]
      by_cases hfaulty : (faulty && reachesWriter task) = true
      · rw [if_pos hfaulty]
        exact s.length_onStream i _
      · rw [if_neg hfaulty]
        exact (length_onStream _ i _).trans (by simp)

/-- No stream joins a session, and none leaves it. -/
theorem Step.length (h : s.Step es s') : s'.tracks.length = s.tracks.length := by
  cases h with
  | start => exact s.length_onStreams _
  | stop => exact s.length_onStreams _
  | shutDown => exact s.length_onStreams _
  | @submitVideo channel frame _ h =>
    unfold Session.submitVideo at h
    cases hi : s.indexOf? channel with
    | none =>
      rw [hi] at h
      cases h
    | some i =>
      rw [hi] at h
      exact length_submitTo h
  | submit h => exact length_submitTo h
  | retry h => exact length_submitTo h
  | broadcast => exact s.length_broadcast _ _
  | wake => exact s.length_onStream _ _
  | advance => exact s.length_setStream _ _
  | name => exact length_onStream _ _ _
  | reply => exact s.length_replyTo _ _

theorem Steps.length (h : s.Steps es s') : s'.tracks.length = s.tracks.length := by
  induction h with
  | nil => rfl
  | cons hstep _ ih => exact ih.trans hstep.length

/-- Whatever a stream has become, it has been a stream of the session from the start. -/
theorem Steps.exists_run (h : s.Steps es s') (hi : s'.stream? i = some stream') :
    ∃ stream ms, s.stream? i = some stream ∧ stream' = (stream.run ms).1 ∧
      entriesOf es i = (stream.run ms).2 := by
  have hsome : ∃ stream, s.stream? i = some stream := by
    obtain ⟨track, htrack, -⟩ := Option.map_eq_some_iff.mp hi
    have hlt := (List.getElem?_eq_some_iff.mp htrack).1
    rw [h.length] at hlt
    exact ⟨_, by simp [stream?, List.getElem?_eq_getElem hlt]; rfl⟩
  obtain ⟨stream, hstream⟩ := hsome
  obtain ⟨ms, hs', hes⟩ := h.runs i stream hstream
  cases hi.symm.trans hs'
  exact ⟨stream, ms, hstream, rfl, hes⟩

end Session

end CameraRecorder

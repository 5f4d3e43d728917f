import CameraRecorder.Proofs.Recorder.Runs
import CameraRecorder.Proofs.Session.Parts
import CameraRecorder.Proofs.Stream.Quiescence

/-!
# Wakes of a recorder

A wake of a worker goes on task by task, and at every call of the worker the camera may answer and
the application may act: start and stop the session, and submit frames. All that is done to the
stream meanwhile is known (`Recorder.Meddles`): it begins no wake, and every frame that it lets in
for the writer is paid for by an action that is used up. So each task brings the end of the wake
nearer (`Recorder.ahead`), and a recorder allows a wake as many tasks as it may need.

When the wake is over, the lanes of the stream are empty. If it was not stopped meanwhile, waking
the worker again does nothing.
-/

namespace CameraRecorder

namespace Session

variable {s : Session} {i : Nat} {stream : Stream}

/-- A worker that waits for a call is answered: its stream makes one move. -/
theorem exists_move_replyTo (hi : s.stream? i = some stream) {en : Bool} {task : Task}
    (hact : stream.activity = .awake en task) (faulty : Bool) :
    ∃ error, (s.replyTo i faulty).1.stream? i = some (stream.move (.reply error)).1 ∧
      entriesOf (s.replyTo i faulty).2 i = (stream.move (.reply error)).2 := by
  obtain ⟨track, htrack, rfl⟩ := Option.map_eq_some_iff.mp hi
  have htask : track.stream.activity.task? = some task := by
    rw [hact]
    rfl
  cases hfaulty : faulty && reachesWriter task with
  | true =>
    obtain ⟨rfl, hreaches⟩ := Bool.and_eq_true_iff.mp hfaulty
    refine ⟨some .io, ?_⟩
    rw [← reply_eq_move htask (by simp [hreaches])]
    simp [replyTo, htrack, htask, hreaches, onStream, hi, stream?_setStream, entriesOf_self]
  | false =>
    refine ⟨(callOut track task s.disk).2.2, ?_⟩
    rw [replyTo_eq htrack hact hfaulty, ← reply_eq_move htask callOut_error]
    have hlt := (List.getElem?_eq_some_iff.mp htrack).1
    exact ⟨by simp [stream?, hlt], entriesOf_self ..⟩

/-- A worker that waits for a name is answered: its stream makes one move. -/
theorem exists_move_nameFile {σ : Type}
    (request : UInt32 → Nat → σ → Except NameError (List Path) × σ)
    (hi : s.stream? i = some stream) (source : σ) :
    ∃ asked result,
      (s.nameFile request i source).1.stream? i = some (stream.move (.named asked result)).1 ∧
      entriesOf (s.nameFile request i source).2.1 i = (stream.move (.named asked result)).2 := by
  let names := (s.names.next request i source).2.1
  have hi' : ({ s with names } : Session).stream? i = some stream := hi
  refine ⟨if (s.names.take? i).isSome then none
    else some (s.names.cameraId, s.names.slots.length), (s.names.next request i source).1, ?_, ?_⟩
  · simp [nameFile, onStream, hi', names, stream?_setStream, Stream.move]
  · have htold : entriesOf (s.nameFile request i source).2.1 i
        = entriesOf (if (s.names.take? i).isSome then []
            else [(i, Entry.names s.names.cameraId s.names.slots.length)]) i
          ++ (stream.named (s.names.next request i source).1).2 := by
      simp [nameFile, onStream, hi', names, entriesOf_append, entriesOf_self]
    rw [htold]
    by_cases hkept : (s.names.take? i).isSome = true <;> simp [hkept, entriesOf, Stream.move]

end Session

namespace Recorder

variable {r r' r'' : Recorder} {i n k : Nat} {stream : Stream}

/-! ## What others do during a call -/

/-- From one recorder to another the application acts on the stream of a number, and no more than
`n` frames are let in for its writer. -/
def Meddles (r : Recorder) (i n : Nat) (r' : Recorder) : Prop :=
  ∀ stream, r.session.stream? i = some stream → ∃ ms : List Stream.Move,
    (∀ m ∈ ms, m.isOutside = true) ∧ (acceptedItems (stream.run ms).2).length ≤ n ∧
      r'.session.stream? i = some (stream.run ms).1 ∧
      r'.told i = r.told i ++ (stream.run ms).2

theorem Meddles.of_quiet (hsession : r'.session = r.session) (htold : r'.told i = r.told i) :
    r.Meddles i 0 r' := by
  intro stream hi
  refine ⟨[], List.forall_mem_nil _, Nat.le_refl _, ?_, ?_⟩
  · rw [hsession]
    exact hi
  · rw [htold]
    exact (List.append_nil _).symm

theorem Meddles.trans (h : r.Meddles i n r') (h' : r'.Meddles i k r'') :
    r.Meddles i (n + k) r'' := by
  intro stream hi
  obtain ⟨ms, hms, hn, hi', htold⟩ := h stream hi
  obtain ⟨ms', hms', hk, hi'', htold'⟩ := h' _ hi'
  refine ⟨ms ++ ms', List.forall_mem_append.mpr ⟨hms, hms'⟩, ?_, ?_, ?_⟩
  · rw [Stream.run_append, acceptedItems_append, List.length_append]
    exact Nat.add_le_add hn hk
  · rw [Stream.run_append]
    exact hi''
  · rw [Stream.run_append, htold', htold, List.append_assoc]

theorem Meddles.mono (h : r.Meddles i n r') (hle : n ≤ k) : r.Meddles i k r' := by
  intro stream hi
  obtain ⟨ms, hms, hn, hstream⟩ := h stream hi
  exact ⟨ms, hms, Nat.le_trans hn hle, hstream⟩

/-- What is done with the stream of a number is one move of the application. -/
theorem meddles_update {act : Stream → Stream × List Entry} {change : Session × Session.Entries}
    (hdoes : r.session.Does i act change.2 change.1) {m : Stream.Move} (hm : m.isOutside = true)
    (hact : act = (·.move m) ∨ act = Stream.rest) : r.Meddles i m.letsIn (r.update change) := by
  intro stream hi
  have hstream : (r.update change).session.stream? i = some (act stream).1 := by
    refine hdoes.stream.trans ?_
    rw [hi]
    rfl
  have htold : (r.update change).told i = r.told i ++ (act stream).2 := by
    rw [← hdoes.told stream hi]
    exact told_note ..
  rcases hact with rfl | rfl
  · refine ⟨[m], List.forall_mem_singleton.mpr hm, ?_, ?_, ?_⟩
    · rw [Stream.run_single]
      exact (stream.step_move m).accepted_le
    · rw [Stream.run_single]
      exact hstream
    · rw [Stream.run_single]
      exact htold
  · exact ⟨[], List.forall_mem_nil _, Nat.zero_le _, hstream, htold⟩

theorem eq_move_or_rest (c : Prop) [Decidable c] (m : Stream.Move) :
    (if c then (·.move m) else Stream.rest) = (fun stream : Stream => stream.move m) ∨
      (if c then (·.move m) else Stream.rest) = Stream.rest := by
  split
  · exact .inl rfl
  · exact .inr rfl

theorem meddles_submitTo (r : Recorder) (i j : Nat) (kind : LaneKind) (frame : Frame) :
    r.Meddles i ((Stream.Move.submit kind frame).letsIn)
      (r.submitted (r.session.submitTo j (·.submit kind frame))).2 := by
  have hupdate : (r.submitted (r.session.submitTo j (·.submit kind frame))).2
      = r.update (r.session.submitted (r.session.submitTo j (·.submit kind frame))) := by
    cases r.session.submitTo j (·.submit kind frame) <;> rfl
  rw [hupdate]
  have hdoes := Session.does_submitTo (m := .submit kind frame) (fun _ => rfl) r.session j i
  exact meddles_update hdoes rfl (eq_move_or_rest ..)

theorem meddles_broadcast (r : Recorder) (i : Nat) (kind : LaneKind) (frame : Frame) :
    r.Meddles i ((Stream.Move.submit kind frame).letsIn)
      (r.broadcast (r.session.broadcast kind frame)).2 :=
  meddles_update (Session.does_broadcast r.session i kind frame) rfl (.inl rfl)

theorem meddles_act (r : Recorder) (i : Nat) (action : Action) :
    r.Meddles i 1 (r.act action).2 := by
  have hone (m : Stream.Move) : m.letsIn ≤ 1 := by
    unfold Stream.Move.letsIn
    split <;> decide
  have hswitch {m : Stream.Move} (hm : m.isOutside = true) :
      r.Meddles i 1 (if r.isLive then r.update (r.session.onStreams (·.move m)) else r) := by
    cases r.isLive with
    | true =>
      exact (meddles_update (Session.does_move_onStreams r.session i m) hm (.inl rfl)).mono (hone m)
    | false => exact (Meddles.of_quiet rfl rfl).mono (Nat.zero_le 1)
  cases action with
  | start => exact hswitch (m := .start) rfl
  | stop => exact hswitch (m := .stop) rfl
  | audio frame => exact (r.meddles_broadcast i .audio frame).mono (hone _)
  | thumbnail frame => exact (r.meddles_broadcast i .thumbnail frame).mono (hone _)
  | audioTo j frame => exact (r.meddles_submitTo i j .audio frame).mono (hone _)
  | thumbnailTo j frame => exact (r.meddles_submitTo i j .thumbnail frame).mono (hone _)
  | video channel frame =>
    simp only [act, Session.submitVideo]
    cases r.session.indexOf? channel with
    | none => exact (Meddles.of_quiet rfl rfl).mono (Nat.zero_le 1)
    | some j => exact (r.meddles_submitTo i j .video frame).mono (hone _)

/-! ## The host during a call -/

theorem host_act (r : Recorder) (action : Action) : (r.act action).2.host = r.host := by
  cases action with
  | start | stop => cases hlive : r.isLive <;> simp [act, hlive, update, note]
  | video channel frame =>
    simp only [act]
    cases r.session.submitVideo channel frame <;> rfl
  | audioTo j frame =>
    simp only [act]
    cases r.session.submitTo j (·.submit .audio frame) <;> rfl
  | thumbnailTo j frame =>
    simp only [act]
    cases r.session.submitTo j (·.submit .thumbnail frame) <;> rfl
  | audio | thumbnail => rfl

/-- The actions of hooks are done, and let in no more frames than there are of them. -/
theorem meddles_runActions (r : Recorder) (i : Nat) (actions : List Action) :
    r.Meddles i actions.length (r.runActions actions) ∧ (r.runActions actions).host = r.host := by
  induction actions generalizing r with
  | nil => exact ⟨.of_quiet rfl rfl, rfl⟩
  | cons action actions ih =>
    let acted := r.act action
    let r₁ : Recorder :=
      { acted.2 with record := .hook action.tag acted.1 :: acted.2.record }
    have hfirst : r.Meddles i (1 + 0) r₁ :=
      (r.meddles_act i action).trans (.of_quiet rfl (told_hook ..))
    obtain ⟨hrest, hhost⟩ := ih r₁
    rw [List.length_cons, Nat.add_comm]
    exact ⟨hfirst.trans hrest, hhost.trans (r.host_act action)⟩

/-- The actions that are due are used up. -/
theorem meddles_runHooks (r : Recorder) (i j : Nat) (point : Point) (count : Nat) :
    ∃ n, r.Meddles i n (r.runHooks j point count) ∧
      n + (r.runHooks j point count).host.actionsLeft = r.host.actionsLeft := by
  let now := r.host.hooks.filter (·.belongsTo j point count)
  let later := r.host.hooks.filter fun hook => !hook.belongsTo j point count
  let r₁ : Recorder := { r with host := { r.host with hooks := later } }
  obtain ⟨hmeddles, hhost⟩ := r₁.meddles_runActions i (now.flatMap (·.actions))
  have hruns : r.runHooks j point count = r₁.runActions (now.flatMap (·.actions)) := by
    simp only [runHooks, List.partition_eq_filter_filter]
    rfl
  refine ⟨(now.flatMap (·.actions)).length, ?_, ?_⟩
  · rw [hruns, ← Nat.zero_add (now.flatMap (·.actions)).length]
    exact Meddles.trans (.of_quiet rfl rfl) hmeddles
  · have hperm : (r.host.hooks.flatMap (·.actions)).Perm
        ((now ++ later).flatMap (·.actions)) :=
      (List.filter_append_perm _ r.host.hooks).symm.flatMap_right _
    rw [hruns, hhost, Host.actionsLeft, Host.actionsLeft, hperm.length_eq, List.flatMap_append,
      List.length_append]

/-- The camera answers with snapshots only, and uses up no action. -/
theorem meddles_askCamera (r : Recorder) (i : Nat) (channel : UInt32) (point : Point) :
    r.Meddles i 0 (r.askCamera channel point) ∧
      (r.askCamera channel point).host.hooks = r.host.hooks := by
  have hsends (snapshots : List Bytes) : r.Meddles i 0 (snapshots.foldl sendSnapshot r) ∧
      (snapshots.foldl sendSnapshot r).host.hooks = r.host.hooks := by
    refine List.foldlRecOn (motive := fun r' => r.Meddles i 0 r' ∧ r'.host.hooks = r.host.hooks)
      _ _ ⟨.of_quiet rfl rfl, rfl⟩ ?_
    rintro r' ⟨hmeddles, hhooks⟩ data -
    refine ⟨hmeddles.trans (r'.meddles_broadcast i .thumbnail _), ?_⟩
    rw [sendSnapshot, host_act]
    exact hhooks
  cases point with
  | keyFrame => exact ⟨.of_quiet rfl rfl, rfl⟩
  | thumbnail => exact hsends _
  | _ => exact ⟨.of_quiet rfl rfl, rfl⟩

/-! ## Tasks -/

/-- A task of a worker is done: others meddle, and then the worker gets its turn. -/
structure Turn (r : Recorder) (i : Nat) (stream : Stream) (r' : Recorder) (ms : List Stream.Move)
    (m : Stream.Move) : Prop where
  outside : ∀ m ∈ ms, m.isOutside = true
  isTurn : (stream.run ms).1.isTurn m = true
  becomes : r'.session.stream? i = some ((stream.run ms).1.move m).1
  told : r'.told i = r.told i ++ (stream.run (ms ++ [m])).2
  paid : (acceptedItems (stream.run ms).2).length + r'.host.actionsLeft ≤ r.host.actionsLeft

/-- The worker gets its turn at once. -/
theorem Turn.single {m : Stream.Move} (change : Session × Session.Entries)
    (hstream : change.1.stream? i = some (stream.move m).1)
    (htold : Session.entriesOf change.2 i = (stream.move m).2) (hturn : stream.isTurn m = true)
    (hsession : r'.session = change.1) (hrecord : r'.record = (r.update change).record)
    (hhooks : r'.host.hooks = r.host.hooks) : r.Turn i stream r' [] m where
  outside := List.forall_mem_nil _
  isTurn := hturn
  becomes := by
    rw [hsession]
    exact hstream
  told := by
    have hnote : r'.told i = (r.update change).told i := by
      rw [Recorder.told, hrecord]
      rfl
    rw [hnote, List.nil_append, Stream.run_single, ← htold]
    exact told_note ..
  paid := by
    rw [Host.actionsLeft, hhooks, Host.actionsLeft]
    simp [acceptedItems]

/-- **A call is served**: the camera answers, the application acts, and the worker goes on. -/
theorem exists_turn_serve (hcrash : r.NeverCrashes) (hi : r.session.stream? i = some stream)
    {en : Bool} {task : Task} (hact : stream.activity = .awake en task) (hcall : task.isCall = true)
    (channel : UInt32) (point : Point) :
    ∃ ms m, r.Turn i stream (r.serve i channel point) ms m := by
  let owner := r.ascribed i channel point
  let r₁ := r.askCamera channel point
  let r₂ := { r₁ with host := r₁.host.countCall owner point }
  let count := r₂.host.callsOf owner point
  let r₃ := r₂.runHooks owner point count
  obtain ⟨hasked, hhooks⟩ := r.meddles_askCamera i channel point
  obtain ⟨n, hhooked, hleft⟩ := r₂.meddles_runHooks i owner point count
  -- before the call ends, the camera answers and the hooks act
  have hmeddles : r.Meddles i n r₃ := by
    have hcounted : r₁.Meddles i 0 r₂ := .of_quiet rfl rfl
    simpa only [Nat.zero_add] using (hasked.trans hcounted).trans hhooked
  have hcrash₃ : r₃.NeverCrashes := by
    have h₁ : r.Runs r₁ := r.runs_askCamera channel point
    have h₂ : r₁.Runs r₂ := .of_quiet rfl rfl fun _ => rfl
    exact hcrash.of_runs ((h₁.trans h₂).trans (r₂.runs_runHooks _ _ _))
  obtain ⟨faulty, hserve⟩ : ∃ faulty,
      r.serve i channel point = r₃.update (r₃.session.replyTo i faulty) := by
    unfold serve
    dsimp only
    split
    · exact ⟨false, rfl⟩
    · rename_i failure hfind
      rw [hcrash₃ failure (List.mem_of_find?_eq_some hfind)]
      exact ⟨true, rfl⟩
  obtain ⟨ms, hms, hn, hi₃, htold₃⟩ := hmeddles stream hi
  have hact₃ := (Stream.activity_run_outside (s := stream) hms).trans hact
  obtain ⟨error, hstream, htold⟩ := Session.exists_move_replyTo hi₃ hact₃ faulty
  rw [hserve]
  refine ⟨ms, .reply error, hms, ?_, hstream, ?_, ?_⟩
  · simp [Stream.isTurn, hact₃, Activity.task?, hcall]
  · have hnote : (r₃.update (r₃.session.replyTo i faulty)).told i
        = r₃.told i ++ Session.entriesOf (r₃.session.replyTo i faulty).2 i := told_note ..
    rw [hnote, htold₃, htold, Stream.run_append, Stream.run_single, List.append_assoc]
  · have hsame : r₂.host.actionsLeft = r.host.actionsLeft := by
      show (r₁.host.hooks.flatMap (·.actions)).length = _
      rw [hhooks]
      rfl
    have hpaid : n + r₃.host.actionsLeft = r.host.actionsLeft := hleft.trans hsame
    show _ + r₃.host.actionsLeft ≤ _
    omega

/-- **A task of a worker is a turn of it.** -/
theorem exists_turn_of_advance (hcrash : r.NeverCrashes) (hi : r.session.stream? i = some stream)
    (hadvance : r.advance? i = some r') :
    (∃ en task, stream.activity = .awake en task) ∧ ∃ ms m, r.Turn i stream r' ms m := by
  unfold advance? at hadvance
  simp only [hi] at hadvance
  cases hact : stream.activity with
  | asleep | stopped | crashed => simp [Stream.advance?, hact, Activity.task?] at hadvance
  | awake en task =>
    refine ⟨⟨en, task, rfl⟩, ?_⟩
    have hreply (hcall : task.isCall = true) (error : Option WriterError) :
        stream.isTurn (.reply error) = true := by
      simp [Stream.isTurn, hact, Activity.task?, hcall]
    cases hmade : stream.advance? with
    | some made =>
      simp only [hmade] at hadvance
      cases hadvance
      have hmove : stream.move .advance = made := by
        rw [Stream.move, hmade]
        rfl
      refine ⟨[], .advance, .single (r.session.setStream i made.1, made.2.map (i, ·))
        ?_ ?_ ?_ rfl rfl rfl⟩
      · simp [Session.stream?_setStream, hi, hmove]
      · rw [hmove]
        exact Session.entriesOf_self ..
      · simp [Stream.isTurn, hmade]
    | none =>
      simp only [hmade, hact, Activity.task?] at hadvance
      cases task with
      | taking | handling _ | opening _ | collecting | closing _ | retiring =>
        simp [Stream.advance?, hact] at hmade
      | naming ticket generation =>
        cases hadvance
        obtain ⟨asked, result, hstream, htold⟩ :=
          Session.exists_move_nameFile NameSource.request hi r.host.names
        let made := r.session.nameFile NameSource.request i r.host.names
        refine ⟨[], .named asked result, .single (made.1, made.2.1) hstream htold ?_
          rfl rfl rfl⟩
        simp [Stream.isTurn, hact, Activity.task?]
      | publishing next =>
        cases hadvance
        obtain ⟨error, hstream, htold⟩ := Session.exists_move_replyTo hi hact false
        exact ⟨[], .reply error, .single _ hstream htold (hreply rfl error) rfl rfl rfl⟩
      | creating | beginning | writingVideo | writingAudio | askingKeyFrame | askingThumbnail
        | trailing | finishing | ending =>
        cases hadvance
        exact exists_turn_serve hcrash hi hact rfl _ _

/-! ## The end of a wake -/

/-- How many turns a worker may need until it rests, and how many frames others may still let in
meanwhile. -/
def ahead (r : Recorder) (stream : Stream) : Nat := stream.work + 20 * r.host.actionsLeft

/-- **Each task brings the end of the wake nearer.** -/
theorem Turn.ahead_lt {ms : List Stream.Move} {m : Stream.Move} (h : r.Turn i stream r' ms m)
    (hs : stream.LanesSound) :
    r'.ahead ((stream.run ms).1.move m).1 < r.ahead stream := by
  have hmeddled := Stream.turns_le hs ms
  rw [Stream.isWoken_run_outside h.outside] at hmeddled
  have hmoved := Stream.work_move (Stream.buffers_run hs ms).1 m
  obtain ⟨haccepted, hwoken⟩ := Stream.quiet_of_isTurn h.isTurn
  rw [h.isTurn, hwoken, haccepted] at hmoved
  have hpaid := h.paid
  simp only [List.length_nil, Bool.toNat_true] at hmoved
  unfold ahead
  omega

/-- A worker has a task to do exactly when it is awake. -/
theorem advance?_eq_none_iff (hi : r.session.stream? i = some stream) :
    r.advance? i = none ↔ stream.activity.task? = none := by
  unfold advance?
  cases hact : stream.activity with
  | asleep | stopped | crashed => simp [hi, Stream.advance?, hact, Activity.task?]
  | awake en task =>
    refine ⟨fun hnone => ?_, fun hrest => by cases hrest⟩
    cases task <;> simp [hi, Stream.advance?, hact, Activity.task?, Task.point?] at hnone

/-- When nothing is ahead of a worker, it rests. -/
theorem rests_of_ahead (h : r.ahead stream = 0) : stream.activity.task? = none := by
  have hwork : stream.activity.work = 0 := by
    unfold ahead Stream.work at h
    omega
  cases hact : stream.activity with
  | asleep | stopped | crashed => rfl
  | awake en task =>
    rw [hact] at hwork
    cases task with
    | closing next | trailing _ _ next | finishing next | publishing next | ending next =>
      simp [Activity.work, Task.work] at hwork
    | _ => cases hwork

/-- **With fuel for all that is ahead, a worker runs until it rests.** -/
theorem run_rests (hcrash : r.NeverCrashes) (hi : r.session.stream? i = some stream)
    {before es : List Entry} (htold : r.told i = before ++ es) (hw : stream.InWake es) {fuel : Nat}
    (hfuel : r.ahead stream ≤ fuel) :
    ∃ stream' es', (run fuel r i).session.stream? i = some stream' ∧
      (run fuel r i).told i = before ++ es' ∧ stream'.InWake es' ∧
      stream'.activity.task? = none := by
  induction fuel generalizing r stream es with
  | zero => exact ⟨stream, es, hi, htold, hw, rests_of_ahead (Nat.le_zero.mp hfuel)⟩
  | succ fuel ih =>
    unfold run
    cases hadvance : r.advance? i with
    | none => exact ⟨stream, es, hi, htold, hw, (advance?_eq_none_iff hi).mp hadvance⟩
    | some r' =>
      obtain ⟨⟨en, task, hact⟩, ms, m, hturn⟩ := exists_turn_of_advance hcrash hi hadvance
      have hless := hturn.ahead_lt hw.lawful.lanes
      have hmeddled := Stream.inWake_run_outside hact hw hturn.outside
      have hact' := (Stream.activity_run_outside (s := stream) hturn.outside).trans hact
      refine ih (hcrash.of_runs (runs_advance hcrash hadvance)) hturn.becomes ?_
        (((stream.run ms).1.step_move m).inWake hact' hmeddled) (by omega)
      rw [hturn.told, htold, Stream.run_append, Stream.run_single]
      simp only [List.append_assoc]

/-- The frames that wait for the writer are in flight. -/
theorem waiting_eq (hs : stream.LanesSound) : stream.buffers.waiting
    = stream.video.stats.inFlight + (stream.audio.map (·.stats.inFlight)).getD 0 := by
  have hvideo : (stream.queue .video).length = stream.video.stats.inFlight := by
    rw [(hs .video _ rfl).1.stats_eq]
    rfl
  have haudio :
      (stream.queue .audio).length = (stream.audio.map (·.stats.inFlight)).getD 0 := by
    unfold Stream.queue
    cases hl : stream.lane? .audio with
    | none => rw [show stream.audio = none from hl]; rfl
    | some l =>
      rw [show stream.audio = some l from hl, Option.map_some, Option.map_some, Option.getD_some,
        Option.getD_some, (hs .audio l hl).1.stats_eq]
  exact congrArg₂ (· + ·) hvideo haudio

theorem tasksAhead_eq (hi : r.session.stream? i = some stream) (hs : stream.LanesSound) :
    r.tasksAhead i = 20 * (stream.buffers.waiting + r.host.actionsLeft) + 20 := by
  rw [waiting_eq hs, tasksAhead, hi]

/-- A wake is allowed as many tasks as are ahead of it when it begins. -/
theorem ahead_le_tasksAhead (hi : r.session.stream? i = some stream) (hs : stream.LanesSound)
    (hwork : stream.activity.work ≤ 20) : r.ahead stream ≤ r.tasksAhead i := by
  rw [tasksAhead_eq hi hs, ahead, Stream.work]
  omega

/-- The first task of a wake is a small one. -/
theorem work_wake (hrest : stream.activity.task? = none) : stream.wake.1.activity.work ≤ 20 := by
  cases hact : stream.activity with
  | awake en task =>
    rw [hact] at hrest
    cases hrest
  | stopped | crashed => simp [Stream.wake, hact, Activity.work]
  | asleep =>
    by_cases hi : (stream.isEnabled && stream.isInterrupted) = true
    · simp [Stream.wake, hact, hi, Activity.work, Task.work, Resumption.work]
    · simp [Stream.wake, hact, hi, Activity.work, Task.work]

/-! ## The next wake -/

/-- The recorder with another stream of a number, and what happened to it. -/
def altered (r : Recorder) (i : Nat) (made : Stream × List Entry) : Recorder :=
  r.update (r.session.setStream i made.1, made.2.map (i, ·))

theorem altered_altered (r : Recorder) (i : Nat) (s s' : Stream) (es es' : List Entry) :
    (r.altered i (s, es)).altered i (s', es') = r.altered i (s', es ++ es') := by
  have hsession : (r.session.setStream i s).setStream i s' = r.session.setStream i s' := by
    simp [Session.setStream, List.modify_modify_eq, Function.comp_def]
  simp only [altered, update, note, List.map_append, List.reverse_append, List.append_assoc,
    ← hsession]

theorem stream?_altered (hi : r.session.stream? i = some stream) (made : Stream × List Entry) :
    (r.altered i made).session.stream? i = some made.1 := by
  show (r.session.setStream i made.1).stream? i = _
  simp [Session.stream?_setStream, hi]

theorem altered_self (hi : r.session.stream? i = some stream) (es : List Entry) :
    r.altered i (stream, es) = r.note (es.map (i, ·)) := by
  obtain ⟨track, htrack, rfl⟩ := Option.map_eq_some_iff.mp hi
  obtain ⟨hlt, rfl⟩ := List.getElem?_eq_some_iff.mp htrack
  have hsession : r.session.setStream i r.session.tracks[i].stream = r.session := by
    rw [Session.setStream_eq htrack, List.set_getElem_self]
  simp only [altered, update, hsession]

/-- Tasks that are no calls are done by the worker alone. -/
theorem run_of_advances {s : Stream} {es : List Entry} {s' : Stream} (h : Stream.Advances n s es s')
    (hi : r.session.stream? i = some s) (fuel : Nat) :
    run (n + fuel) r i = run fuel (r.altered i (s', es)) i := by
  induction h generalizing r with
  | nil => rw [Nat.zero_add, altered_self hi]; rfl
  | @cons n s s₁ s' es es' hmade _ ih =>
    have hadvance : r.advance? i = some (r.altered i (s₁, es)) := by
      simp only [advance?, hi, hmade, altered]
    rw [Nat.succ_add, run, hadvance, ← altered_altered r i s₁ s' es es']
    exact ih (stream?_altered hi _)

theorem wake_eq (hi : r.session.stream? i = some stream) :
    r.wake i = run ((r.altered i stream.wake).tasksAhead i) (r.altered i stream.wake) i := by
  have hwake : r.update (r.session.wake i) = r.altered i stream.wake := by
    simp only [Session.wake, Session.onStream, hi, altered]
  rw [wake, hwake]

/-- Waking a worker that would find nothing to do leaves the recorder as it is, but for what is told
of the stream's own buffers. -/
theorem wake_of_composed (hi : r.session.stream? i = some stream) (hs : stream.Lawful)
    (hrest : stream.activity.task? = none) (hempty : ∀ kind, stream.queue kind = [])
    (hc : stream.Composed) :
    ∃ es : List Entry, (∀ e ∈ es, e.isInternal = true) ∧ r.wake i = r.note (es.map (i, ·)) := by
  obtain ⟨n, es, hn, hadvances, hinternal⟩ := Stream.wake_of_composed hs hrest hempty hc
  refine ⟨stream.wake.2 ++ es, hinternal, ?_⟩
  let woken := r.altered i stream.wake
  have hwoken : woken.session.stream? i = some stream.wake.1 := stream?_altered hi _
  obtain ⟨fuel, hfuel⟩ : ∃ fuel, woken.tasksAhead i = n + fuel := by
    have hwake : stream.wake.1.LanesSound := ((stream.step_move .wake).lawful hs).lanes
    refine Nat.exists_eq_add_of_le ?_
    rw [tasksAhead_eq hwoken hwake]
    omega
  have hback : woken.altered i (stream, es) = r.note ((stream.wake.2 ++ es).map (i, ·)) := by
    rw [← altered_self hi]
    exact altered_altered r i stream.wake.1 stream stream.wake.2 es
  rw [wake_eq hi, hfuel, run_of_advances hadvances hwoken, hback]
  -- the worker rests again, so there is no task left
  have hover : (r.note ((stream.wake.2 ++ es).map (i, ·))).advance? i = none :=
    (advance?_eq_none_iff (r := r.note _) hi).mpr hrest
  cases fuel with
  | zero => rfl
  | succ fuel => rw [run, hover]

/-! ## Quiescence -/

/-- **Every wake runs to quiescence.** A worker is woken at any time when it rests, whatever
happened to its stream before; during the wake the application may do whatever hooks have it do, and
any calls may fail, though none crashes. Then the wake comes to an end: the worker has no task left
and its lanes are empty. If the stream was not stopped meanwhile, waking the worker once more
changes neither the session nor the host, and nothing is told but of the stream's own buffers: no
call to the writer, no event and no request. -/
theorem wake_quiescent (r : Recorder) (hcrash : r.NeverCrashes) (i : Nat) (handle : StreamHandle)
    (config : StreamConfig) (ms : List Stream.Move)
    (hi : r.session.stream? i = some ((Stream.create handle config).run ms).1)
    (hrest : ((Stream.create handle config).run ms).1.activity.task? = none) :
    (r.wake i).advance? i = none ∧
      ∃ stream es, (r.wake i).session.stream? i = some stream ∧
        (r.wake i).told i = r.told i ++ es ∧ stream.Drained ∧
        ((∀ e ∈ es, e.isStop = false) →
          ∃ es' : List Entry, (∀ e ∈ es', e.isInternal = true) ∧
            (r.wake i).wake i = (r.wake i).note (es'.map (i, ·))) := by
  have hs := Stream.lawful_run (Stream.lawful_create handle config) ms
  generalize ((Stream.create handle config).run ms).1 = stream at hi hrest hs
  let woken := r.altered i stream.wake
  have hwoken : woken.session.stream? i = some stream.wake.1 := stream?_altered hi _
  have hw : stream.wake.1.InWake stream.wake.2 := Stream.inWake_of_wake hs hrest
  have htold : woken.told i = r.told i ++ stream.wake.2 := by
    rw [← Session.entriesOf_self stream.wake.2 i]
    exact told_note ..
  have hfuel := ahead_le_tasksAhead hwoken hw.lawful.lanes (work_wake hrest)
  obtain ⟨stream', es, hi', htold', hw', hrest'⟩ :=
    run_rests (r := woken) hcrash hwoken htold hw hfuel
  rw [← wake_eq hi] at hi' htold'
  have hempty := hw'.emptied hrest'
  refine ⟨(advance?_eq_none_iff hi').mpr hrest', stream', es, hi', htold',
    Stream.drained_of_queue hw'.lawful.lanes hempty, fun hes => ?_⟩
  exact wake_of_composed hi' hw'.lawful hrest' hempty (hw'.unstopped hes).2

/-- A stream was started and has a key frame queued. When its file begins, the application submits
another frame and a snapshot; the second frame cannot be written, and meanwhile the application
starts the session once more and submits a third. -/
def meddledRecorder : Recorder where
  session := (Session.assemble ⟨0, [Stream.secondLong]⟩ (fun _ => .toFiles) {}).setStream 0
    ((Stream.create ⟨0, 0, 0⟩ Stream.secondLong).run [.start, .submit .video ⟨[1], 0, true⟩]).1
  host := {
    names := .script { batches := [.ok [⟨[1]⟩]] }
    failures := [⟨0, .video, 2, false⟩]
    hooks := [
      ⟨0, .fileBegin, 1, [.video 0 ⟨[2], 100000, false⟩, .thumbnailTo 0 ⟨[7], 0, false⟩]⟩,
      ⟨0, .video, 2, [.start, .video 0 ⟨[3], 200000, false⟩]⟩] }

/-- The worker takes all three frames, and then there is nothing left to do. -/
theorem wake_quiescent_meddled :
    let woken := meddledRecorder.wake 0
    takenItems (woken.told 0) = [⟨.video, ⟨0, [1], 0, true⟩⟩, ⟨.video, ⟨1, [2], 100000, false⟩⟩,
      ⟨.video, ⟨2, [3], 200000, false⟩⟩] ∧
    woken.advance? 0 = none ∧
    ∃ es' : List Entry, (∀ e ∈ es', e.isInternal = true) ∧
      woken.wake 0 = woken.note (es'.map (0, ·)) := by
  intro woken
  have hcrash : meddledRecorder.NeverCrashes := List.forall_mem_singleton.mpr rfl
  obtain ⟨hover, stream, es, -, htold, -, hagain⟩ :=
    wake_quiescent meddledRecorder hcrash 0 ⟨0, 0, 0⟩ Stream.secondLong
      [.start, .submit .video ⟨[1], 0, true⟩] (by decide +kernel) (by decide +kernel)
  have hunstopped : ∀ e ∈ woken.told 0, e.isStop = false := by decide +kernel
  refine ⟨by decide +kernel, hover, hagain fun e he => hunstopped e ?_⟩
  rw [htold]
  exact List.mem_append_right _ he

end Recorder

end CameraRecorder

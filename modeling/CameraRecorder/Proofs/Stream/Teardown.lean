import CameraRecorder.Proofs.Stream.Stage
import CameraRecorder.Proofs.Stream.Turns
import CameraRecorder.Proofs.Stream.Wakes

/-!
# The end of a stream

A stream that was shut down takes nothing in, whether it is started again or not. The next wake of
its worker begins disabled (`Stream.Leaving`): it writes what is left, closes the file, empties the
lanes and stops for good. From then on nothing moves but the switches (`Stream.Over`).
-/

namespace CameraRecorder

/-- Whether an entry tells of something that a stream does no more when it is leaving: to take a
frame in, to begin a wake, or to ask for a file to be opened. -/
def Entry.isFresh (e : Entry) : Bool := e.isAdmission || e.isWoken || e.isInit

namespace Stream

variable {s s' : Stream} {m : Move} {es : List Entry}

/-! ## Refusals -/

/-- A disabled stream refuses what it is offered. -/
theorem offer_eq_error (hen : s.isEnabled = false) (kind : LaneKind) (frame : Frame)
    (mayDrop : Bool) : ∃ cause, s.offer kind frame mayDrop = .error cause := by
  unfold offer
  cases s.lane? kind with
  | none => exact ⟨_, rfl⟩
  | some lane => exact ⟨.streamDisabled, by simp [hen]⟩

theorem shutdown_run (hshut : s.shutdown = true) (ms : List Move) :
    (s.run ms).1.shutdown = true :=
  run_invariant Step.shutdown hshut ms

/-- A stream that was shut down takes nothing in, even if it is started again. -/
theorem refuses_run_of_shutdown (hshut : s.shutdown = true) (ms : List Move) :
    ∀ e ∈ (s.run ms).2, e.isAdmission = false := by
  refine (run_induction (P := fun es s' =>
    s'.shutdown = true ∧ ∀ e ∈ es, e.isAdmission = false) ?_ ⟨hshut, List.forall_mem_nil _⟩ ms).2
  rintro before s₁ m s₂ es hmove ⟨hshut₁, hbefore⟩
  exact ⟨hmove.shutdown hshut₁,
    List.forall_mem_append.mpr ⟨hbefore, hmove.refuses (isEnabled_of_shutdown hshut₁)⟩⟩

/-! ## Empty lanes -/

/-- Every cell of every lane is free. -/
def Drained (s : Stream) : Prop :=
  ∀ kind l, s.lane? kind = some l → l.stats.free = l.stats.capacity ∧ l.stats.inFlight = 0

theorem drained_of_queue (hs : s.LanesSound) (hempty : ∀ kind, s.queue kind = []) :
    s.Drained := by
  intro kind l hl
  have htickets : l.tickets = [] := (queue_of_lane hl).symm.trans (hempty kind)
  rw [(hs kind l hl).1.stats_eq, htickets]
  exact ⟨rfl, rfl⟩

/-- At the end of a wake on a disabled stream every lane is emptied. -/
theorem queue_retire (hs : s.LanesSound) (kind : LaneKind) : s.retire.1.queue kind = [] := by
  cases kind with
  | video => exact (hs .video s.video rfl).1.drain.2.2.1
  | thumbnail => exact (hs .thumbnail s.thumbnails rfl).1.drain.2.2.1
  | audio =>
    cases haudio : s.audio with
    | none => simp [queue, lane?, Stream.retire, haudio]
    | some l =>
      have hempty := (hs .audio l haudio).1.drain.2.2.1
      simpa [queue, lane?, Stream.retire, haudio] using hempty

/-- A worker only stops for good when its stream was shut down, and leaves the lanes empty. -/
def Settled (s : Stream) : Prop :=
  s.activity = .stopped → s.shutdown = true ∧ ∀ kind, s.queue kind = []

theorem settled_create (handle : StreamHandle) (config : StreamConfig) :
    (create handle config).Settled := nofun

theorem Step.settled (h : Step s m s' es) (hs : s.LanesSound) (hset : s.Settled) : s'.Settled := by
  intro hstopped'
  rcases h.comes_to_rest (by rw [hstopped']; rfl) with ⟨hrest, hsame⟩ | ⟨-, hasleep⟩ | ⟨-, -, rfl⟩
  · have hstopped := hsame.symm.trans hstopped'
    obtain ⟨hshut, hempty⟩ := hset hstopped
    have hrests := h.rests hrest (isEnabled_of_shutdown hshut)
      fun _ hasleep => by cases hstopped.symm.trans hasleep
    exact ⟨h.shutdown hshut, fun kind => (hrests.queue kind).trans (hempty kind)⟩
  · cases hasleep.symm.trans hstopped'
  · refine ⟨?_, queue_retire hs⟩
    show s.shutdown = true
    cases hshut : s.shutdown with
    | true => rfl
    | false => simp [Stream.retire, hshut] at hstopped'

/-- No move ends a worker in the middle of its task. -/
theorem Step.not_crashed (h : Step s m s' es) (hs : s.activity ≠ .crashed) :
    s'.activity ≠ .crashed := by
  intro hcrashed'
  rcases h.comes_to_rest (by rw [hcrashed']; rfl) with ⟨-, hsame⟩ | ⟨-, hasleep⟩ | ⟨-, -, rfl⟩
  · exact hs (hsame.symm.trans hcrashed')
  · cases hasleep.symm.trans hcrashed'
  · cases hshut : s.shutdown <;> simp [Stream.retire, hshut] at hcrashed'

/-- What is known of a stream at all times. -/
structure Lawful (s : Stream) : Prop where
  shaped : s.Shaped
  suited : s.Suited
  lanes : s.LanesSound
  settled : s.Settled
  not_crashed : s.activity ≠ .crashed

theorem lawful_create (handle : StreamHandle) (config : StreamConfig) :
    (create handle config).Lawful :=
  ⟨shaped_create handle config, suited_create handle config, lanesSound_create handle config,
    settled_create handle config, nofun⟩

theorem Step.lawful (h : Step s m s' es) (hs : s.Lawful) : s'.Lawful :=
  ⟨h.shaped hs.shaped, h.suited hs.suited, (h.buffers hs.lanes).1, h.settled hs.lanes hs.settled,
    h.not_crashed hs.not_crashed⟩

theorem lawful_run (hs : s.Lawful) (ms : List Move) : (s.run ms).1.Lawful :=
  run_invariant Step.lawful hs ms

/-! ## The last wake -/

/-- The stream was shut down, and its worker has stopped or does its last wake. -/
structure Leaving (s : Stream) : Prop where
  shutdown : s.shutdown = true
  activity : s.activity = .stopped ∨ ∃ task, s.activity = .awake false task

theorem Leaving.disabled (hl : s.Leaving) {en : Bool} {task : Task}
    (hact : s.activity = .awake en task) : en = false := by
  rcases hl.activity with hstopped | ⟨task', hact'⟩
  · cases hact.symm.trans hstopped
  · cases hact.symm.trans hact'
    rfl

theorem Leaving.stopped (hl : s.Leaving) (hrest : s.activity.task? = none) :
    s.activity = .stopped := by
  rcases hl.activity with hstopped | ⟨task, hact⟩
  · exact hstopped
  · rw [hact] at hrest
    cases hrest

theorem Step.leaving (h : Step s m s' es) (hl : s.Leaving) : s'.Leaving where
  shutdown := h.shutdown hl.shutdown
  activity := by
    rcases hl.activity with hstopped | ⟨task, hact⟩
    · rcases h.of_resting (by rw [hstopped]; rfl) with ⟨hasleep, -⟩ | ⟨hsame, -⟩
      · cases hstopped.symm.trans hasleep
      · exact .inl (hsame.trans hstopped)
    · rcases h.goes_on hact with ⟨task', hact'⟩ | ⟨hen, -⟩ | ⟨-, rfl⟩
      · exact .inr ⟨task', hact'⟩
      · cases hen
      · exact .inl (by simp [Stream.retire, hl.shutdown])

/-- A stream that is leaving takes nothing in, begins no wake and opens no file. -/
theorem Step.stale (h : Step s m s' es) (hs : s.Lawful) (hl : s.Leaving) :
    ∀ e ∈ es, e.isFresh = false := by
  intro e he
  have hadmits := h.refuses (isEnabled_of_shutdown hl.shutdown) e he
  have hmakes := h.makes e he
  cases e with
  | woken en =>
    obtain ⟨-, hasleep, -⟩ := hmakes
    rcases hl.activity with hstopped | ⟨task, hact⟩
    · cases hstopped.symm.trans hasleep
    · cases hact.symm.trans hasleep
  | init =>
    obtain ⟨request, name, en, ticket, generation, -, hact, -⟩ := hmakes
    cases hl.disabled hact
    cases hs.suited _ _ hact
  | accepted | evicted => cases hadmits
  | _ => rfl

theorem leaving_run (hs : s.Lawful) (hl : s.Leaving) (ms : List Move) :
    (s.run ms).1.Leaving ∧ ∀ e ∈ (s.run ms).2, e.isFresh = false := by
  refine (run_induction (P := fun es s' =>
    s'.Lawful ∧ s'.Leaving ∧ ∀ e ∈ es, e.isFresh = false) ?_ ⟨hs, hl, List.forall_mem_nil _⟩ ms).2
  rintro before s₁ m s₂ es hmove ⟨hs₁, hl₁, hbefore⟩
  exact ⟨hmove.lawful hs₁, hmove.leaving hl₁,
    List.forall_mem_append.mpr ⟨hbefore, hmove.stale hs₁ hl₁⟩⟩

/-- A worker that is woken after the shutdown does its last wake. -/
theorem leaving_of_wake (hasleep : s.activity = .asleep) (hshut : s.shutdown = true) :
    (s.move .wake).1.Leaving := by
  rw [move_wake_disabled hasleep (isEnabled_of_shutdown hshut)]
  exact ⟨hshut, .inr ⟨.taking, rfl⟩⟩

/-- **The last wake comes to an end.** The worker gets no more turns in it than it has work to do
when it begins, and as long as it has not stopped there is a turn for it. -/
theorem Leaving.turns_le (hs : s.Lawful) (hl : s.Leaving) (ms : List Move) :
    s.turns ms ≤ s.work ∧
      ((s.run ms).1.activity = .stopped ∨ ∃ m, (s.run ms).1.isTurn m = true) := by
  obtain ⟨hl', hstale⟩ := leaving_run hs hl ms
  constructor
  · have hbound := Stream.turns_le hs.lanes ms
    have hnone : acceptedItems (s.run ms).2 = [] := by
      refine List.filterMap_eq_nil_iff.mpr fun e he => ?_
      have hfresh := hstale e he
      cases e with
      | accepted => cases hfresh
      | _ => rfl
    have hwoken : (s.run ms).2.countP Entry.isWoken = 0 := by
      refine List.countP_eq_zero.mpr fun e he hwoken => ?_
      have hfresh := hstale e he
      simp [Entry.isFresh, hwoken] at hfresh
    rw [hnone, hwoken] at hbound
    simp only [List.length_nil] at hbound
    omega
  · rcases hl'.activity with hstopped | ⟨task, hact⟩
    · exact .inl hstopped
    · exact .inr (exists_turn hact)

/-- The last wake closes the open file, once. -/
theorem Leaving.closes (hs : s.Lawful) (hl : s.Leaving) {ms : List Move}
    (hstage : s.fileStage ≠ .asked) (hrest : (s.run ms).1.activity.task? = none) :
    (s.run ms).2.countP Entry.isDeinit = s.fileStage.unfinished ∧
      (s.run ms).2.countP Entry.isFileEnd = s.fileStage.unended := by
  obtain ⟨hl', hstale⟩ := leaving_run hs hl ms
  have hinit : ∀ e ∈ (s.run ms).2, e.isInit = false := fun e he => by
    have hfresh := hstale e he
    simp only [Entry.isFresh, Bool.or_eq_false_iff] at hfresh
    exact hfresh.2
  have hclosed : (s.run ms).1.fileStage = .closed := by
    have hfile := (shaped_run hs.shaped ms).file false (by rw [hl'.stopped hrest]; rfl)
    rw [fileStage_resting hrest, restStage, hfile]
    rfl
  have hfollows := follows_run hs.shaped ms
  rw [Follows, hclosed] at hfollows
  have hbegin := FileStage.countP_isFileBegin_eq_zero hfollows hstage hinit
  have hdeinit := FileStage.countP_isDeinit hfollows
  have hend := FileStage.countP_isFileEnd hfollows
  rw [hbegin] at hdeinit hend
  exact ⟨hdeinit, hend⟩

/-! ## Afterwards -/

/-- The worker has stopped for good: it has no file, its lanes are empty, and whatever happens from
then on, they stay so and nothing is told of a file. -/
structure Over (s : Stream) : Prop where
  stopped : s.activity = .stopped
  closed : s.file = none
  drained : s.Drained
  forever : ∀ ms, s.Rests (s.run ms).1 ∧ ∀ e ∈ (s.run ms).2,
    e.isAdmission = false ∧ e.isAboutFile = false

theorem rests_run_of_stopped (hstopped : s.activity = .stopped) (hshut : s.shutdown = true)
    (ms : List Move) : s.Rests (s.run ms).1 := by
  induction ms generalizing s with
  | nil => exact .refl s
  | cons m ms ih =>
    have hstep := s.step_move m
    have hrests := hstep.rests (by rw [hstopped]; rfl) (isEnabled_of_shutdown hshut)
      fun _ hasleep => by cases hstopped.symm.trans hasleep
    exact hrests.trans (ih (hrests.activity.trans hstopped) (hstep.shutdown hshut))

/-- **A worker that has stopped is done.** -/
theorem Lawful.over (hs : s.Lawful) (hstopped : s.activity = .stopped) : s.Over := by
  obtain ⟨hshut, hempty⟩ := hs.settled hstopped
  have hnone : s.file = none := by
    simpa using hs.shaped.file false (by rw [hstopped]; rfl)
  refine ⟨hstopped, hnone, drained_of_queue hs.lanes hempty, fun ms => ?_⟩
  have hclosed : s.fileStage = .closed := by
    rw [fileStage_resting (by rw [hstopped]; rfl), restStage, hnone]
    rfl
  have hfollows := follows_run hs.shaped ms
  rw [Follows, hclosed] at hfollows
  obtain ⟨-, hstale⟩ := leaving_run hs ⟨hshut, .inl hstopped⟩ ms
  refine ⟨rests_run_of_stopped hstopped hshut ms, fun e he => ⟨?_, ?_⟩⟩
  · exact refuses_run_of_shutdown hshut ms e he
  · refine FileStage.hidden_of_closed hfollows (fun e he => ?_) e he
    have hfresh := hstale e he
    simp only [Entry.isFresh, Bool.or_eq_false_iff] at hfresh
    exact hfresh.2

/-- **What the last wake does.** A worker is woken after the shutdown. Its wake comes to an end, and
then the worker is done; if it had a file, that file was finished and ended once. -/
theorem Lawful.last_wake (hs : s.Lawful) (hasleep : s.activity = .asleep)
    (hshut : s.shutdown = true) (ms : List Move) :
    let w := (s.move .wake).1
    w.turns ms ≤ w.work ∧
      ((w.run ms).1.activity = .stopped ∨ ∃ m, (w.run ms).1.isTurn m = true) ∧
      ((w.run ms).1.activity.task? = none → (w.run ms).1.Over ∧
        (w.run ms).2.countP Entry.isDeinit = s.file.isSome.toNat ∧
        (w.run ms).2.countP Entry.isFileEnd = s.file.isSome.toNat) := by
  intro w
  have hw : w.Lawful := (s.step_move .wake).lawful hs
  have hl : w.Leaving := leaving_of_wake hasleep hshut
  obtain ⟨hturns, hgoes⟩ := hl.turns_le hw ms
  refine ⟨hturns, hgoes, fun hrest => ?_⟩
  have hover := (lawful_run hw ms).over ((leaving_run hw hl ms).1.stopped hrest)
  have hstage : w.fileStage = s.restStage := by
    show (s.move .wake).1.fileStage = _
    rw [move_wake_disabled hasleep (isEnabled_of_shutdown hshut)]
    rfl
  have hcloses := hl.closes hw (hstage ▸ s.restStage_ne_asked) hrest
  rw [hstage, restStage] at hcloses
  refine ⟨hover, ?_⟩
  cases hfile : s.file <;> simpa [hfile, FileStage.unfinished, FileStage.unended] using hcloses

end Stream

end CameraRecorder

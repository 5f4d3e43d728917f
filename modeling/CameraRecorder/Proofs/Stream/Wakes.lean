import CameraRecorder.Proofs.Stream.Flow

/-!
# What a wake may do

Whether a stream was enabled when a wake began decides what the wake may do: only a wake that began
enabled names and opens files, and only one that began disabled throws out what is left in the lanes
(`Stream.Suited`). The entries of a move tell which move it was and what the worker was doing
(`Stream.Makes`). How often the stream was stopped is read off the journal, and so is whether the
last wake began enabled (`lastWoken`).
-/

namespace CameraRecorder

/-- Whether an entry tells of a stop. -/
def Entry.isStop : Entry → Bool
  | .disabled | .shutDown => true
  | _ => false

/-- Whether an entry tells that a frame was taken in, or made room for one. -/
def Entry.isAdmission : Entry → Bool
  | .accepted .. | .evicted _ => true
  | _ => false

/-- Whether a wake may go on so after it has closed its file. `en` tells whether it began
enabled. -/
def Resumption.suits (en : Bool) : Resumption → Bool
  | take | handle _ => en
  | reopen _ => true
  | retire => !en

/-- Whether a wake may do a task. `en` tells whether it began enabled. -/
def Task.suits (en : Bool) : Task → Bool
  | naming .. | creating .. | beginning _ | askingKeyFrame => en
  | retiring => !en
  | closing next => next.suits en
  | trailing _ _ next => next.suits en
  | finishing next => next.suits en
  | publishing next => next.suits en
  | ending next => next.suits en
  | taking | handling _ | opening _ | collecting | writingVideo _ | writingAudio _
  | askingThumbnail => true

/-! ## Wakes in the journal -/

/-- Whether the wake that an entry tells of began enabled. -/
def Entry.woken? : Entry → Option Bool
  | .woken en => some en
  | _ => none

/-- Whether the last wake began enabled. -/
def lastWoken (es : List Entry) : Option Bool := (es.filterMap Entry.woken?).getLast?

theorem lastWoken_append_quiet {es es' : List Entry} (h : es'.filterMap Entry.woken? = []) :
    lastWoken (es ++ es') = lastWoken es := by
  rw [lastWoken, List.filterMap_append, h, List.append_nil]
  rfl

theorem lastWoken_append_wake (es : List Entry) (en : Bool) :
    lastWoken (es ++ [.woken en]) = some en := by
  simp [lastWoken, List.filterMap_append, Entry.woken?]

theorem lastWoken_eq_none {es : List Entry} (h : lastWoken es = none) :
    es.filterMap Entry.woken? = [] :=
  List.getLast?_eq_none_iff.mp h

/-- The last wake of the later part is the last one. -/
theorem lastWoken_append_some (es : List Entry) {es' : List Entry} {en : Bool}
    (h : lastWoken es' = some en) : lastWoken (es ++ es') = some en := by
  unfold lastWoken at h ⊢
  rw [List.filterMap_append, List.getLast?_append, h]
  rfl

namespace Stream

variable {s s' : Stream} {m : Move} {es : List Entry}

/-! ## Switches -/

/-- Whether a move turns the switches of the stream. -/
def Move.isSwitch : Move → Bool
  | .start | .stop | .shutDown => true
  | _ => false

/-- The switches of a stream, and how often it was stopped. -/
def switches (s : Stream) : Bool × Bool × Nat := (s.enabled, s.shutdown, s.stops)

theorem isEnabled_of_switches (h : s'.switches = s.switches) : s'.isEnabled = s.isEnabled := by
  rw [isEnabled, isEnabled, show s'.enabled = s.enabled from congrArg (·.1) h,
    show s'.shutdown = s.shutdown from congrArg (·.2.1) h]

@[simp] theorem switches_setLane (s : Stream) (l : Lane) (kind : LaneKind) :
    (s.setLane l kind).switches = s.switches := by
  cases kind <;> rfl

@[simp] theorem isEnabled_setLane (s : Stream) (l : Lane) (kind : LaneKind) :
    (s.setLane l kind).isEnabled = s.isEnabled :=
  isEnabled_of_switches (s.switches_setLane l kind)

@[simp] theorem stops_setLane (s : Stream) (l : Lane) (kind : LaneKind) :
    (s.setLane l kind).stops = s.stops := by
  cases kind <;> rfl

@[simp] theorem isInterrupted_setLane (s : Stream) (l : Lane) (kind : LaneKind) :
    (s.setLane l kind).isInterrupted = s.isInterrupted := by
  cases kind <;> rfl

/-- The switches are turned by nothing else. -/
theorem Step.switches (h : Step s m s' es) (hm : m.isSwitch = false) :
    s'.switches = s.switches := by
  cases h with
  | start | stop | shutDown => cases hm
  | accept | displace => exact switches_setLane ..
  | take _ htake _ | takeInterrupted _ htake _ =>
    obtain ⟨l, l', -, rfl⟩ := takeFrame?_eq_some htake
    exact switches_setLane ..
  | sleep | closeLast | turnIdle | collect =>
    obtain ⟨waiting, kept, h⟩ := s.exists_collectThumbnail
    rw [h]
    rfl
  | appendTrailer | finishBare =>
    obtain ⟨waiting, kept, h⟩ := s.exists_latchThumbnail
    rw [h]
    rfl
  | _ => rfl

/-- A stream that was shut down stays so. -/
theorem Step.shutdown (h : Step s m s' es) (hshut : s.shutdown = true) : s'.shutdown = true := by
  cases hm : m.isSwitch with
  | false => exact (congrArg (·.2.1) (h.switches hm)).trans hshut
  | true =>
    cases h with
    | start | stop | idle => exact hshut
    | shutDown => rfl
    | accept hsubmit => rcases hsubmit with rfl | rfl <;> cases hm
    | _ => cases hm

theorem isEnabled_of_shutdown (hshut : s.shutdown = true) : s.isEnabled = false := by
  simp [isEnabled, hshut]

/-- A disabled stream stays so until it is started. -/
theorem Step.isEnabled_eq_false (h : Step s m s' es) (hm : m ≠ .start)
    (hen : s.isEnabled = false) : s'.isEnabled = false := by
  cases hswitch : m.isSwitch with
  | false => exact (isEnabled_of_switches (h.switches hswitch)).trans hen
  | true =>
    cases h with
    | start => exact absurd rfl hm
    | idle => exact hen
    | stop | shutDown => rfl
    | accept hsubmit => rcases hsubmit with rfl | rfl <;> cases hswitch
    | _ => cases hswitch

/-- Whatever is no stop leaves a stream enabled, and stopped as often as it was. -/
theorem Step.stays (h : Step s m s' es) (hm : m ≠ .stop ∧ m ≠ .shutDown) :
    s'.stops = s.stops ∧ (s.isEnabled = true → s'.isEnabled = true) := by
  cases hswitch : m.isSwitch with
  | false =>
    have hsame := h.switches hswitch
    exact ⟨congrArg (·.2.2) hsame, fun hen => (isEnabled_of_switches hsame).trans hen⟩
  | true =>
    cases h with
    | start =>
      exact ⟨rfl, fun hen => Bool.and_eq_true_iff.mpr ⟨rfl, (Bool.and_eq_true_iff.mp hen).2⟩⟩
    | stop => exact absurd rfl hm.1
    | shutDown => exact absurd rfl hm.2
    | idle => exact ⟨rfl, id⟩
    | accept hsubmit => rcases hsubmit with rfl | rfl <;> cases hswitch
    | _ => cases hswitch

/-- A stop is counted, and told of. -/
theorem Step.of_stop (h : Step s m s' es) (hm : m = .stop ∨ m = .shutDown) :
    s' = s ∧ es = [] ∨ s'.stops = s.stops + 1 ∧ es.countP Entry.isStop = 1 := by
  cases h with
  | idle => exact .inl ⟨rfl, rfl⟩
  | stop | shutDown => exact .inr ⟨rfl, rfl⟩
  | accept hsubmit => rcases hsubmit with rfl | rfl <;> rcases hm with hm | hm <;> cases hm
  | _ => rcases hm with hm | hm <;> cases hm

/-- Unless a stop is told of, a stream stays enabled and is stopped no more often. -/
theorem Step.stays_of_unstopped (h : Step s m s' es) (hes : ∀ e ∈ es, e.isStop = false) :
    s'.stops = s.stops ∧ (s.isEnabled = true → s'.isEnabled = true) := by
  by_cases hm : m = .stop ∨ m = .shutDown
  · rcases h.of_stop hm with ⟨rfl, -⟩ | ⟨-, hcount⟩
    · exact ⟨rfl, id⟩
    · have hnone : es.countP Entry.isStop = 0 :=
        List.countP_eq_zero.mpr fun e he => by simp [hes e he]
      rw [hnone] at hcount
      cases hcount
  · exact h.stays (not_or.mp hm)

/-! ## Entries -/

/-- What is known when a move makes an entry, `es` being all that it makes. -/
def Makes (s : Stream) (m : Move) (es : List Entry) : Entry → Prop
  | .accepted .. | .evicted _ => s.isEnabled = true ∧ m.isSwitch = false
  | .discarded kind _ => kind = .thumbnail ∨ ∃ en, s.activity = .awake en .retiring
  | .disabled => m = .stop
  | .shutDown => m = .shutDown
  | .woken en => m = .wake ∧ s.activity = .asleep ∧ en = s.isEnabled
  | .init format path video audio => ∃ request name en ticket generation,
    m = .named request (.ok name) ∧ s.activity = .awake en (.naming ticket generation) ∧
      es = (request.map fun r => Entry.names r.1 r.2).toList ++ [.init format path video audio]
  | .video ticket => es = [.video ticket] ∧ ∃ en, s.activity = .awake en (.beginning ticket) ∨
    s.activity = .awake en (.handling (.video ticket)) ∧
      ∃ file, s.file = some file ∧ s.splits file ticket.frame = false
  | .audio ticket => es = [.audio ticket] ∧
    ∃ en, s.activity = .awake en (.handling (.audio ticket)) ∧ s.file.isSome = true
  | _ => True

theorem makes_of_isSnapshot {e : Entry} (h : e.isSnapshot = true) : s.Makes m es e := by
  rcases Entry.eq_of_isSnapshot h with ⟨ticket, rfl⟩ | ⟨tickets, rfl⟩
  · trivial
  · exact .inl rfl

/-- **The entries of a move tell which move it was**, and what the worker was doing. -/
theorem Step.makes (h : Step s m s' es) : ∀ e ∈ es, s.Makes m es e := by
  cases h with
  | idle | split | tryOpen | loseAudio | loseDisabled | askName | loseNonKey | asked | resume =>
    nofun
  | start => exact List.forall_mem_cons.mpr ⟨trivial, List.forall_mem_singleton.mpr trivial⟩
  | stop => exact List.forall_mem_cons.mpr ⟨rfl, List.forall_mem_singleton.mpr trivial⟩
  | shutDown => exact List.forall_mem_singleton.mpr rfl
  | accept hm hen _ _ =>
    refine List.forall_mem_singleton.mpr ⟨hen, ?_⟩
    rcases hm with rfl | rfl <;> rfl
  | displace hen _ _ _ _ _ =>
    exact List.forall_mem_cons.mpr ⟨⟨hen, rfl⟩, List.forall_mem_singleton.mpr ⟨hen, rfl⟩⟩
  | wake h _ => exact List.forall_mem_singleton.mpr ⟨rfl, h, rfl⟩
  | wakeInterrupted h hen _ => exact List.forall_mem_singleton.mpr ⟨rfl, h, hen.symm⟩
  | sleep | closeLast | turnIdle | collect =>
    exact fun e he => makes_of_isSnapshot (s.isSnapshot_collectThumbnail e he)
  | appendTrailer | finishBare =>
    exact List.forall_mem_append.mpr ⟨fun e he =>
      makes_of_isSnapshot (s.isSnapshot_latchThumbnail e he), List.forall_mem_singleton.mpr trivial⟩
  | take | takeInterrupted | create | fail | askKeyFrame =>
    exact List.forall_mem_singleton.mpr trivial
  | writeVideo h hfile hsplit =>
    exact List.forall_mem_singleton.mpr ⟨rfl, _, .inr ⟨h, _, hfile, hsplit⟩⟩
  | writeAudio h hfile =>
    exact List.forall_mem_singleton.mpr ⟨rfl, _, h, Option.isSome_of_eq_some hfile⟩
  | begin h => exact List.forall_mem_singleton.mpr ⟨rfl, _, .inl h⟩
  | retire h =>
    exact s.forall_mem_retire fun _ _ => .inr ⟨_, h⟩
  | name h =>
    exact List.forall_mem_append.mpr ⟨forall_mem_optional _ fun _ => trivial,
      List.forall_mem_singleton.mpr ⟨_, _, _, _, _, rfl, h, rfl⟩⟩
  | nameless | misnamed | videoWritten | videoStray | audioWritten | publish | tellEnd =>
    exact forall_mem_optional _ fun _ => trivial
  | askThumbnail | finish =>
    exact List.forall_mem_append.mpr ⟨forall_mem_optional _ fun _ => trivial,
      List.forall_mem_singleton.mpr trivial⟩

/-- A frame is handed over alone, and was in hand. -/
theorem Step.of_hands (h : Step s m s' es) {e : Entry} (he : e ∈ es) {x : Item}
    (hx : e.hands? = some x) :
    es = [e] ∧ ∃ en task, s.activity = .awake en task ∧ task.inHand = [x] ∧
      task.resumption? = none := by
  have hmakes := h.makes e he
  unfold Entry.hands? at hx
  split at hx
  · cases hx
    obtain ⟨rfl, en, hact | ⟨hact, -⟩⟩ := hmakes
    · exact ⟨rfl, _, _, hact, rfl, rfl⟩
    · exact ⟨rfl, _, _, hact, rfl, rfl⟩
  · cases hx
    obtain ⟨rfl, en, hact, -⟩ := hmakes
    exact ⟨rfl, _, _, hact, rfl, rfl⟩
  · cases hx

/-- In a run's journal, the handing over of a frame stands between what was run before and what is
run after. -/
theorem exists_handing {ms : List Move} {e : Entry} {x : Item} {pre post : List Entry}
    (h : (s.run ms).2 = pre ++ e :: post) (hx : e.hands? = some x) :
    ∃ ms₁ m ms₂, ms = ms₁ ++ m :: ms₂ ∧ pre = (s.run ms₁).2 ∧
      ((s.run ms₁).1.move m).2 = [e] ∧ post = (((s.run ms₁).1.move m).1.run ms₂).2 :=
  exists_lone_move (fun s m he => ((s.step_move m).of_hands he hx).1) h

/-- A stop is told of exactly when there is one. -/
theorem Step.stops (h : Step s m s' es) : s'.stops = s.stops + es.countP Entry.isStop := by
  by_cases hm : m = .stop ∨ m = .shutDown
  · rcases h.of_stop hm with ⟨rfl, rfl⟩ | ⟨hstops, hcount⟩
    · rfl
    · rw [hstops, hcount]
  · have hnone : es.countP Entry.isStop = 0 := by
      refine List.countP_eq_zero.mpr fun e he hstop => hm ?_
      have hmakes := h.makes e he
      unfold Entry.isStop at hstop
      split at hstop
      · exact .inl hmakes
      · exact .inr hmakes
      · cases hstop
    rw [hnone]
    exact (h.stays (not_or.mp hm)).1

/-- How often a stream was stopped is read off its journal. -/
theorem stops_run (s : Stream) (ms : List Move) :
    (s.run ms).1.stops = s.stops + (s.run ms).2.countP Entry.isStop := by
  induction ms generalizing s with
  | nil => rfl
  | cons m ms ih =>
    rw [run_cons, List.countP_append, ih, (s.step_move m).stops, Nat.add_assoc]

/-- What a disabled stream is offered is refused. -/
theorem Step.refuses (h : Step s m s' es) (hen : s.isEnabled = false) :
    ∀ e ∈ es, e.isAdmission = false := by
  intro e he
  by_contra hadmits
  have hmakes := h.makes e he
  unfold Entry.isAdmission at hadmits
  split at hadmits
  · rw [hmakes.1] at hen
    cases hen
  · rw [hmakes.1] at hen
    cases hen
  · exact hadmits rfl

/-- A disabled stream that is not started takes nothing in. -/
theorem refuses_run (hen : s.isEnabled = false) {ms : List Move} (hms : ∀ m ∈ ms, m ≠ .start) :
    (s.run ms).1.isEnabled = false ∧ ∀ e ∈ (s.run ms).2, e.isAdmission = false := by
  induction ms generalizing s with
  | nil => exact ⟨hen, nofun⟩
  | cons m ms ih =>
    have hstep := s.step_move m
    obtain ⟨hen', hrest⟩ := ih (hstep.isEnabled_eq_false (hms m (.head _)) hen)
      fun m' hm' => hms m' (.tail _ hm')
    refine ⟨hen', fun e he => ?_⟩
    rcases List.mem_append.mp he with he | he
    · exact hstep.refuses hen e he
    · exact hrest e he

/-! ## The wake under way -/

/-- The journal tells whether the wake under way began enabled. -/
def WokenAs (s : Stream) (journal : List Entry) : Prop :=
  ∀ en task, s.activity = .awake en task → lastWoken journal = some en

theorem Step.wokenAs (h : Step s m s' es) {journal : List Entry} (hw : s.WokenAs journal) :
    s'.WokenAs (journal ++ es) := by
  intro en task' hact'
  rcases h.same_wake hact' with ⟨task, hact⟩ | ⟨-, -, rfl, -⟩
  · -- a worker that is awake is not woken
    have hquiet : es.filterMap Entry.woken? = [] := by
      refine List.filterMap_eq_nil_iff.mpr fun e he => ?_
      have hmakes := h.makes e he
      unfold Entry.woken?
      split
      · cases hact.symm.trans hmakes.2.1
      · rfl
    rw [lastWoken_append_quiet hquiet]
    exact hw en task hact
  · exact lastWoken_append_wake journal en

theorem wokenAs_run {journal : List Entry} (hw : s.WokenAs journal) (ms : List Move) :
    (s.run ms).1.WokenAs (journal ++ (s.run ms).2) :=
  run_induction (P := fun journal s => s.WokenAs journal) (fun hmove h => hmove.wokenAs h) hw ms

theorem wokenAs_create (handle : StreamHandle) (config : StreamConfig) (ms : List Move) :
    ((create handle config).run ms).1.WokenAs ((create handle config).run ms).2 := by
  have hfirst : (create handle config).WokenAs [] := nofun
  exact wokenAs_run hfirst ms

/-! ## Tasks -/

/-- The task at hand is one that its wake may do. -/
def Suited (s : Stream) : Prop := ∀ en task, s.activity = .awake en task → task.suits en = true

theorem suited_create (handle : StreamHandle) (config : StreamConfig) :
    (create handle config).Suited := nofun

theorem Suited.of_task {en : Bool} {task : Task} (h : s.activity = .awake en task)
    (htask : task.suits en = true) : s.Suited := by
  intro en' task' h'
  cases h.symm.trans h'
  exact htask

/-- A wake turns to tasks that it may do. -/
theorem Step.suited (h : Step s m s' es) (hs : s.Suited) : s'.Suited := by
  intro en task' hact'
  rcases h.comes_from hact' with hsame | ⟨task, hact, hleads⟩ | ⟨-, -, -, hen, rfl⟩
  · exact hs en task' hsame
  · have hbefore := hs en task hact
    cases hleads with
    | interrupt hen | closeLast hen _ | turnIdle hen _ | askKeyFrame hen | askName hen =>
      rw [hen]
      rfl
    | @resume next => cases next <;> first | rfl | exact hbefore
    | name | create | appendTrailer | finishBare | finish | publish | tellEnd => exact hbefore
    | _ => rfl
  · subst hen
    cases hen : s.isEnabled <;> cases hi : s.isInterrupted <;> rfl

theorem suited_run (hs : s.Suited) (ms : List Move) : (s.run ms).1.Suited :=
  run_invariant Step.suited hs ms

/-! ## Rest -/

/-- The worker, its file and the lanes of a stream are as they were. -/
structure Rests (s s' : Stream) : Prop where
  activity : s'.activity = s.activity
  file : s'.file = s.file
  lane : ∀ kind, s'.lane? kind = s.lane? kind

theorem Rests.refl (s : Stream) : s.Rests s := ⟨rfl, rfl, fun _ => rfl⟩

theorem Rests.trans {s'' : Stream} (h : s.Rests s') (h' : s'.Rests s'') : s.Rests s'' :=
  ⟨h'.activity.trans h.activity, h'.file.trans h.file,
    fun kind => (h'.lane kind).trans (h.lane kind)⟩

theorem Rests.queue (h : s.Rests s') (kind : LaneKind) : s'.queue kind = s.queue kind := by
  rw [Stream.queue, Stream.queue, h.lane]

/-- A disabled stream rests until its worker is woken. -/
theorem Step.rests (h : Step s m s' es) (hrest : s.activity.task? = none)
    (hen : s.isEnabled = false) (hm : m = .wake → s.activity ≠ .asleep) : s.Rests s' := by
  rcases h.of_resting hrest with ⟨hasleep, hwake, -⟩ | ⟨hact, hfile, hlane⟩
  · exact absurd hasleep (hm hwake)
  · exact ⟨hact, hfile, hlane hen⟩

/-- A disabled stream rests as long as it is not started and its worker is not woken. -/
theorem rests_run (hrest : s.activity.task? = none) (hen : s.isEnabled = false) {ms : List Move}
    (hms : ∀ m ∈ ms, m ≠ .start ∧ m ≠ .wake) : s.Rests (s.run ms).1 := by
  induction ms generalizing s with
  | nil => exact .refl s
  | cons m ms ih =>
    have hstep := s.step_move m
    have hrests := hstep.rests hrest hen fun hwake => absurd hwake (hms m (.head _)).2
    refine hrests.trans (ih (by rw [hrests.activity]; exact hrest) ?_ fun m' hm' =>
      hms m' (.tail _ hm'))
    exact hstep.isEnabled_eq_false (hms m (.head _)).1 hen

/-- A worker that is woken on a disabled stream begins by taking frames. -/
theorem move_wake_disabled (hasleep : s.activity = .asleep) (hen : s.isEnabled = false) :
    s.move .wake = ({ s with activity := .awake false .taking }, [.woken false]) := by
  simp [move, wake, hasleep, hen, turnTo, callEntry?]

end Stream

end CameraRecorder

import CameraRecorder.Proofs.Stream.Generations
import CameraRecorder.Proofs.Stream.Order

/-!
# What is recorded after a restart

A frame that a stream takes in after a start is recorded in a file that was opened after the stop
before it, and is not thrown out: a wake that began enabled closes the file of another date before
it handles a frame (`Stream.DueAfter`), and only a wake that began disabled throws frames out. So
two things can go wrong: another stop before the frame is taken, and a start in the middle of a wake
that began disabled. That wake does not look at the date of its file, and empties the lanes at its
end, whether the stream is enabled by then or not.
-/

namespace CameraRecorder

namespace Stream

variable {s s' : Stream} {m : Move} {es : List Entry}

/-! ## Without a stop -/

/-- The stream is enabled, and so is the wake under way. -/
structure Unstopped (s : Stream) : Prop where
  isEnabled : s.isEnabled = true
  wake : ∀ en task, s.activity = .awake en task → en = true

theorem Step.unstopped (h : Step s m s' es) (hes : ∀ e ∈ es, e.isStop = false)
    (hu : s.Unstopped) : s'.Unstopped where
  isEnabled := (h.stays_of_unstopped hes).2 hu.isEnabled
  wake en task' hact' := by
    rcases h.same_wake hact' with ⟨task, hact⟩ | ⟨-, -, -, hen⟩
    · exact hu.wake en task hact
    · exact hen.symm.trans hu.isEnabled

/-- A stream that is not stopped throws no frame out. -/
theorem Unstopped.discarded (hu : s.Unstopped) (hs : s.Suited) (h : Step s m s' es)
    {kind : LaneKind} {ts : List Ticket} (hmem : .discarded kind ts ∈ es) : kind = .thumbnail := by
  rcases h.makes _ hmem with hthumb | ⟨en, hact⟩
  · exact hthumb
  · cases hu.wake en _ hact
    cases hs _ _ hact

/-! ## The date of the file for a frame in hand -/

/-- A wake that began enabled has a frame in hand for a file that was opened after `n` stops, or it
closes the file first. -/
def DueAfter (n : Nat) (s : Stream) : Prop :=
  ∃ task, s.activity = .awake true task ∧
    (task.resumption? = none → ∀ generation, s.generation? = some generation → n ≤ generation)

/-- When the end of a file was told, the file is gone. -/
theorem Step.of_ending (h : Step s m s' es) {en : Bool} {next : Resumption}
    (hact : s.activity = .awake en (.ending next)) :
    s'.activity = .awake en (.ending next) ∨
      s'.activity = .awake en next.task ∧ s'.generation? = none := by
  cases h with
  | idle | start | stop | shutDown | misnamed => exact .inl hact
  | accept | displace => exact .inl ((activity_setLane ..).trans hact)
  | @resume en' next' _ h =>
    cases hact.symm.trans h
    refine .inr ⟨by cases next <;> rfl, ?_⟩
    cases next <;> rfl
  | wake h _ | wakeInterrupted h _ _ | take h _ _ | takeInterrupted h _ _ | sleep h _
  | closeLast h _ _ | turnIdle h _ _ | split h _ _ | writeVideo h _ _ | tryOpen h _
  | writeAudio h _ | loseAudio h _ | loseDisabled h _ | askName h _ _ | askKeyFrame h _ _ _
  | loseNonKey h _ _ _ | collect h | appendTrailer h _ | finishBare h _ | retire h | name h
  | nameless h | create h _ | fail h | begin h | videoWritten h _ _ | askThumbnail h _ _
  | videoStray h _ | audioWritten h | finish h | publish h | tellEnd h => cases hact.symm.trans h
  | asked h htask => rcases htask with rfl | rfl <;> cases hact.symm.trans h

/-- As long as a frame is in hand, its file is of the same date, or one that is opened now. -/
theorem Step.dueAfter (h : Step s m s' es) (hs : s.Shaped) {n : Nat} (hn : n ≤ s.stops)
    (hdue : s.DueAfter n) (hhand : s'.inHand ≠ []) : s'.DueAfter n := by
  obtain ⟨task, hact, hgen⟩ := hdue
  obtain ⟨task', hact'⟩ : ∃ task', s'.activity = .awake true task' := by
    rcases h.goes_on hact with hgoes | ⟨-, -, -, hasleep⟩ | ⟨-, rfl⟩
    · exact hgoes
    · exact absurd (inHand_asleep hasleep) hhand
    · exact absurd (by rw [inHand, s.task?_retire]; rfl) hhand
  refine ⟨task', hact', fun hnext' generation hg => ?_⟩
  cases hnext : task.resumption? with
  | none =>
    rcases h.generation hs with hsame | hnone | ⟨hnow, -⟩
    · exact hgen hnext generation (hsame.symm.trans hg)
    · cases hnone.symm.trans hg
    · cases hnow.symm.trans hg
      exact hn
  | some next =>
    -- the file that was being closed is gone now
    rcases h.goes_on_closing hact hnext with ⟨task₁, h₁, hnext₁⟩ | ⟨rfl, -⟩
    · cases hact'.symm.trans h₁
      cases hnext'.symm.trans hnext₁
    · rcases h.of_ending hact with hsame | ⟨-, hnone⟩
      · cases hact'.symm.trans hsame
        cases hnext'
      · cases hnone.symm.trans hg

/-- A wake that began enabled takes a frame for a file of the present date. -/
theorem Step.dueAfter_of_taken (h : Step s m s' es) {n : Nat} (hn : n ≤ s.stops)
    (hu : s.Unstopped) {x : Item} (hx : x ∈ takenItems es) : s'.DueAfter n := by
  obtain ⟨en, pending, s₁, -, -, hact, htake, hs'⟩ := h.of_taken hx
  cases hu.wake en _ hact
  obtain ⟨l, l', -, rfl⟩ := takeFrame?_eq_some htake
  rcases hs' with ⟨hi, rfl⟩ | ⟨-, -, rfl⟩
  · refine ⟨_, rfl, fun _ generation hg => ?_⟩
    rw [isInterrupted_setLane, Bool.true_and, isInterrupted] at hi
    rw [generation?_awake rfl, file_setLane] at hg
    obtain ⟨f, hfile, rfl⟩ := Option.map_eq_some_iff.mp hg
    rw [hfile] at hi
    have hdate : f.generation = s.stops := by simpa using hi
    omega
  · exact ⟨_, rfl, nofun⟩

/-- What is known some time after `n` stops, with the entries since then. The frames of `hand` were
in hand at the time. -/
structure Recent (n : Nat) (hand : List Item) (s : Stream) (es : List Entry) : Prop where
  shaped : s.Shaped
  stops : n ≤ s.stops
  unstopped : (∀ e ∈ es, e.isStop = false) → s.Unstopped
  due : ∀ x ∈ s.inHand, x ∈ hand ∨ ∃ pre post, es = pre ++ .taken x.lane x.ticket :: post ∧
    ((∀ e ∈ pre, e.isStop = false) → s.DueAfter n)

theorem Step.recent (h : Step s m s' es) {n : Nat} {hand : List Item} {since : List Entry}
    (hr : Recent n hand s since) : Recent n hand s' (since ++ es) where
  shaped := h.shaped hr.shaped
  stops := by
    rw [h.stops]
    exact Nat.le_add_right_of_le hr.stops
  unstopped hes :=
    h.unstopped (fun e he => hes e (List.mem_append_right _ he))
      (hr.unstopped fun e he => hes e (List.mem_append_left _ he))
  due x hx := by
    have hne : s'.inHand ≠ [] := List.ne_nil_of_mem hx
    rcases h.hand with hkeeps | ⟨-, -, -, hnone⟩
    · have hx : x ∈ s.inHand ++ takenItems es := hkeeps ▸ List.mem_append_right _ hx
      rcases List.mem_append.mp hx with hx | hx
      · refine (hr.due x hx).imp_right ?_
        rintro ⟨pre, post, rfl, hdue⟩
        exact ⟨pre, post ++ es, by simp, fun hpre =>
          h.dueAfter hr.shaped hr.stops (hdue hpre) hne⟩
      · refine .inr ⟨since, [], ?_, fun hpre =>
          h.dueAfter_of_taken hr.stops (hr.unstopped hpre) hx⟩
        obtain ⟨en, pending, s₁, rfl, hes, -⟩ := h.of_taken hx
        rw [hes]
        rfl
    · exact absurd hnone hne

theorem recent_run (hs : s.Shaped) (hu : s.Unstopped) (ms : List Move) :
    Recent s.stops s.inHand (s.run ms).1 (s.run ms).2 := by
  have hfirst : Recent s.stops s.inHand s [] :=
    ⟨hs, Nat.le_refl _, fun _ => hu, fun _ hx => .inl hx⟩
  exact run_induction (P := fun es s' => Recent s.stops s.inHand s' es)
    (fun hmove hr => hmove.recent hr) hfirst ms

/-! ## The frame that was taken in -/

theorem queue_create (handle : StreamHandle) (config : StreamConfig) (kind : LaneKind) :
    (create handle config).queue kind = [] := by
  cases kind with
  | video | thumbnail => rfl
  | audio =>
    unfold queue lane? create
    cases config.audio <;> rfl

/-- A stream that takes a frame in is enabled, and stays so. -/
theorem Step.unstopped_of_accepted (h : Step s m s' es) {kind : LaneKind} {t : Ticket}
    (hacc : .accepted kind t ∈ es) (hwake : ∀ task, s.activity ≠ .awake false task) :
    s'.Unstopped := by
  obtain ⟨hen, hm⟩ := h.makes _ hacc
  refine h.unstopped (fun e he => ?_) ⟨hen, fun en task hact => ?_⟩
  · have hmakes := h.makes e he
    cases e with
    | disabled | shutDown =>
      rw [show m = _ from hmakes] at hm
      cases hm
    | _ => rfl
  · cases en with
    | true => rfl
    | false => exact absurd hact (hwake task)

/-- A frame is not in hand when it is taken in. -/
theorem not_mem_inHand_of_accepted (handle : StreamHandle) (config : StreamConfig)
    (before : List Move) {kind : LaneKind} {t : Ticket}
    (hacc : .accepted kind t ∈ (((create handle config).run before).1.move m).2) :
    ⟨kind, t⟩ ∉ ((create handle config).run (before ++ [m])).1.inHand := by
  intro hhand
  have hstep := ((create handle config).run before).1.step_move m
  have hsub := (create handle config).handed_sublist (before ++ [m])
  obtain ⟨hlanes, hsteps⟩ := buffers_run (lanesSound_create handle config) before
  have htaken : ⟨kind, t⟩ ∈ takenItems ((create handle config).run (before ++ [m])).2 :=
    hsub.subset (List.mem_append_right _ hhand)
  rw [run_append, takenItems_append] at htaken
  rcases List.mem_append.mp htaken with htaken | htaken
  · -- whatever was taken before has an earlier number
    obtain ⟨e, he, htakes⟩ := List.mem_filterMap.mp htaken
    obtain ⟨rfl, -⟩ := Entry.takes?_eq_some htakes
    rcases hsteps.mem_of_taken he with hqueued | hacc'
    · rw [show (create handle config).buffers.queue kind = [] from queue_create ..] at hqueued
      cases hqueued
    · have hlt := (hsteps.arrival_of_accepted hacc').2
      have hle := ((hstep.buffers hlanes).2.arrival_of_accepted hacc).1
      exact absurd hle (Nat.not_le.mpr hlt)
  · rw [run_cons, run_nil, List.append_nil] at htaken
    obtain ⟨en, pending, s₁, -, hes, -⟩ := hstep.of_taken htaken
    rw [hes] at hacc
    simp at hacc

/-- The file that a frame is handed over for is open. -/
theorem Step.exists_generation_of_hands (h : Step s m s' es) (hs : s.Shaped) {e : Entry}
    (he : e ∈ es) {x : Item} (hx : e.hands? = some x) :
    s.fileStage ≠ .closed ∧ ∃ generation, s.generation? = some generation := by
  have hopen {en : Bool} {task : Task} {f : OpenFile} (hact : s.activity = .awake en task)
      (hstage : task.stage? = none) (hgen : task.generation? = none) (hfile : s.file = some f) :
      s.fileStage ≠ .closed ∧ ∃ generation, s.generation? = some generation := by
    refine ⟨?_, f.generation, ?_⟩
    · rw [fileStage_open hact hstage (Option.isSome_of_eq_some hfile)]
      nofun
    · rw [generation?_awake hact, hgen, hfile]
      rfl
  have hmakes := h.makes e he
  unfold Entry.hands? at hx
  split at hx
  · obtain ⟨-, en, hact | ⟨hact, f, hfile, -⟩⟩ := hmakes
    · obtain ⟨f, hfile⟩ := hs.exists_file hact rfl
      exact hopen hact rfl rfl hfile
    · exact hopen hact rfl rfl hfile
  · obtain ⟨-, en, hact, hsome⟩ := hmakes
    obtain ⟨f, hfile⟩ := Option.isSome_iff_exists.mp hsome
    exact hopen hact rfl rfl hfile
  · cases hx

/-- **What is taken in after a restart is recorded in a new file.** A video or audio frame is taken
in while no wake is under way that began disabled. When it is handed over, it was taken out of its
lane before; and if the stream was not stopped until then, the file that the writer was asked to
open last, and that the frame is handed over for, was opened after every stop that came before the
frame. And nothing is thrown out of the lane until the stream is stopped. -/
theorem restart_records (handle : StreamHandle) (config : StreamConfig)
    (before after : List Move) {m : Move} {kind : LaneKind} {t : Ticket}
    (hkind : kind ≠ .thumbnail)
    (hwake : ∀ task, ((create handle config).run before).1.activity ≠ .awake false task)
    (hacc : .accepted kind t ∈ (((create handle config).run before).1.move m).2) :
    let journal := ((create handle config).run (before ++ [m])).2
    let es := (((create handle config).run (before ++ [m])).1.run after).2
    (∀ pre e post, es = pre ++ e :: post → e.hands? = some ⟨kind, t⟩ →
      ∃ pre₁ pre₂, pre = pre₁ ++ .taken kind t :: pre₂ ∧ ((∀ e ∈ pre₁, e.isStop = false) →
        OpenedAfter (journal.countP Entry.isStop) (journal ++ pre))) ∧
    (∀ pre ts post, es = pre ++ .discarded kind ts :: post → ∃ e ∈ pre, e.isStop = true) := by
  intro journal es
  let s := ((create handle config).run (before ++ [m])).1
  have hmove : s = (((create handle config).run before).1.move m).1 := by
    show ((create handle config).run (before ++ [m])).1 = _
    rw [run_append]
    rfl
  have hu : s.Unstopped :=
    hmove ▸ (((create handle config).run before).1.step_move m).unstopped_of_accepted hacc hwake
  have hs : s.Shaped := shaped_run (shaped_create handle config) _
  have hstops : s.stops = journal.countP Entry.isStop := by
    rw [stops_run]
    exact Nat.zero_add _
  constructor
  · intro pre e post hes hx
    obtain ⟨ms₁, m', ms₂, rfl, rfl, hlone, -⟩ := exists_handing hes hx
    have hstep := (s.run ms₁).1.step_move m'
    have he : e ∈ ((s.run ms₁).1.move m').2 := by rw [hlone]; simp
    obtain ⟨-, en, task, hact, hhand, hnext⟩ := hstep.of_hands he hx
    have hrecent := recent_run hs hu ms₁
    have hmem : ⟨kind, t⟩ ∈ (s.run ms₁).1.inHand := by rw [inHand_awake hact, hhand]; simp
    obtain ⟨pre₁, pre₂, hpre, hdue⟩ := (hrecent.due _ hmem).resolve_left
      (not_mem_inHand_of_accepted handle config before hacc)
    refine ⟨pre₁, pre₂, hpre, fun hquiet => ?_⟩
    obtain ⟨task', hact', hgen⟩ := hdue hquiet
    cases hact.symm.trans hact'
    obtain ⟨hopen, generation, hg⟩ := hstep.exists_generation_of_hands hrecent.shaped he hx
    have hstamped := stamped_run handle config (before ++ [m] ++ ms₁)
    rw [run_append] at hstamped
    rw [← hstops]
    exact (hstamped.opened hopen generation hg).mono (hgen hnext generation hg)
  · intro pre ts post hes
    obtain ⟨ms₁, m', ms₂, es₁, es₂, rfl, hes₁, rfl, -⟩ := exists_move_of_entry hes
    by_contra hnone
    have hquiet : ∀ e ∈ (s.run ms₁).2, e.isStop = false := fun e he => by
      by_contra hstop
      exact hnone ⟨e, List.mem_append_left _ he, by simpa using hstop⟩
    have hu₁ := (recent_run hs hu ms₁).unstopped hquiet
    have hsuited : (s.run ms₁).1.Suited :=
      suited_run (suited_run (suited_create handle config) _) ms₁
    have hmem : .discarded kind ts ∈ ((s.run ms₁).1.move m').2 := by
      show _ ∈ ((((create handle config).run (before ++ [m])).1.run ms₁).1.move m').2
      rw [hes₁]
      simp
    exact hkind (hu₁.discarded hsuited ((s.run ms₁).1.step_move m') hmem)

/-- A key frame that does not end a file. -/
def laterKeyFrame : Frame := ⟨[3], 400000, true⟩

/-- A wake that closes the file that a stop interrupted, and opens the next with the frame that
waits. -/
def reopeningWake : List Move :=
  [.wake, .advance, .reply none, .reply none, .reply none, .advance, .advance, .advance,
    .named none (.ok ⟨[2]⟩), .reply none, .reply none]

/-- A frame that is taken in after a stop and a start is handed over for the next file. -/
theorem restart_records_next :
    let before := recordedOnce ++ [.stop, .start]
    let m := Move.submit .video laterKeyFrame
    let journal := ((create ⟨0, 0, 0⟩ secondLong).run (before ++ [m])).2
    let es := (((create ⟨0, 0, 0⟩ secondLong).run (before ++ [m])).1.run reopeningWake).2
    journal.countP Entry.isStop = 1 ∧ es.getLast? = some (.video ⟨1, laterKeyFrame⟩) ∧
      OpenedAfter 1 (journal ++ es.dropLast) := by
  intro before m journal es
  have hasleep : ((create ⟨0, 0, 0⟩ secondLong).run before).1.activity = .asleep := by decide
  have hacc : Entry.accepted .video ⟨1, laterKeyFrame⟩ ∈
      (((create ⟨0, 0, 0⟩ secondLong).run before).1.move m).2 := by decide
  have hrecords := restart_records ⟨0, 0, 0⟩ secondLong before reopeningWake (by decide)
    (fun task hact => by cases hasleep.symm.trans hact) hacc
  obtain ⟨pre₁, pre₂, hpre, hopened⟩ :=
    hrecords.1 es.dropLast (.video ⟨1, laterKeyFrame⟩) [] (by decide) rfl
  refine ⟨by decide, by decide, hopened fun e he => ?_⟩
  have hquiet : ∀ e ∈ es.dropLast, e.isStop = false := by decide
  exact hquiet e (hpre ▸ List.mem_append_left _ he)

/-- The stream is stopped, and started again while the wake that closes its file writes the last
frame. -/
def startedWhileWriting : List Move :=
  recordedOnce ++ [.submit .video ⟨[2], 200000, false⟩, .stop, .wake, .advance, .advance, .start]

/-- The stream is stopped, and started again when the wake that closes its file tells of the end. -/
def startedWhileEnding : List Move :=
  recordedOnce ++ [.stop, .wake, .advance, .advance, .reply none, .reply none, .start]

/-- If the stream is started in the middle of a wake that began disabled, a frame that is taken in
then can be handed over for the file that the stop interrupted, or be thrown out, although there is
no other stop. -/
theorem restart_in_disabled_wake :
    (¬ ∀ (handle : StreamHandle) (config : StreamConfig) (before after : List Move) (m : Move)
        (kind : LaneKind) (t : Ticket), kind ≠ .thumbnail →
      .accepted kind t ∈ (((create handle config).run before).1.move m).2 →
      let journal := ((create handle config).run (before ++ [m])).2
      let es := (((create handle config).run (before ++ [m])).1.run after).2
      ∀ pre e post, es = pre ++ e :: post → e.hands? = some ⟨kind, t⟩ →
        OpenedAfter (journal.countP Entry.isStop) (journal ++ pre)) ∧
    ¬ ∀ (handle : StreamHandle) (config : StreamConfig) (before after : List Move) (m : Move)
        (kind : LaneKind) (t : Ticket), kind ≠ .thumbnail →
      .accepted kind t ∈ (((create handle config).run before).1.move m).2 →
      let es := (((create handle config).run (before ++ [m])).1.run after).2
      ∀ pre ts post, es = pre ++ .discarded kind ts :: post → t ∈ ts →
        ∃ e ∈ pre, e.isStop = true := by
  constructor
  · intro hclean
    have hopened := hclean ⟨0, 0, 0⟩ secondLong startedWhileWriting
      [.reply none, .advance, .advance, .advance] (.submit .video laterKeyFrame) .video
      ⟨2, laterKeyFrame⟩ nofun (by decide)
      [.discarded .thumbnail [], .taken .video ⟨2, laterKeyFrame⟩] (.video ⟨2, laterKeyFrame⟩) []
      (by decide) rfl
    exact absurd hopened.le_countP (by decide)
  · intro hkept
    have hstopped := hkept ⟨0, 0, 0⟩ secondLong startedWhileEnding [.reply none, .advance]
      (.submit .video laterKeyFrame) .video ⟨1, laterKeyFrame⟩ nofun (by decide)
      [] [⟨1, laterKeyFrame⟩] [.discarded .thumbnail []] (by decide) (by simp)
    simp at hstopped

end Stream

end CameraRecorder

import CameraRecorder.Proofs.Stream.Stretch

/-!
# Recording without gaps

Once a wake that began enabled has taken a key frame, nothing is lost for as long as the stream is
not stopped and files can be opened: the worker then has a live file, or is about to open one with
a key frame in hand (`Stream.Steady`). Before that, as long as there is no live file, nothing is
handed over (`Stream.Waiting`). A wake that began disabled opens no file, whatever happens while it
lasts, so a key frame that it takes may be lost although the stream was started in the meantime.
-/

namespace CameraRecorder

/-- Whether the frame may open a file. -/
def Pending.opens : Pending → Bool
  | video ticket => ticket.frame.isKey
  | audio _ => false

/-- Whether a frame that may open a file is kept for when the file is closed. -/
def Resumption.opens : Resumption → Bool
  | handle pending => pending.opens
  | reopen ticket => ticket.frame.isKey
  | take | retire => false

namespace Stream

variable {s s' : Stream} {m : Move} {es : List Entry}

/-! ## After a key frame -/

/-- Whether a task records the frames that come, or is about to. -/
def records (s : Stream) : Task → Bool
  | .handling pending => s.isLive || s.file.isNone && pending.opens
  | .opening ticket => ticket.frame.isKey
  | .naming _ generation => generation = s.stops
  | .creating _ generation _ => generation = s.stops
  | .closing next => next.opens
  | .trailing _ _ next => next.opens
  | .finishing next => next.opens
  | .publishing next => next.opens
  | .ending next => next.opens
  | .taking | .collecting | .beginning _ | .writingVideo _ | .writingAudio _ | .askingThumbnail =>
    s.isLive
  | .askingKeyFrame | .retiring => false

/-- What holds from the moment a wake that began enabled has taken a key frame. -/
structure Steady (s : Stream) : Prop where
  enabled : s.isEnabled = true
  activity : s.activity = .asleep ∧ s.isLive = true ∨
    ∃ task, s.activity = .awake true task ∧ s.records task = true

theorem Steady.records_of_task (hst : s.Steady) {en : Bool} {task : Task}
    (h : s.activity = .awake en task) : en = true ∧ s.records task = true := by
  rcases hst.activity with ⟨hasleep, -⟩ | ⟨task', h', hrec⟩
  · cases h.symm.trans hasleep
  · cases h.symm.trans h'
    exact ⟨rfl, hrec⟩

theorem Steady.isLive_of_asleep (hst : s.Steady) (h : s.activity = .asleep) : s.isLive = true := by
  rcases hst.activity with ⟨-, hlive⟩ | ⟨task, h', -⟩
  · exact hlive
  · cases h.symm.trans h'

/-- Nothing is lost. -/
theorem Steady.not_loses (hst : s.Steady) (hm : s.disturbs m = false) : s.loses m = false := by
  rcases hst.activity with ⟨h, -⟩ | ⟨task, h, hrec⟩
  · cases m with
    | named request result => cases result <;> simp [loses, h]
    | reply error => cases error <;> simp [loses, h]
    | _ => simp [loses, h]
  · cases m with
    | advance =>
      cases task with
      | handling pending =>
        cases pending with
        | video ticket => simp [loses, h]
        | audio ticket =>
          have hlive : s.isLive = true := by simpa [records, Pending.opens] using hrec
          rw [isLive_eq] at hlive
          simp [loses, h, (Bool.and_eq_true_iff.mp hlive).1]
      | opening ticket =>
        have hkey : ticket.frame.isKey = true := hrec
        simp [loses, h, hst.enabled, hkey]
      | _ => simp [loses, h]
    | named request result =>
      cases result with
      | ok path => simp [loses]
      | error e => cases task <;> simp_all [loses, disturbs, Activity.task?]
    | reply error =>
      cases error with
      | none => simp [loses]
      | some cause => cases task <;> simp_all [loses, disturbs, Activity.task?]
    | _ => simp [loses]

theorem Steady.of_task {task : Task} (hen : s.isEnabled = true) (h : s.activity = .awake true task)
    (hrec : s.records task = true) : s.Steady :=
  ⟨hen, .inr ⟨task, h, hrec⟩⟩

/-- **Recording goes on.** -/
theorem Step.steady (h : Step s m s' es) (hm : s.disturbs m = false) (hst : s.Steady) :
    s'.Steady := by
  have hen' := (h.stays (no_stop_of_undisturbed hm)).2 hst.enabled
  cases h with
  | idle | misnamed => exact hst
  | start => exact ⟨hen', hst.activity⟩
  | stop | shutDown => cases hm
  | @accept _ kind _ _ _ lane' | @displace kind _ _ _ _ _ lane' =>
    refine ⟨hen', ?_⟩
    have hrecords : ∀ task, (s.setLane lane' kind).records task = s.records task := by
      intro task
      cases task <;> simp [records]
    simpa [hrecords] using hst.activity
  | wake h _ =>
    have hlive := hst.isLive_of_asleep h
    rw [hst.enabled] at hen' ⊢
    exact .of_task hen' rfl hlive
  -- a live file was not interrupted by a stop
  | wakeInterrupted h _ hi =>
    have hlive := hst.isLive_of_asleep h
    rw [isLive_eq, hi] at hlive
    simp at hlive
  | @take en pending _ h htake hi =>
    obtain ⟨rfl, hlive⟩ := hst.records_of_task h
    obtain ⟨l, l', -, rfl⟩ := takeFrame?_eq_some htake
    have hlive : (s.setLane l' pending.lane).isLive = true := (isLive_setLane ..).trans hlive
    exact .of_task hen' rfl (Bool.or_eq_true_iff.mpr (.inl hlive))
  | @takeInterrupted pending _ h htake hi =>
    obtain ⟨-, hlive⟩ := hst.records_of_task h
    obtain ⟨l, l', -, rfl⟩ := takeFrame?_eq_some htake
    have hlive : s.isLive = true := hlive
    rw [isInterrupted_setLane] at hi
    rw [isLive_eq, hi] at hlive
    simp at hlive
  | sleep h _ =>
    obtain ⟨-, hlive⟩ := hst.records_of_task h
    exact ⟨hen', .inl ⟨rfl, s.isLive_collectThumbnail.trans hlive⟩⟩
  | closeLast h _ _ | turnIdle h _ _ => cases (hst.records_of_task h).1
  -- what ends a file is a key frame, which opens the next one
  | @split en ticket file h hfile hsplit =>
    obtain ⟨rfl, -⟩ := hst.records_of_task h
    exact .of_task hen' rfl (Bool.and_eq_true_iff.mp hsplit).1
  | writeVideo h hfile _ | writeAudio h hfile =>
    obtain ⟨rfl, hrec⟩ := hst.records_of_task h
    have hlive : s.isLive = true := by simpa [records, hfile] using hrec
    exact .of_task hen' rfl hlive
  | tryOpen h hfile =>
    obtain ⟨rfl, hrec⟩ := hst.records_of_task h
    refine .of_task hen' rfl ?_
    simp only [records, isLive_none hfile, Bool.false_or, Bool.and_eq_true] at hrec
    exact hrec.2
  | loseAudio h hfile =>
    obtain ⟨-, hrec⟩ := hst.records_of_task h
    simp [records, isLive_none hfile, Pending.opens] at hrec
  | loseDisabled h hen =>
    obtain ⟨rfl, -⟩ := hst.records_of_task h
    simp [hst.enabled] at hen
  | askName h _ _ => exact .of_task hen' rfl (decide_eq_true rfl)
  | askKeyFrame h _ hkey _ | loseNonKey h _ hkey _ =>
    obtain ⟨-, hrec⟩ := hst.records_of_task h
    have hrec := hkey.symm.trans hrec
    cases hrec
  | collect h =>
    obtain ⟨rfl, hlive⟩ := hst.records_of_task h
    exact .of_task hen' rfl (s.isLive_collectThumbnail.trans hlive)
  | retire h => cases (hst.records_of_task h).2
  | nameless h => simp [disturbs, h, Activity.task?] at hm
  | fail h => simp [disturbs, h, Activity.task?] at hm
  | create h _ =>
    obtain ⟨rfl, hgen⟩ := hst.records_of_task h
    exact .of_task hen' rfl hgen
  | videoWritten h hfile _ | askThumbnail h hfile _ =>
    obtain ⟨rfl, hlive⟩ := hst.records_of_task h
    refine .of_task hen' rfl ?_
    have hlive : s.isLive = true := hlive
    rw [isLive, hfile] at hlive
    exact hlive
  | asked h htask =>
    rcases htask with rfl | rfl
    · cases (hst.records_of_task h).2
    · obtain ⟨rfl, hlive⟩ := hst.records_of_task h
      exact .of_task hen' rfl hlive
  -- the next task records for the same reason as the one before
  | appendTrailer h _ | finishBare h _ | name h | begin h | videoStray h _ | audioWritten h
  | finish h | publish h | tellEnd h =>
    obtain ⟨rfl, hrec⟩ := hst.records_of_task h
    exact .of_task hen' rfl hrec
  | @resume _ next _ h =>
    obtain ⟨rfl, hrec⟩ := hst.records_of_task h
    cases next with
    | take | retire => cases hrec
    | handle pending =>
      have hopens : pending.opens = true := hrec
      refine .of_task hen' rfl ?_
      simp [records, hopens]
    | reopen ticket => exact .of_task hen' rfl hrec

theorem Steady.run (hst : s.Steady) {ms : List Move} (hms : s.undisturbed ms = true) :
    (s.run ms).1.Steady ∧ s.KeepsCount (s.run ms).2 (s.run ms).1 := by
  induction ms generalizing s with
  | nil => exact ⟨hst, .refl s⟩
  | cons m ms ih =>
    obtain ⟨hm, hms⟩ := undisturbed_cons hms
    obtain ⟨hst', hrest⟩ := ih ((s.step_move m).steady hm hst) hms
    refine ⟨hst', ?_⟩
    rcases (s.step_move m).hand with hkeeps | ⟨hlost, -⟩
    · exact hkeeps.trans hrest
    · rw [hst.not_loses hm] at hlost
      cases hlost

/-- A key frame that is taken by a wake that began enabled begins the recording. -/
theorem Step.steady_of_taken (h : Step s m s' es) (hen : s.isEnabled = true) {ticket : Ticket}
    (hkey : ticket.frame.isKey = true) (hact : s.activity = .awake true .taking)
    (hx : ⟨.video, ticket⟩ ∈ takenItems es) : s'.Steady ∧ s'.inHand = [⟨.video, ticket⟩] := by
  obtain ⟨en, pending, s₁, hitem, -, h, htake, hs'⟩ := h.of_taken hx
  obtain rfl : pending = .video ticket := by
    cases pending with
    | video u => cases hitem; rfl
    | audio u => cases hitem
  cases hact.symm.trans h
  obtain ⟨l, l', -, rfl⟩ := takeFrame?_eq_some htake
  have hen₁ := (isEnabled_setLane s l' (Pending.video ticket).lane).trans hen
  rcases hs' with ⟨hi, rfl⟩ | ⟨-, -, rfl⟩
  · refine ⟨.of_task hen₁ rfl ?_, rfl⟩
    -- the file is live, or there is none
    have hrec : ((s.setLane l' (Pending.video ticket).lane).isLive ||
        (s.setLane l' (Pending.video ticket).lane).file.isNone && ticket.frame.isKey) = true := by
      have hi : (s.setLane l' (Pending.video ticket).lane).isInterrupted = false := hi
      rw [isLive_eq, hkey, hi]
      cases (s.setLane l' (Pending.video ticket).lane).file <;> rfl
    exact hrec
  · exact ⟨.of_task hen₁ rfl hkey, rfl⟩

/-! ## Audio frames -/

/-- An audio frame is taken for the file that is open. -/
theorem Steady.handles_audio (hst : s.Steady) (h : Step s m s' es) {ticket : Ticket}
    (hx : ⟨.audio, ticket⟩ ∈ takenItems es) :
    s'.activity = .awake true (.handling (.audio ticket)) ∧ s'.file.isSome = true := by
  obtain ⟨en, pending, s₁, hitem, -, h, htake, hs'⟩ := h.of_taken hx
  obtain rfl : pending = .audio ticket := by
    cases pending with
    | video u => cases hitem
    | audio u => cases hitem; rfl
  obtain ⟨rfl, hlive⟩ := hst.records_of_task h
  have hlive : s.isLive = true := hlive
  rw [isLive_eq, Bool.and_eq_true, Bool.not_eq_true'] at hlive
  obtain ⟨l, l', -, rfl⟩ := takeFrame?_eq_some htake
  rcases hs' with ⟨-, rfl⟩ | ⟨-, hi, -⟩
  · exact ⟨rfl, (congrArg Option.isSome (file_setLane ..)).trans hlive.1⟩
  · rw [isInterrupted_setLane, hlive.2] at hi
    cases hi

theorem Step.hands_audio (h : Step s m s' es) {en : Bool} {ticket : Ticket}
    (hact : s.activity = .awake en (.handling (.audio ticket))) (hfile : s.file.isSome = true) :
    es.find? Entry.isCall = some (.audio ticket) ∨
      es.find? Entry.isCall = none ∧ s'.activity = s.activity ∧ s'.file = s.file := by
  cases h with
  | writeAudio h _ =>
    cases hact.symm.trans h
    exact .inl rfl
  | loseAudio _ hnone =>
    rw [hnone] at hfile
    cases hfile
  | idle | start | stop | shutDown => exact .inr ⟨rfl, rfl, rfl⟩
  | @misnamed request _ => exact .inr ⟨by cases request <;> rfl, rfl, rfl⟩
  | accept | displace => exact .inr ⟨rfl, activity_setLane .., file_setLane ..⟩
  | asked h htask => rcases htask with rfl | rfl <;> cases hact.symm.trans h
  | wake h _ | wakeInterrupted h _ _ | take h _ _ | takeInterrupted h _ _ | sleep h _
  | closeLast h _ _ | turnIdle h _ _ | split h _ _ | writeVideo h _ _ | tryOpen h _
  | loseDisabled h _ | askName h _ _ | askKeyFrame h _ _ _ | loseNonKey h _ _ _ | collect h
  | appendTrailer h _ | finishBare h _ | retire h | name h | nameless h | create h _ | fail h
  | begin h | videoWritten h _ _ | askThumbnail h _ _ | videoStray h _ | audioWritten h
  | finish h | publish h | tellEnd h | resume h => cases hact.symm.trans h

/-- An audio frame that is about to be written is handed over before any other call is made. -/
theorem audio_first {en : Bool} {ticket : Ticket}
    (hact : s.activity = .awake en (.handling (.audio ticket))) (hfile : s.file.isSome = true)
    (ms : List Move) {e : Entry} (he : (s.run ms).2.find? Entry.isCall = some e) :
    e = .audio ticket := by
  induction ms generalizing s with
  | nil => cases he
  | cons m ms ih =>
    rw [run_cons, List.find?_append] at he
    rcases (s.step_move m).hands_audio hact hfile with hfind | ⟨hfind, hact', hfile'⟩
    · rw [hfind] at he
      exact (Option.some.inj he).symm
    · rw [hfind] at he
      exact ih (hact'.trans hact) (hfile' ▸ hfile) he

/-! ## Before a key frame -/

/-- Whether a task hands nothing over and opens no file. -/
def awaits (s : Stream) (en : Bool) : Task → Bool
  | .handling pending => s.file.isNone && !(en && pending.opens)
  | .opening ticket => !(en && ticket.frame.isKey)
  | .naming .. | .creating .. | .beginning _ => false
  | .closing next => !(en && next.opens)
  | .trailing _ _ next => !(en && next.opens)
  | .finishing next => !(en && next.opens)
  | .publishing next => !(en && next.opens)
  | .ending next => !(en && next.opens)
  | .taking | .collecting | .writingVideo _ | .writingAudio _ | .askingThumbnail
  | .askingKeyFrame | .retiring => if en then !s.isLive else s.file.isNone

/-- What holds while no wake that began enabled has taken a key frame: no file is live, and a wake
that began disabled has none to write to. -/
structure Waiting (s : Stream) : Prop where
  enabled : s.isEnabled = true
  asleep : s.activity = .asleep → s.isLive = false
  awake : ∀ en task, s.activity = .awake en task → s.awaits en task = true

theorem Waiting.of_task {en : Bool} {task : Task} (hen : s.isEnabled = true)
    (h : s.activity = .awake en task) (ha : s.awaits en task = true) : s.Waiting where
  enabled := hen
  asleep h' := by cases h.symm.trans h'
  awake en' task' h' := by
    cases h.symm.trans h'
    exact ha

/-- Nothing is handed over. -/
theorem Step.handed_of_waiting (h : Step s m s' es) (hw : s.Waiting) : handedItems es = [] := by
  cases h with
  | writeVideo h hfile _ | writeAudio h hfile =>
    have ha := hw.awake _ _ h
    simp [awaits, hfile] at ha
  | begin h => cases hw.awake _ _ h
  | sleep | closeLast | turnIdle | collect =>
    exact (items_of_isSnapshot s.isSnapshot_collectThumbnail).1
  | appendTrailer | finishBare =>
    rw [handedItems_append, (items_of_isSnapshot s.isSnapshot_latchThumbnail).1]
    rfl
  | retire =>
    unfold Stream.retire
    cases s.audio <;> rfl
  | @name _ _ _ _ request | @nameless _ _ _ _ request | @misnamed request _ =>
    cases request <;> rfl
  | @videoWritten _ _ _ error | @askThumbnail _ _ _ error | @videoStray _ _ error
  | @audioWritten _ _ error | @finish _ _ _ _ error | @publish _ _ error => cases error <;> rfl
  | tellEnd => cases s.file <;> rfl
  | _ => rfl

/-- Without a file, every task that needs none may be waited in. -/
theorem awaits_of_none (hfile : s.file = none) (en : Bool) :
    (if en then !s.isLive else s.file.isNone) = true := by
  rw [isLive_none hfile, hfile]
  cases en <;> rfl

/-- **Nothing is recorded until a wake that began enabled takes a key frame.** -/
theorem Step.waiting (h : Step s m s' es) (hs : s.Shaped) (hm : s.disturbs m = false)
    (hw : s.Waiting)
    (hno : ∀ ticket task, ⟨.video, ticket⟩ ∈ takenItems es → ticket.frame.isKey = true →
      s.activity ≠ .awake true task) : s'.Waiting := by
  have hen' := (h.stays (no_stop_of_undisturbed hm)).2 hw.enabled
  have hopens {pending : Pending} {task : Task} (hes : es = [.taken pending.lane pending.ticket])
      {en : Bool} (h : s.activity = .awake en task) : (!(en && pending.opens)) = true := by
    cases pending with
    | audio ticket => simp [Pending.opens]
    | video ticket =>
      cases hboth : en && ticket.frame.isKey with
      | false => simp [Pending.opens, hboth]
      | true =>
        obtain ⟨rfl, hkey⟩ := Bool.and_eq_true_iff.mp hboth
        exact absurd h (hno ticket task (by rw [hes]; exact List.mem_singleton.mpr rfl) hkey)
  cases h with
  | idle | misnamed => exact hw
  | start => exact ⟨hen', hw.asleep, hw.awake⟩
  | stop | shutDown => cases hm
  | @accept _ kind _ _ _ lane' | @displace kind _ _ _ _ _ lane' =>
    have hawaits : ∀ en task, (s.setLane lane' kind).awaits en task = s.awaits en task := by
      intro en task
      cases task <;> simp [awaits]
    refine ⟨hen', fun h => ?_, fun en task h => ?_⟩
    · rw [activity_setLane] at h
      rw [isLive_setLane]
      exact hw.asleep h
    · rw [activity_setLane] at h
      rw [hawaits]
      exact hw.awake en task h
  | wake h _ =>
    have hlive := hw.asleep h
    rw [hw.enabled] at hen' ⊢
    refine .of_task hen' rfl ?_
    exact Bool.not_eq_true' _ |>.mpr hlive
  | wakeInterrupted h _ hi => exact .of_task hen' rfl rfl
  | @take en pending _ h htake hi =>
    obtain ⟨l, l', -, rfl⟩ := takeFrame?_eq_some htake
    have hopens := hopens rfl h
    have ha := hw.awake _ _ h
    -- no file is live, and one that a stop interrupted would be closed first
    have hfile : s.file = none := by
      cases en with
      | false => exact Option.isNone_iff_eq_none.mp ha
      | true =>
        have hlive : (!s.isLive) = true := ha
        rw [Bool.true_and, isInterrupted_setLane] at hi
        rw [isLive_eq, hi] at hlive
        simpa using hlive
    have hfile' : (s.setLane l' pending.lane).file = none := (file_setLane ..).trans hfile
    refine .of_task hen' rfl ?_
    show ((s.setLane l' pending.lane).file.isNone && !(en && pending.opens)) = true
    rw [hfile', hopens]
    rfl
  | @takeInterrupted pending _ h htake hi => exact .of_task hen' rfl (hopens rfl h)
  | sleep h _ =>
    have ha : (!s.isLive) = true := hw.awake _ _ h
    refine ⟨hen', fun _ => ?_, nofun⟩
    exact s.isLive_collectThumbnail.trans (Bool.not_eq_true' _ |>.mp ha)
  | closeLast h _ hfile =>
    have ha : s.file.isNone = true := hw.awake _ _ h
    rw [s.isSome_file_collectThumbnail, Option.isNone_iff_eq_none.mp ha] at hfile
    cases hfile
  | turnIdle h _ hfile =>
    exact .of_task hen' rfl (awaits_of_none (s := s.collectThumbnail.1) hfile false)
  | split h hfile _ | writeVideo h hfile _ | writeAudio h hfile =>
    have ha := hw.awake _ _ h
    simp [awaits, hfile] at ha
  | tryOpen h hfile =>
    have ha := hw.awake _ _ h
    simp only [awaits, Bool.and_eq_true] at ha
    exact .of_task hen' rfl ha.2
  | loseAudio h hfile => exact .of_task hen' rfl (awaits_of_none hfile _)
  | @loseDisabled en _ h _ => exact .of_task hen' rfl (awaits_of_none (hs.file_eq_none h rfl) en)
  | askKeyFrame h _ _ _ | loseNonKey h _ _ _ =>
    exact .of_task hen' rfl (awaits_of_none (hs.file_eq_none h rfl) true)
  | askName h _ hkey =>
    have ha := hw.awake _ _ h
    simp [awaits, hkey] at ha
  | name h | nameless h | create h _ | fail h | begin h => cases hw.awake _ _ h
  | @collect en h =>
    have ha := hw.awake _ _ h
    refine .of_task hen' rfl ?_
    show (if en then !s.collectThumbnail.1.isLive else s.collectThumbnail.1.file.isNone) = true
    rw [s.isLive_collectThumbnail, ← Option.not_isSome, s.isSome_file_collectThumbnail,
      Option.not_isSome]
    exact ha
  | retire h =>
    -- an enabled stream was not shut down, so its worker goes back to sleep
    have hshut : s.shutdown = false := by
      have := (Bool.and_eq_true_iff.mp hw.enabled).2
      simpa using this
    have hnone : s.retire.1.isLive = false := isLive_none (hs.file_eq_none h rfl)
    refine ⟨hen', fun _ => hnone, fun en task h => ?_⟩
    unfold Stream.retire at h
    simp [hshut] at h
  | @videoWritten en _ _ _ h hfile _ | @askThumbnail en _ _ _ h hfile _ =>
    have ha := hw.awake _ _ h
    refine .of_task hen' rfl ?_
    cases en with
    | false => simp [awaits, hfile] at ha
    | true =>
      have hlive : (!s.isLive) = true := ha
      rw [isLive, hfile] at hlive
      exact hlive
  | videoStray h hfile => exact .of_task hen' rfl (awaits_of_none hfile _)
  | asked h htask =>
    rcases htask with rfl | rfl <;> exact .of_task hen' rfl (hw.awake _ _ h)
  | appendTrailer h _ | finishBare h _ | audioWritten h | finish h | publish h | tellEnd h =>
    exact .of_task hen' rfl (hw.awake _ _ h)
  | @resume en next _ h =>
    have ha := hw.awake _ _ h
    refine .of_task hen' rfl ?_
    cases next with
    | take => exact awaits_of_none (s := { s with file := none }) rfl en
    | handle pending => exact ha
    | reopen ticket => exact ha
    | retire => exact awaits_of_none (s := { s with file := none }) rfl en

/-- No key frame was taken by a wake that began enabled. The journal is what came before. -/
def NoneOpens (journal es : List Entry) : Prop :=
  ∀ pre ticket post, es = pre ++ .taken .video ticket :: post → ticket.frame.isKey = true →
    lastWoken (journal ++ pre) ≠ some true

theorem NoneOpens.of_append {journal es es' : List Entry} (h : NoneOpens journal (es ++ es')) :
    NoneOpens (journal ++ es) es' := by
  rintro pre ticket post rfl hkey
  rw [List.append_assoc]
  exact h (es ++ pre) ticket post (by rw [List.append_assoc]) hkey

theorem Waiting.run {journal pre post : List Entry} {ms : List Move} (hw : s.Waiting)
    (hs : s.Shaped) (hwoken : s.WokenAs journal) (hms : s.undisturbed ms = true)
    (hsplit : (s.run ms).2 = pre ++ post) (hnone : NoneOpens journal pre) :
    handedItems pre = [] := by
  induction ms generalizing s journal pre with
  | nil =>
    obtain ⟨rfl, -⟩ := List.append_eq_nil_iff.mp hsplit.symm
    rfl
  | cons m ms ih =>
    obtain ⟨hm, hms⟩ := undisturbed_cons hms
    have hstep := s.step_move m
    have hhanded := hstep.handed_of_waiting hw
    rcases List.append_eq_append_iff.mp hsplit with ⟨mid, rfl, hrest⟩ | ⟨mid, hes, -⟩
    · rw [handedItems_append, hhanded]
      refine ih (hstep.waiting hs hm hw ?_) (hstep.shaped hs) (hstep.wokenAs hwoken) hms hrest
        hnone.of_append
      intro ticket task hx hkey hact
      obtain ⟨en, pending, s₁, hitem, hes, -⟩ := hstep.of_taken hx
      rw [hes] at hnone
      refine hnone [] ticket mid ?_ hkey ?_
      · cases pending <;> cases hitem
        rfl
      · rw [List.append_nil]
        exact hwoken true task hact
    · rw [hes, handedItems_append] at hhanded
      exact (List.append_eq_nil_iff.mp hhanded).1

/-- When a disabled stream is started, there is no live file. -/
theorem waiting_of_start (hd : s.Dated) (hen : s.isEnabled = false)
    (hen' : (s.move .start).1.isEnabled = true) (hhand : s.inHand = [])
    (hclosed : ∀ task, s.activity = .awake false task → s.file = none) :
    (s.move .start).1.Waiting := by
  have hlive := hd.not_isLive hen
  refine ⟨hen', fun _ => hlive, fun en task h => ?_⟩
  have h : s.activity = .awake en task := h
  rw [inHand_awake h] at hhand
  have hnone : en = false → s.file = none := by
    rintro rfl
    exact hclosed task h
  have hrest : (if en then !s.isLive else s.file.isNone) = true := by
    cases en with
    | true => simp [hlive]
    | false => simp [hnone rfl]
  have hkept {next : Resumption} (hnext : next.inHand = []) : (!(en && next.opens)) = true := by
    cases next with
    | take | retire => simp [Resumption.opens]
    | handle _ | reopen _ => cases hnext
  cases task with
  | closing _ | trailing _ _ _ | finishing _ | publishing _ | ending _ => exact hkept hhand
  | handling _ | opening _ | naming _ _ | creating _ _ _ | beginning _ => cases hhand
  | _ => exact hrest

/-! ## Whole stretches -/

/-- From the first frame on, the worker is steady. -/
theorem exists_steady {journal pre post : List Entry} {ms : List Move} {ticket : Ticket}
    (hen : s.isEnabled = true) (hwoken : s.WokenAs journal) (hms : s.undisturbed ms = true)
    (hes : (s.run ms).2 = pre ++ .taken .video ticket :: post) (hkey : ticket.frame.isKey = true)
    (hlast : lastWoken (journal ++ pre) = some true) :
    ∃ s₁ : Stream, ∃ ms₁, s₁.Steady ∧ s₁.inHand = [⟨.video, ticket⟩] ∧
      s₁.undisturbed ms₁ = true ∧ post = (s₁.run ms₁).2 ∧ (s.run ms).1 = (s₁.run ms₁).1 := by
  obtain ⟨before, m, after, rfl, rfl, hx, rfl⟩ :=
    exists_taking (x := ⟨.video, ticket⟩) hes LaneKind.noConfusion
  obtain ⟨hbefore, hrest⟩ := undisturbed_append hms
  obtain ⟨-, hafter⟩ := undisturbed_cons hrest
  have hstep := (s.run before).1.step_move m
  obtain ⟨en, pending, s₁, -, -, hact, -⟩ := hstep.of_taken hx
  have hwake := (wokenAs_run hwoken before) en .taking hact
  rw [hlast] at hwake
  cases hwake
  obtain ⟨hst, hhand⟩ := hstep.steady_of_taken (stays_run hbefore hen) hkey hact hx
  exact ⟨_, after, hst, hhand, hafter, rfl, by rw [run_append, run_cons]⟩

/-- While the worker is steady, an audio frame is handed over before any other call is made. -/
theorem Steady.audio_first (hst : s.Steady) {ms : List Move} (hms : s.undisturbed ms = true)
    {pre post : List Entry} {audio : Ticket}
    (hes : (s.run ms).2 = pre ++ .taken .audio audio :: post) {e : Entry}
    (he : post.find? Entry.isCall = some e) : e = .audio audio := by
  obtain ⟨before, m, after, rfl, rfl, hx, rfl⟩ :=
    exists_taking (x := ⟨.audio, audio⟩) hes LaneKind.noConfusion
  obtain ⟨hbefore, -⟩ := undisturbed_append hms
  obtain ⟨hact, hfile⟩ :=
    (hst.run hbefore).1.handles_audio ((s.run before).1.step_move m) hx
  exact Stream.audio_first hact hfile after he

/-- **Recording has no gaps.** In a stretch in which the stream stays enabled and every file that is
asked for can be opened, all that is taken from the first key frame on that a wake begun on the
enabled stream takes, is handed over: each frame once, unchanged, in the order in which it was
taken, but for the one that is still in hand. An audio frame is handed over before any other call,
so it goes to the file that was open when it was taken. If the stretch began with the start of the
disabled stream, and not in the middle of a frame or of a wake that still has a file to close,
nothing is handed over before. -/
theorem gap_free (handle : StreamHandle) (config : StreamConfig) (before stretch : List Move)
    (hen : ((create handle config).run before).1.isEnabled = true)
    (hstretch : ((create handle config).run before).1.undisturbed stretch = true) :
    let journal := ((create handle config).run before).2
    let s := ((create handle config).run before).1
    let es := (s.run stretch).2
    let s' := (s.run stretch).1
    (∀ pre ticket post, es = pre ++ .taken .video ticket :: post → ticket.frame.isKey = true →
      lastWoken (journal ++ pre) = some true →
      handedItems post ++ s'.inHand = ⟨.video, ticket⟩ :: takenItems post ∧
      ∀ pre' audio post', post = pre' ++ .taken .audio audio :: post' →
        ∀ e, post'.find? Entry.isCall = some e → e = .audio audio) ∧
    (∀ before', before = before' ++ [.start] →
      ((create handle config).run before').1.isEnabled = false → s.inHand = [] →
      (∀ task, s.activity = .awake false task → s.file = none) →
      ∀ pre post, es = pre ++ post → NoneOpens journal pre → handedItems pre = []) := by
  intro journal s es s'
  have hfirst : (create handle config).WokenAs [] := fun _ _ h => by cases h
  have hwoken : s.WokenAs journal := wokenAs_run hfirst before
  refine ⟨fun pre ticket post hes hkey hlast => ?_, ?_⟩
  · obtain ⟨s₁, ms₁, hst, hhand, hms₁, rfl, hs'⟩ :=
      exists_steady hen hwoken hstretch hes hkey hlast
    refine ⟨?_, fun pre' audio post' hpost e he => hst.audio_first hms₁ hpost he⟩
    have hkeeps := (hst.run hms₁).2
    rw [KeepsCount, hhand] at hkeeps
    show _ ++ (s.run stretch).1.inHand = _
    rw [hs']
    exact hkeeps
  · rintro before' rfl hdisabled hhand hclosed pre post hes hnone
    have hshaped := shaped_run (shaped_create handle config) (before' ++ [.start])
    refine Waiting.run ?_ hshaped hwoken hstretch hes hnone
    have hdated := dated_run (dated_create handle config) before'
    have hs : s = (((create handle config).run before').1.move .start).1 := by
      show ((create handle config).run (before' ++ [.start])).1 = _
      rw [run_append]
      rfl
    show s.Waiting
    rw [hs] at hhand hclosed ⊢
    exact waiting_of_start hdated hdisabled (hs ▸ hen) hhand hclosed

/-- A key frame, a frame, and a key frame that ends the file, recorded in one wake. One of the calls
to write them fails. -/
def acrossSplit : List Move :=
  [.submit .video ⟨[1], 0, true⟩, .submit .video ⟨[2], 200000, false⟩,
    .submit .video ⟨[3], 2000000, true⟩, .wake,
    .advance, .advance, .advance, .named none (.ok ⟨[1]⟩), .reply none, .reply none, .reply none,
    .reply none, .advance,
    .advance, .advance, .reply (some .io), .advance,
    .advance, .advance, .advance, .reply none, .reply none, .reply none, .advance,
    .named none (.ok ⟨[2]⟩), .reply none, .reply none]

/-- Three frames are handed over across the boundary of two files. -/
theorem gap_free_across_split :
    let s := ((create ⟨0, 0, 0⟩ secondLong).run [.start]).1
    let es := (s.run acrossSplit).2
    s.isEnabled = true ∧ s.undisturbed acrossSplit = true ∧
      handedItems (es.drop 5) ++ (s.run acrossSplit).1.inHand
        = [⟨.video, 0, [1], 0, true⟩, ⟨.video, 1, [2], 200000, false⟩,
          ⟨.video, 2, [3], 2000000, true⟩] := by
  intro s es
  refine ⟨by decide, by decide, ?_⟩
  have hfree := gap_free ⟨0, 0, 0⟩ secondLong [.start] acrossSplit (by decide) (by decide)
  have hrest := (hfree.1 (es.take 4) ⟨0, [1], 0, true⟩ (es.drop 5) (by decide) rfl (by decide)).1
  rw [hrest]
  decide

/-- A stop, and then a start while the last frame of the interrupted file is being written. -/
def startedInDisabledWake : List Move :=
  [.start, .submit .video ⟨[1], 0, true⟩, .wake,
    .advance, .advance, .advance, .named none (.ok ⟨[1]⟩), .reply none, .reply none, .reply none,
    .reply none, .advance, .advance,
    .submit .video ⟨[2], 200000, false⟩, .stop, .wake, .advance, .advance, .start]

/-- A key frame that ends the file is submitted before the wake is over. -/
def splitInDisabledWake : List Move :=
  [.submit .video ⟨[3], 2000000, true⟩, .reply none, .advance,
    .advance, .advance, .advance, .reply none, .reply none, .reply none, .advance]

/-- Without regard to how the wake began there are gaps: a key frame taken by a wake that began
disabled ends the file, and opens no other, although the stream was started before the frame was
submitted. -/
theorem gap_in_disabled_wake :
    ¬ ∀ (handle : StreamHandle) (config : StreamConfig) (before stretch : List Move),
      let s := ((create handle config).run before).1
      let es := (s.run stretch).2
      s.isEnabled = true → s.undisturbed stretch = true →
      (es.all fun e => !(e matches .evicted _)) = true →
      ∀ pre ticket post, es = pre ++ .taken .video ticket :: post → ticket.frame.isKey = true →
        handedItems post ++ (s.run stretch).1.inHand = ⟨.video, ticket⟩ :: takenItems post := by
  intro hfree
  let s := ((create ⟨0, 0, 0⟩ secondLong).run startedInDisabledWake).1
  let es := (s.run splitInDisabledWake).2
  have hlost := hfree ⟨0, 0, 0⟩ secondLong startedInDisabledWake splitInDisabledWake (by decide)
    (by decide) (by decide) (es.take 2) ⟨2, [3], 2000000, true⟩ (es.drop 3) (by decide) rfl
  revert hlost
  decide

end Stream

end CameraRecorder

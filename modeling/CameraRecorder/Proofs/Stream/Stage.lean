import CameraRecorder.Proofs.Stream.Shape

/-!
# How far a file has got

At any time the file that the writer was asked to open last is at one of four stages. The journal
leads from one to the next (`FileStage.follow?`), and the state of the stream shows which is reached
(`Stream.fileStage`). That an entry is refused at a stage at which it cannot be made gives the
counts: a file that began is finished once and ends once.
-/

namespace CameraRecorder

/-- Whether an entry tells that a file began. -/
def Entry.isFileBegin : Entry → Bool
  | .event (.fileBegin _) => true
  | _ => false

/-- Whether an entry tells that a file ended. -/
def Entry.isFileEnd : Entry → Bool
  | .event (.fileEnd ..) => true
  | _ => false

/-- Whether an entry is about a file: a call, its failure, or an event. -/
def Entry.isAboutFile : Entry → Bool
  | .event (.fileBegin _) | .event (.fileEnd ..) => true
  | e => e.isCall

/-- Whether an entry asks the writer to open a file. -/
def Entry.isInit : Entry → Bool
  | .init .. => true
  | _ => false

/-- Whether an entry asks the writer to finish its file. -/
def Entry.isDeinit : Entry → Bool
  | .deinit => true
  | _ => false

/-- How far the file has got that the writer was asked to open last. -/
inductive FileStage where
  /-- It ended, or could not be opened, or there was none. -/
  | closed
  /-- The writer was asked to open it. -/
  | asked
  /-- It began. -/
  | begun
  /-- The writer was asked to finish it. -/
  | finished
deriving DecidableEq, Repr

namespace FileStage

variable {stage stage' : FileStage} {e : Entry} {es es' : List Entry}

/-- The stage that an entry about a file leads to, if it can be made at this stage. -/
def lead? : FileStage → Entry → Option FileStage
  | closed, .init .. => some asked
  | asked, .failed _ => some closed
  | asked, .event (.fileBegin _) => some begun
  | begun, .video _ => some begun
  | begun, .audio _ => some begun
  | begun, .trailer .. => some begun
  | begun, .failed _ => some begun
  | begun, .deinit => some finished
  | finished, .failed _ => some finished
  | finished, .event (.fileEnd ..) => some closed
  | _, _ => none

/-- The stage that an entry leads to. What is not about files leaves it as it is. -/
def next? (stage : FileStage) (e : Entry) : Option FileStage :=
  if e.isAboutFile then stage.lead? e else some stage

/-- The stage that a journal leads to, if all its entries can be made. -/
def follow? (stage : FileStage) : List Entry → Option FileStage
  | [] => some stage
  | e :: es => (stage.next? e).bind (·.follow? es)

@[simp] theorem follow?_nil (stage : FileStage) : stage.follow? [] = some stage := rfl

theorem follow?_cons (stage : FileStage) (e : Entry) (es : List Entry) :
    stage.follow? (e :: es) = (stage.next? e).bind (·.follow? es) := rfl

theorem follow?_append (stage : FileStage) (es es' : List Entry) :
    stage.follow? (es ++ es') = (stage.follow? es).bind (·.follow? es') := by
  induction es generalizing stage with
  | nil => rfl
  | cons e es ih =>
    rw [List.cons_append, follow?_cons, follow?_cons, Option.bind_assoc]
    exact Option.bind_congr fun stage' _ => ih stage'

/-- What is not about files leaves the stage as it is. -/
theorem follow?_hidden (stage : FileStage) (h : ∀ e ∈ es, e.isAboutFile = false) :
    stage.follow? es = some stage := by
  induction es with
  | nil => rfl
  | cons e es ih =>
    have he : stage.next? e = some stage := by simp [next?, h e (.head _)]
    rw [follow?_cons, he, Option.bind_some]
    exact ih fun e' he' => h e' (.tail _ he')

theorem follow?_optional (stage : FileStage) {α : Type} (o : Option α) {f : α → Entry}
    (h : ∀ a, stage.next? (f a) = some stage) : stage.follow? (o.map f).toList = some stage := by
  cases o with
  | none => rfl
  | some a =>
    show (stage.next? (f a)).bind _ = _
    rw [h a]
    rfl

/-! ## Counts -/

theorem next?_cases (h : stage.next? e = some stage') :
    e.isAboutFile = false ∧ stage' = stage ∨ stage.lead? e = some stage' := by
  unfold next? at h
  cases he : e.isAboutFile with
  | true => exact .inr (by simpa [he] using h)
  | false =>
    rw [he] at h
    cases h
    exact .inl ⟨rfl, rfl⟩

theorem plain_of_hidden (h : e.isAboutFile = false) :
    e.isFileBegin = false ∧ e.isFileEnd = false ∧ e.isDeinit = false := by
  cases e with
  | event event => cases event <;> first | exact ⟨rfl, rfl, rfl⟩ | cases h
  | _ => first | exact ⟨rfl, rfl, rfl⟩ | cases h

/-- What is made up for by each entry is made up for by the whole journal: `due` tells how often an
entry of a kind is still to come at a stage, and each file that begins adds one. -/
theorem countP_follow? {p : Entry → Bool} {due : FileStage → Nat}
    (hp : ∀ e, e.isAboutFile = false → p e = false)
    (hlead : ∀ stage e stage', stage.lead? e = some stage' →
      (p e).toNat + due stage' = due stage + e.isFileBegin.toNat)
    (h : stage.follow? es = some stage') :
    es.countP p + due stage' = due stage + es.countP Entry.isFileBegin := by
  have hcons (q : Entry → Bool) (e : Entry) (es : List Entry) :
      (e :: es).countP q = (q e).toNat + es.countP q := by
    rw [List.countP_cons]
    cases q e <;> simp [Nat.add_comm]
  induction es generalizing stage with
  | nil =>
    cases h
    simp
  | cons e es ih =>
    obtain ⟨mid, hmid, hrest⟩ := Option.bind_eq_some_iff.mp h
    have hrest := ih hrest
    rw [hcons, hcons]
    rcases next?_cases hmid with ⟨he, rfl⟩ | hfirst
    · rw [hp e he, (plain_of_hidden he).1, Bool.toNat_false]
      omega
    · have := hlead _ _ _ hfirst
      omega

/-- How often the writer is still to be asked to finish the file. -/
def unfinished : FileStage → Nat
  | begun => 1
  | _ => 0

/-- How often it is still to be told that the file ended. -/
def unended : FileStage → Nat
  | begun | finished => 1
  | _ => 0

/-- Each file that begins is finished once. -/
theorem countP_isDeinit (h : stage.follow? es = some stage') :
    es.countP Entry.isDeinit + stage'.unfinished
      = stage.unfinished + es.countP Entry.isFileBegin := by
  refine countP_follow? (fun e he => (plain_of_hidden he).2.2) (fun stage e stage' hlead => ?_) h
  unfold lead? at hlead
  split at hlead <;> cases hlead <;> rfl

/-- Each file that begins ends once. -/
theorem countP_isFileEnd (h : stage.follow? es = some stage') :
    es.countP Entry.isFileEnd + stage'.unended
      = stage.unended + es.countP Entry.isFileBegin := by
  refine countP_follow? (fun e he => (plain_of_hidden he).2.1) (fun stage e stage' hlead => ?_) h
  unfold lead? at hlead
  split at hlead <;> cases hlead <;> rfl

/-! ## The end of a file -/

/-- A journal that leads from one stage to another has an entry that leaves the first. -/
theorem exists_leaving (h : stage.follow? es = some stage') (hne : stage' ≠ stage) :
    ∃ pre e post mid, es = pre ++ e :: post ∧ stage.lead? e = some mid ∧ mid ≠ stage ∧
      mid.follow? post = some stage' := by
  induction es with
  | nil =>
    cases h
    exact absurd rfl hne
  | cons e es ih =>
    obtain ⟨mid, hmid, hrest⟩ := Option.bind_eq_some_iff.mp h
    by_cases hstay : mid = stage
    · subst hstay
      obtain ⟨pre, e', post, mid', rfl, hlead, hne', hpost⟩ := ih hrest
      exact ⟨e :: pre, e', post, mid', rfl, hlead, hne', hpost⟩
    · rcases next?_cases hmid with ⟨-, hsame⟩ | hlead
      · exact absurd hsame hstay
      · exact ⟨[], e, es, mid, rfl, hlead, hstay, hrest⟩

/-- A file that began is finished, and then it ends. -/
theorem exists_end (h : begun.follow? es = some closed) :
    ∃ path duration, [.deinit, .event (.fileEnd path duration)].Sublist es := by
  obtain ⟨pre, e, post, mid, rfl, hlead, hne, hpost⟩ := exists_leaving h (by decide)
  have hdeinit : e = .deinit ∧ mid = finished := by
    unfold lead? at hlead
    split at hlead <;> cases hlead <;>
      first | exact ⟨rfl, rfl⟩ | exact absurd rfl hne | contradiction
  obtain ⟨rfl, rfl⟩ := hdeinit
  obtain ⟨pre', e', post', mid', rfl, hlead', hne', -⟩ := exists_leaving hpost (by decide)
  have hend : ∃ path duration, e' = .event (.fileEnd path duration) := by
    unfold lead? at hlead'
    split at hlead' <;> cases hlead' <;>
      first | exact ⟨_, _, rfl⟩ | exact absurd rfl hne' | contradiction
  obtain ⟨path, duration, rfl⟩ := hend
  refine ⟨path, duration, ?_⟩
  exact ((List.singleton_sublist.mpr (by simp)).cons_cons _).trans (List.sublist_append_right _ _)

/-- Without a file, and without the writer being asked to open one, nothing is about a file. -/
theorem hidden_of_closed (h : closed.follow? es = some stage)
    (hes : ∀ e ∈ es, e.isInit = false) : ∀ e ∈ es, e.isAboutFile = false := by
  induction es with
  | nil => nofun
  | cons e es ih =>
    obtain ⟨mid, hmid, hrest⟩ := Option.bind_eq_some_iff.mp h
    rcases next?_cases hmid with ⟨he, rfl⟩ | hlead
    · intro e' he'
      rcases List.mem_cons.mp he' with rfl | he'
      · exact he
      · exact ih hrest (fun e' he' => hes e' (.tail _ he')) e' he'
    · have hinit : e.isInit = true := by
        unfold lead? at hlead
        split at hlead <;> first | rfl | contradiction
      cases (hes e (.head _)).symm.trans hinit

/-- No file is opened without the writer being asked. -/
theorem eq_closed (h : closed.follow? es = some stage) (hes : ∀ e ∈ es, e.isInit = false) :
    stage = closed := by
  rw [follow?_hidden _ (hidden_of_closed h hes)] at h
  cases h
  rfl

/-- A file only begins after the writer was asked to open it. -/
theorem of_lead? (h : stage.lead? e = some stage') :
    e.isInit = true ∨ stage = asked ∨ e.isFileBegin = false ∧ stage' ≠ asked := by
  unfold lead? at h
  split at h <;> cases h <;> simp [Entry.isInit, Entry.isFileBegin]

/-- No file begins without the writer being asked to open it. -/
theorem countP_isFileBegin_eq_zero (h : stage.follow? es = some stage') (hstage : stage ≠ asked)
    (hes : ∀ e ∈ es, e.isInit = false) : es.countP Entry.isFileBegin = 0 := by
  induction es generalizing stage with
  | nil => rfl
  | cons e es ih =>
    obtain ⟨mid, hmid, hrest⟩ := Option.bind_eq_some_iff.mp h
    have hfirst : e.isFileBegin = false ∧ mid ≠ asked := by
      rcases next?_cases hmid with ⟨he, rfl⟩ | hlead
      · exact ⟨(plain_of_hidden he).1, hstage⟩
      · rcases of_lead? hlead with hinit | hasked | hfirst
        · cases (hes e (.head _)).symm.trans hinit
        · exact absurd hasked hstage
        · exact hfirst
    have hlater := ih hrest hfirst.2 fun e' he' => hes e' (.tail _ he')
    rw [List.countP_cons, hlater, hfirst.1]
    rfl

end FileStage

/-- The stage of the file during a task that is about it. -/
def Task.stage? : Task → Option FileStage
  | creating .. => some .asked
  | finishing _ | publishing _ => some .finished
  | ending _ => some .closed
  | _ => none

/-- Whether a task tells that a file ended. -/
def Task.isEnding : Task → Bool
  | .ending _ => true
  | _ => false

namespace Stream

variable {s s' : Stream} {m : Move} {es : List Entry}

/-- The stage of the file while nothing is under way. -/
def restStage (s : Stream) : FileStage := if s.file.isSome then .begun else .closed

/-- The stage of the file that the writer was asked to open last. -/
def fileStage (s : Stream) : FileStage :=
  (s.activity.task?.bind Task.stage?).getD s.restStage

theorem restStage_eq (h : s'.file.isSome = s.file.isSome) : s'.restStage = s.restStage := by
  simp [restStage, h]

theorem restStage_ne_asked (s : Stream) : s.restStage ≠ .asked := by
  unfold restStage
  split <;> decide

theorem fileStage_resting (h : s.activity.task? = none) : s.fileStage = s.restStage := by
  rw [fileStage, h]
  rfl

theorem fileStage_awake {en : Bool} {task : Task} (h : s.activity = .awake en task) :
    s.fileStage = task.stage?.getD s.restStage := by
  rw [fileStage, h]
  rfl

theorem fileStage_of_task {en : Bool} {task : Task} {stage : FileStage}
    (h : s.activity = .awake en task) (htask : task.stage? = some stage) : s.fileStage = stage := by
  rw [fileStage_awake h, htask]
  rfl

theorem fileStage_open {en : Bool} {task : Task} (h : s.activity = .awake en task)
    (htask : task.stage? = none) (hfile : s.file.isSome = true) : s.fileStage = .begun := by
  rw [fileStage_awake h, htask, Option.getD_none, restStage, if_pos hfile]

theorem fileStage_bare {en : Bool} {task : Task} (h : s.activity = .awake en task)
    (htask : task.stage? = none) (hfile : s.file = none) : s.fileStage = .closed := by
  rw [fileStage_awake h, htask, Option.getD_none, restStage, hfile]
  rfl

/-- The journal leads from the stage of one state to that of another. -/
def Follows (s : Stream) (es : List Entry) (s' : Stream) : Prop :=
  s.fileStage.follow? es = some s'.fileStage

theorem Follows.of_stages {stage stage' : FileStage} (h : s.fileStage = stage)
    (h' : s'.fileStage = stage') (hes : stage.follow? es = some stage') : s.Follows es s' := by
  rw [Follows, h, h']
  exact hes

theorem Follows.of_hidden (hstage : s'.fileStage = s.fileStage)
    (hes : ∀ e ∈ es, e.isAboutFile = false) : s.Follows es s' :=
  .of_stages rfl hstage (FileStage.follow?_hidden _ hes)

/-- From one task to the next nothing is told of a file, which stays as it is. -/
theorem Follows.of_tasks {en en' : Bool} {task task' : Task} (h : s.activity = .awake en task)
    (h' : s'.activity = .awake en' task') (htask : task'.stage? = task.stage?)
    (hfile : s'.file.isSome = s.file.isSome) (hes : ∀ e ∈ es, e.isAboutFile = false) :
    s.Follows es s' := by
  refine .of_hidden ?_ hes
  rw [fileStage_awake h, fileStage_awake h', htask, restStage_eq hfile]

theorem isAboutFile_of_isSnapshot {e : Entry} (h : e.isSnapshot = true) :
    e.isAboutFile = false := by
  rcases Entry.eq_of_isSnapshot h with ⟨ticket, rfl⟩ | ⟨tickets, rfl⟩ <;> rfl

/-- **Each move leads to the stage that is then reached.** -/
theorem Step.follows (h : Step s m s' es) (hs : s.Shaped) : s.Follows es s' := by
  have hcollect : ∀ e ∈ s.collectThumbnail.2, e.isAboutFile = false := fun e he =>
    isAboutFile_of_isSnapshot (s.isSnapshot_collectThumbnail e he)
  have hlatch : ∀ e ∈ s.latchThumbnail.2, e.isAboutFile = false := fun e he =>
    isAboutFile_of_isSnapshot (s.isSnapshot_latchThumbnail e he)
  have hnames (stage : FileStage) (request : Option (UInt32 × Nat)) :
      stage.follow? (request.map fun r => Entry.names r.1 r.2).toList = some stage :=
    stage.follow?_optional request fun _ => rfl
  -- a failure of the writer ends nothing once the file is open
  have hbegun (error : Option WriterError) :
      FileStage.begun.follow? (error.map Entry.failed).toList = some .begun :=
    FileStage.begun.follow?_optional error fun _ => rfl
  have hfinished (error : Option WriterError) :
      FileStage.finished.follow? (error.map Entry.failed).toList = some .finished :=
    FileStage.finished.follow?_optional error fun _ => rfl
  have hopen {en : Bool} {task : Task} (h : s.activity = .awake en task)
      (htask : task.hasFile? = some true) : s.file.isSome = true := by
    obtain ⟨f, hfile⟩ := hs.exists_file h htask
    exact Option.isSome_of_eq_some hfile
  cases h with
  | idle => exact .of_hidden rfl (by simp)
  | start | stop | shutDown => exact .of_hidden rfl (by simp [Entry.isAboutFile, Entry.isCall])
  | misnamed => exact hnames _ _
  | accept | displace =>
    refine .of_hidden ?_ (by simp [Entry.isAboutFile, Entry.isCall])
    simp only [fileStage, activity_setLane, restStage, file_setLane]
  | wake h _ | wakeInterrupted h _ _ =>
    refine .of_hidden ?_ (by simp [Entry.isAboutFile, Entry.isCall])
    rw [fileStage_resting (s := s) (by rw [h]; rfl)]
    rfl
  | take h htake _ | takeInterrupted h htake _ =>
    obtain ⟨l, l', -, rfl⟩ := takeFrame?_eq_some htake
    refine .of_tasks h rfl rfl (by rw [file_setLane]) ?_
    simp [Entry.isAboutFile, Entry.isCall]
  | sleep h _ =>
    refine .of_hidden ?_ hcollect
    rw [fileStage_awake h, fileStage_resting rfl]
    exact restStage_eq s.isSome_file_collectThumbnail
  | closeLast h _ _ | turnIdle h _ _ | collect h =>
    exact .of_tasks h rfl rfl s.isSome_file_collectThumbnail hcollect
  | split h _ _ | tryOpen h _ | loseAudio h _ | loseDisabled h _ | askName h _ _
  | askKeyFrame h _ _ _ | loseNonKey h _ _ _ =>
    refine .of_tasks h rfl rfl rfl ?_
    simp [Entry.isAboutFile, Entry.isCall]
  | asked h htask => rcases htask with rfl | rfl <;> exact .of_tasks h rfl rfl rfl (by simp)
  | @nameless _ _ _ _ request h =>
    refine .of_tasks h rfl rfl rfl fun e he => ?_
    obtain ⟨r, -, rfl⟩ := Option.map_eq_some_iff.mp (Option.mem_toList.mp he)
    rfl
  | retire h =>
    refine .of_hidden ?_ ?_
    · rw [fileStage_awake h, fileStage_resting]
      · rfl
      · cases hshut : s.shutdown <;> simp [Stream.retire, hshut, Activity.task?]
    · unfold Stream.retire
      cases s.audio <;> simp [Entry.isAboutFile, Entry.isCall]
  -- frames are written to an open file
  | writeVideo h hfile _ | writeAudio h hfile =>
    have hsome := Option.isSome_of_eq_some hfile
    exact .of_stages (fileStage_open h rfl hsome) (fileStage_open rfl rfl hsome) rfl
  | begin h =>
    have hsome := hopen h rfl
    exact .of_stages (fileStage_open h rfl hsome) (fileStage_open rfl rfl hsome) rfl
  | @videoWritten _ _ _ error h hfile _ =>
    exact .of_stages (fileStage_open h rfl (hopen h rfl)) (fileStage_open rfl rfl rfl)
      (hbegun error)
  | @askThumbnail _ _ _ error h hfile _ =>
    refine .of_stages (fileStage_open h rfl (hopen h rfl)) (fileStage_open rfl rfl rfl) ?_
    rw [FileStage.follow?_append, hbegun error]
    rfl
  | videoStray h hfile =>
    have hsome := hopen h rfl
    rw [hfile] at hsome
    cases hsome
  | @audioWritten _ _ error h =>
    have hsome := hopen h rfl
    exact .of_stages (fileStage_open h rfl hsome) (fileStage_open rfl rfl hsome) (hbegun error)
  | appendTrailer h _ =>
    have hsome := hopen h rfl
    refine .of_stages (fileStage_open h rfl hsome)
      (fileStage_open rfl rfl (s.isSome_file_latchThumbnail.trans hsome)) ?_
    rw [FileStage.follow?_append, FileStage.follow?_hidden _ hlatch]
    rfl
  -- the file is opened and closed
  | @name _ _ _ _ request h =>
    refine .of_stages (fileStage_bare h rfl (hs.file_eq_none h rfl)) rfl ?_
    rw [FileStage.follow?_append, hnames]
    rfl
  | create h _ => exact .of_stages (fileStage_of_task h rfl) (fileStage_open rfl rfl rfl) rfl
  | fail h =>
    exact .of_stages (fileStage_of_task h rfl) (fileStage_bare rfl rfl (hs.file_eq_none h rfl)) rfl
  | finishBare h _ =>
    refine .of_stages (fileStage_open h rfl (hopen h rfl)) (fileStage_of_task rfl rfl) ?_
    rw [FileStage.follow?_append, FileStage.follow?_hidden _ hlatch]
    rfl
  | @finish _ _ _ _ error h =>
    refine .of_stages (fileStage_open h rfl (hopen h rfl)) (fileStage_of_task rfl rfl) ?_
    rw [FileStage.follow?_append, hbegun error]
    rfl
  | @publish _ _ error h =>
    exact .of_stages (fileStage_of_task h rfl) (fileStage_of_task rfl rfl) (hfinished error)
  | tellEnd h =>
    obtain ⟨f, hfile⟩ := hs.exists_file h rfl
    refine .of_stages (fileStage_of_task h rfl) (fileStage_of_task rfl rfl) ?_
    rw [hfile]
    rfl
  | @resume _ next _ h =>
    refine .of_stages (fileStage_of_task h rfl) (fileStage_bare rfl ?_ rfl) rfl
    cases next <;> rfl

theorem follows_run (hs : s.Shaped) (ms : List Move) : s.Follows (s.run ms).2 (s.run ms).1 := by
  induction ms generalizing s with
  | nil => rfl
  | cons m ms ih =>
    have hstep := s.step_move m
    have hrest := ih (hstep.shaped hs)
    rw [Follows, run_cons, FileStage.follow?_append, hstep.follows hs]
    exact hrest

/-! ## How many files are open -/

/-- Whether a file began that did not end. -/
def isOpen (s : Stream) : Bool := s.file.isSome && !s.activity.task?.any Task.isEnding

/-- The files that begin and end make up for the change of the open file. -/
def Balances (s : Stream) (es : List Entry) (s' : Stream) : Prop :=
  s.isOpen.toNat + es.countP Entry.isFileBegin = s'.isOpen.toNat + es.countP Entry.isFileEnd

theorem isOpen_resting (h : s.activity.task? = none) : s.isOpen = s.file.isSome := by
  simp [isOpen, h]

/-- Between two wakes a file is open exactly when the worker is recording. -/
theorem isOpen_toNat_resting (hs : s.Shaped) (h : s.activity.task? = none) :
    s.isOpen.toNat = if s.phase = .recording then 1 else 0 := by
  rw [isOpen_resting h]
  by_cases hfile : s.file.isSome = true
  · rw [if_pos (hs.recording_iff.mpr hfile), hfile]
    rfl
  · rw [if_neg (hs.recording_iff.not.mpr hfile), Bool.eq_false_iff.mpr hfile]
    rfl

/-- It is still to be told that a file ended exactly when it is open. -/
theorem unended_fileStage (hs : s.Shaped) : s.fileStage.unended = s.isOpen.toNat := by
  cases hact : s.activity with
  | asleep | stopped | crashed =>
    have hrest : s.activity.task? = none := by
      rw [hact]
      rfl
    rw [fileStage_resting hrest, isOpen_resting hrest, restStage]
    cases s.file <;> rfl
  | awake en task =>
    rw [fileStage_awake hact, isOpen, restStage, hact]
    cases task with
    | creating _ _ _ =>
      rw [hs.file_eq_none hact rfl]
      rfl
    | finishing _ | publishing _ | ending _ =>
      obtain ⟨f, hfile⟩ := hs.exists_file hact rfl
      rw [hfile]
      rfl
    | _ => cases s.file <;> rfl

theorem balances_run (hs : s.Shaped) (ms : List Move) : s.Balances (s.run ms).2 (s.run ms).1 := by
  have hends := FileStage.countP_isFileEnd (follows_run hs ms)
  rw [unended_fileStage hs, unended_fileStage (shaped_run hs ms)] at hends
  rw [Balances]
  omega

end Stream

end CameraRecorder

import CameraRecorder.Proofs.Stream.Flow
import CameraRecorder.Proofs.Stream.Turns

/-!
# How a move handles the snapshot of a file

A file keeps the first snapshot that is found waiting at a collect point: after a frame was handled,
at the end of a wake, and when the file is about to be closed (`Stream.collects`). Then the file is
finished, with a trailer before that if the snapshot makes one. Every other move leaves the snapshot
as it is (`Stream.Latches`).
-/

namespace CameraRecorder

/-- The trailer that an entry asks the writer to append: the snapshot, and the bytes it makes. -/
def Entry.trailer? : Entry → Option (Ticket × Bytes)
  | .trailer snapshot data => some (snapshot, data)
  | _ => none

/-- The trailers that the writer was asked to append, in order. -/
def trailers (es : List Entry) : List (Ticket × Bytes) := es.filterMap Entry.trailer?

@[simp] theorem trailers_append (es es' : List Entry) :
    trailers (es ++ es') = trailers es ++ trailers es' :=
  List.filterMap_append

/-- The snapshot that an entry tells was taken. -/
def Entry.snapshot? : Entry → Option Ticket
  | .taken .thumbnail ticket => some ticket
  | _ => none

/-- The snapshots that were taken, in order. -/
def snapshotsTaken (es : List Entry) : List Ticket := es.filterMap Entry.snapshot?

@[simp] theorem snapshotsTaken_append (es es' : List Entry) :
    snapshotsTaken (es ++ es') = snapshotsTaken es ++ snapshotsTaken es' :=
  List.filterMap_append

/-- Whether an entry asks the writer for a trailer, or to finish its file. -/
def Entry.isClosing : Entry → Bool
  | .trailer .. | .deinit => true
  | _ => false

theorem trailers_eq_nil {es : List Entry} (h : ∀ e ∈ es, e.isClosing = false) :
    trailers es = [] := by
  refine List.filterMap_eq_nil_iff.mpr fun e he => ?_
  have hapart := h e he
  cases e with
  | trailer => cases hapart
  | _ => rfl

theorem isClosing_of_isSnapshot {e : Entry} (h : e.isSnapshot = true) : e.isClosing = false := by
  rcases Entry.eq_of_isSnapshot h with ⟨ticket, rfl⟩ | ⟨tickets, rfl⟩ <;> rfl

/-- Whether a file is being finished: its snapshot was looked for, for the last time. -/
def Task.isFinal : Task → Bool
  | trailing .. | finishing _ | publishing _ | ending _ => true
  | _ => false

/-- Whether a worker is finishing its file. -/
def Activity.isFinal (a : Activity) : Bool := a.task?.any Task.isFinal

namespace Stream

variable {s s' : Stream} {m : Move} {es : List Entry}

/-! ## The snapshot of the open file -/

/-- The snapshot that the open file keeps so far; `none` if there is no file, or it is being
finished. -/
def keeping? (s : Stream) : Option (Option Ticket) :=
  if s.activity.isFinal then none else s.file.map (·.thumbnail)

/-- The first snapshot that waits. -/
def nextSnapshot? (s : Stream) : Option Ticket := (s.queue .thumbnail).head?

/-- Whether a move looks for a snapshot for the open file. -/
def collects (s : Stream) : Move → Bool
  | .advance => s.file.isSome && match s.activity with
    | .awake _ .collecting | .awake _ (.closing _) => true
    | .awake _ .taking => s.takeFrame?.isNone
    | _ => false
  | _ => false

/-- The trailer for the snapshot that a file keeps, if it keeps one that fits in a box. -/
def trailerFor? (s : Stream) (kept : Option Ticket) : Option (Ticket × Bytes) :=
  kept.bind fun snapshot => (s.trailerOf? snapshot).map (snapshot, ·)

theorem keeping?_open (h : s.activity.isFinal = false) :
    s.keeping? = s.file.map (·.thumbnail) := by
  rw [keeping?, h]
  rfl

theorem keeping?_final (h : s.activity.isFinal = true) : s.keeping? = none := by
  rw [keeping?, h]
  rfl

theorem isFinal_awake {en : Bool} {task : Task} (h : s.activity = .awake en task) :
    s.activity.isFinal = task.isFinal := by
  rw [h]
  rfl

theorem isFinal_resting (h : s.activity.task? = none) : s.activity.isFinal = false := by
  rw [Activity.isFinal, h]
  rfl

theorem isTurn_of_collects (h : s.collects m = true) : s.isTurn m = true := by
  cases m with
  | advance =>
    cases hact : s.activity with
    | asleep | stopped | crashed => simp [collects, hact] at h
    | awake en task =>
      cases task with
      | taking | collecting | closing _ => simp [isTurn, advance?, hact]
      | _ => simp [collects, hact] at h
  | _ => cases h

/-! ## Looking for a snapshot -/

/-- The first snapshot that waits is the one that its lane gives up. -/
theorem LanesSound.nextSnapshot (hs : s.LanesSound) :
    s.nextSnapshot? = s.thumbnails.pop?.map (·.1) := by
  obtain ⟨hsound, -⟩ := hs .thumbnail s.thumbnails rfl
  rw [nextSnapshot?, show s.queue .thumbnail = s.thumbnails.tickets from rfl]
  cases hpop : s.thumbnails.pop? with
  | none =>
    rw [hsound.pop_eq_none_iff.mp hpop]
    rfl
  | some r =>
    rw [(hsound.pop hpop).2.1]
    rfl

/-- The open file keeps the first snapshot that waits, if it kept none. -/
theorem LanesSound.latch (hs : s.LanesSound) {f : OpenFile} (hfile : s.file = some f) :
    s.latchThumbnail.1.file.map (·.thumbnail) = some (f.thumbnail.or s.nextSnapshot?) ∧
      snapshotsTaken s.latchThumbnail.2
        = if f.thumbnail.isSome then [] else s.nextSnapshot?.toList := by
  rw [hs.nextSnapshot]
  unfold Stream.latchThumbnail
  rw [hfile]
  cases hkept : f.thumbnail with
  | some kept => simp [hkept, hfile, snapshotsTaken]
  | none => cases hpop : s.thumbnails.pop? <;> simp [hkept, hfile, snapshotsTaken, Entry.snapshot?]

/-- The trailer of a file is that for the snapshot it keeps then. -/
theorem LanesSound.trailer_latch (hs : s.LanesSound) {f : OpenFile} (hfile : s.file = some f) :
    s.latchThumbnail.1.trailer? = s.trailerFor? (f.thumbnail.or s.nextSnapshot?) := by
  obtain ⟨waiting, kept, hsnap⟩ := s.exists_latchThumbnail
  have hkeeps := (hs.latch hfile).1
  have hbox (t : Ticket) : s.latchThumbnail.1.trailerOf? t = s.trailerOf? t := by
    rw [hsnap]
    rfl
  obtain ⟨f', hfile', hkept'⟩ := Option.map_eq_some_iff.mp hkeeps
  rw [trailer?, trailerFor?, hfile', ← hkept']
  cases hthumb : f'.thumbnail with
  | none => simp [hthumb]
  | some t => cases htrailer : s.trailerOf? t <;> simp [hthumb, hbox, htrailer]

/-! ## What a move does -/

/-- What a move does with the snapshot of the open file. -/
inductive Latches (s : Stream) (m : Move) (es : List Entry) (s' : Stream) : Prop
  /-- Nothing. -/
  | apart (hes : ∀ e ∈ es, e.isClosing = false) (hcollects : s.collects m = false)
    (hkeeping : s'.keeping? = s.keeping?)
  /-- A file begins, and keeps no snapshot. -/
  | creates {path} (hes : es = [.event (.fileBegin path)]) (hcollects : s.collects m = false)
    (hkeeping' : s'.keeping? = some none)
  /-- A snapshot is looked for. -/
  | collects {kept} (hes : ∀ e ∈ es, e.isClosing = false) (hcollects : s.collects m = true)
    (hkeeping : s.keeping? = some kept)
    (htaken : snapshotsTaken es = if kept.isSome then [] else s.nextSnapshot?.toList)
    (hkeeping' : s'.keeping? = some (kept.or s.nextSnapshot?))
  /-- A snapshot is looked for, and the file is to be finished: with a trailer first, if the
  snapshot that is kept makes one. -/
  | closes {kept latched en next} (hcollects : s.collects m = true)
    (hkeeping : s.keeping? = some kept) (hact : s.activity = .awake en (.closing next))
    (hlatched : ∀ e ∈ latched, e.isSnapshot = true)
    (htaken : snapshotsTaken latched = if kept.isSome then [] else s.nextSnapshot?.toList)
    (hends : (∃ snapshot data, s.trailerFor? (kept.or s.nextSnapshot?) = some (snapshot, data) ∧
        es = latched ++ [.trailer snapshot data] ∧
        s'.activity = .awake en (.trailing snapshot data next)) ∨
      s.trailerFor? (kept.or s.nextSnapshot?) = none ∧ es = latched ++ [.deinit] ∧
        s'.activity = .awake en (.finishing next))
  /-- The call for a trailer returns, and the file is to be finished. -/
  | trailed {en snapshot data next error} (hm : m = .reply error)
    (hact : s.activity = .awake en (.trailing snapshot data next))
    (hes : es = (error.map Entry.failed).toList ++ [.deinit])
    (hact' : s'.activity = .awake en (.finishing next))

/-- From one task to the next the snapshot stays as it is. -/
theorem Latches.of_tasks {en en' : Bool} {task task' : Task} (h : s.activity = .awake en task)
    (htask : task.isFinal = false) (h' : s'.activity = .awake en' task')
    (htask' : task'.isFinal = false) (hcollects : s.collects m = false)
    (hes : ∀ e ∈ es, e.isClosing = false)
    (hfile : s'.file.map (·.thumbnail) = s.file.map (·.thumbnail)) : s.Latches m es s' := by
  refine .apart hes hcollects ?_
  rw [keeping?_open ((isFinal_awake h).trans htask),
    keeping?_open ((isFinal_awake h').trans htask'), hfile]

/-- The worker collects snapshots, with or without a file. -/
theorem LanesSound.latches_collect (hs : s.LanesSound) {en : Bool} {task : Task}
    (h : s.activity = .awake en task)
    (htask : task = .collecting ∨ task = .taking ∧ s.takeFrame? = none)
    (hact' : s'.activity.isFinal = false) (hfile' : s'.file = s.collectThumbnail.1.file) :
    s.Latches .advance s.collectThumbnail.2 s' := by
  have hes : ∀ e ∈ s.collectThumbnail.2, e.isClosing = false := fun e he =>
    isClosing_of_isSnapshot (s.isSnapshot_collectThumbnail e he)
  have hopen : s.activity.isFinal = false := by
    rw [isFinal_awake h]
    rcases htask with rfl | ⟨rfl, -⟩ <;> rfl
  have hfile' : s'.file = s.latchThumbnail.1.file := hfile'
  cases hfile : s.file with
  | none =>
    refine .apart hes (by simp [Stream.collects, hfile]) ?_
    have hsame : s.latchThumbnail.1 = s := by simp [Stream.latchThumbnail, hfile]
    rw [keeping?_open hopen, keeping?_open hact', hfile', hsame]
  | some f =>
    obtain ⟨hkeeps, htaken⟩ := hs.latch hfile
    refine .collects hes ?_ (by rw [keeping?_open hopen, hfile]; rfl) ?_ ?_
    · rcases htask with rfl | ⟨rfl, hnone⟩
      · simp [Stream.collects, h, hfile]
      · simp [Stream.collects, h, hfile, hnone]
    · rw [← htaken]
      show snapshotsTaken (s.latchThumbnail.2 ++ [.discarded .thumbnail _]) = _
      rw [snapshotsTaken_append]
      exact List.append_nil _
    · rw [keeping?_open hact', hfile', hkeeps]

/-- **What a move does with the snapshot of the open file.** -/
theorem Step.latches (h : Step s m s' es) (hs : s.Shaped) (hlanes : s.LanesSound)
    (hturn : s.isTurn m = true → s'.activity ≠ s.activity) : s.Latches m es s' := by
  cases h with
  | idle =>
    refine .apart nofun ?_ rfl
    by_contra hcollects
    exact hturn (isTurn_of_collects (by simpa using hcollects)) rfl
  | start | stop | shutDown => exact .apart (by simp [Entry.isClosing]) rfl rfl
  | misnamed => exact .apart (forall_mem_optional _ fun _ => rfl) rfl rfl
  | accept hm =>
    refine .apart (by simp [Entry.isClosing]) (by rcases hm with rfl | rfl <;> rfl) ?_
    rw [keeping?, keeping?, activity_setLane, file_setLane]
  | displace =>
    refine .apart (by simp [Entry.isClosing]) rfl ?_
    rw [keeping?, keeping?, activity_setLane, file_setLane]
  | wake h _ | wakeInterrupted h _ _ =>
    refine .apart (by simp [Entry.isClosing]) rfl ?_
    rw [keeping?_open (s := s) (isFinal_resting (by rw [h]; rfl))]
    rfl
  | take h htake _ | takeInterrupted h htake _ =>
    have hcollects : s.collects .advance = false := by simp [Stream.collects, h, htake]
    obtain ⟨l, l', -, rfl⟩ := takeFrame?_eq_some htake
    refine .of_tasks h rfl rfl rfl hcollects (by simp [Entry.isClosing]) ?_
    rw [file_setLane]
  | sleep h hnone => exact hlanes.latches_collect h (.inr ⟨rfl, hnone⟩) rfl rfl
  | closeLast h hnone _ | turnIdle h hnone _ =>
    exact hlanes.latches_collect h (.inr ⟨rfl, hnone⟩) rfl rfl
  | collect h => exact hlanes.latches_collect h (.inl rfl) rfl rfl
  | split h _ _ | writeVideo h _ _ | tryOpen h _ | writeAudio h _ | loseAudio h _ | loseDisabled h _
  | askName h _ _ | askKeyFrame h _ _ _ | loseNonKey h _ _ _ =>
    exact .of_tasks h rfl rfl rfl (by simp [Stream.collects, h]) (by simp [Entry.isClosing]) rfl
  | fail h => exact .of_tasks h rfl rfl rfl rfl (by simp [Entry.isClosing]) rfl
  | begin h => exact .of_tasks h rfl rfl rfl rfl (by simp [Entry.isClosing]) rfl
  | asked h htask => rcases htask with rfl | rfl <;> exact .of_tasks h rfl rfl rfl rfl (by simp) rfl
  | appendTrailer h htrailer | finishBare h htrailer =>
    obtain ⟨f, hfile⟩ := hs.exists_file h rfl
    rw [hlanes.trailer_latch hfile] at htrailer
    have hkeeping : s.keeping? = some f.thumbnail := by
      rw [keeping?_open (isFinal_awake h), hfile]
      rfl
    refine .closes (by simp [Stream.collects, h, hfile]) hkeeping h
      s.isSnapshot_latchThumbnail (hlanes.latch hfile).2 ?_
    · first
        | exact .inl ⟨_, _, htrailer, rfl, rfl⟩
        | exact .inr ⟨htrailer, rfl, rfl⟩
  | @retire en h =>
    refine .apart (s.forall_mem_retire fun _ _ => rfl) (by simp [Stream.collects, h]) ?_
    rw [keeping?_open (isFinal_awake h), keeping?_open (isFinal_resting s.task?_retire)]
    rfl
  | name h =>
    exact .of_tasks h rfl rfl rfl rfl (List.forall_mem_append.mpr
      ⟨forall_mem_optional _ fun _ => rfl, List.forall_mem_singleton.mpr rfl⟩) rfl
  | nameless h | audioWritten h =>
    exact .of_tasks h rfl rfl rfl rfl (forall_mem_optional _ fun _ => rfl) rfl
  | videoWritten h hfile _ =>
    refine .of_tasks h rfl rfl rfl rfl (forall_mem_optional _ fun _ => rfl) ?_
    rw [hfile]
    rfl
  | askThumbnail h hfile _ =>
    refine .of_tasks h rfl rfl rfl rfl (List.forall_mem_append.mpr
      ⟨forall_mem_optional _ fun _ => rfl, List.forall_mem_singleton.mpr rfl⟩) ?_
    rw [hfile]
    rfl
  | videoStray h _ => exact .of_tasks h rfl rfl rfl rfl (forall_mem_optional _ fun _ => rfl) rfl
  | create h _ => exact .creates rfl rfl rfl
  | finish h => exact .trailed rfl h rfl rfl
  | publish h | tellEnd h =>
    refine .apart (forall_mem_optional _ fun _ => rfl) rfl ?_
    rw [keeping?_final (isFinal_awake h)]
    rfl
  | @resume _ next _ h =>
    refine .apart nofun rfl ?_
    rw [keeping?_final (isFinal_awake h), keeping?]
    cases next <;> rfl

/-- A move does with the snapshot of the open file what it may do, and it looks for one if it is its
turn to. -/
theorem latches_move (hs : s.Shaped) (hlanes : s.LanesSound) (m : Move) :
    s.Latches m (s.move m).2 (s.move m).1 :=
  (s.step_move m).latches hs hlanes activity_ne_of_isTurn

/-- A file is only finished by a worker that closes it. -/
theorem resumption_of_deinit (hs : s.Shaped) (hlanes : s.LanesSound)
    (he : .deinit ∈ (s.move m).2) :
    ∃ en task next, s.activity = .awake en task ∧ task.resumption? = some next := by
  cases latches_move hs hlanes m with
  | apart hes | collects hes => cases hes _ he
  | creates hes =>
    rw [hes] at he
    simp at he
  | closes _ _ hact => exact ⟨_, _, _, hact, rfl⟩
  | trailed _ hact => exact ⟨_, _, _, hact, rfl⟩

end Stream

end CameraRecorder

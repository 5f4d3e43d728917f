import CameraRecorder.Proofs.Stream.Filming
import CameraRecorder.Proofs.Stream.Latching
import CameraRecorder.Proofs.Stream.Stage

/-!
# What a journal tells of each file

A file is made of what the journal tells between its beginning and its end: the frames handed over,
and the snapshot that was taken (`recordings`). What the worker is at with its file, and what the
call that it waits for adds, is read off the stream (`Stream.filing`). Every move that has nothing
to do with the disk takes the two together from one to the next (`Stream.Step.filing`), and so does
the end of each call that has.
-/

namespace CameraRecorder

/-! ## Recordings -/

/-- What a journal tells of a file. -/
structure Recording where
  path : Path
  videos : List Ticket := []
  audios : List Ticket := []
  /-- The snapshots that were taken for it. -/
  snapshots : List Ticket := []
  ended : Bool := false
deriving DecidableEq, Repr

namespace Recording

/-- A recording, with what an entry adds to it. -/
def add (r : Recording) : Entry → Recording
  | .video ticket => { r with videos := r.videos ++ [ticket] }
  | .audio ticket => { r with audios := r.audios ++ [ticket] }
  | .taken .thumbnail ticket => { r with snapshots := r.snapshots ++ [ticket] }
  | .event (.fileEnd ..) => { r with ended := true }
  | _ => r

/-- The data of the video frames, in the order they were handed over. -/
def video (r : Recording) : Bytes := r.videos.flatMap (·.frame.data)

/-- The data of the audio frames, in the order they were handed over. -/
def sound (r : Recording) : Bytes := r.audios.flatMap (·.frame.data)

end Recording

/-- The recordings, the latest first, with what an entry tells. After its end nothing is added to a
recording. -/
def record (rs : List Recording) : Entry → List Recording
  | .event (.fileBegin path) => { path } :: rs
  | e => match rs with
    | [] => []
    | r :: rs => (if r.ended then r else r.add e) :: rs

/-- What a journal tells of all files, the latest first. -/
def recordings (es : List Entry) : List Recording := es.foldl record []

/-- The boxes that snapshots make, as far as they fit in one. -/
def boxes (params : ThumbnailParams) (snapshots : List Ticket) : Bytes :=
  snapshots.flatMap fun snapshot =>
    (ThumbnailBox.mk params snapshot.frame.data).encode.toOption.getD []

/-- The audio frame that an entry hands to the writer. -/
def Entry.audio? : Entry → Option Ticket
  | .audio ticket => some ticket
  | _ => none

/-- The audio frames handed to the writer, in order. -/
def audios (es : List Entry) : List Ticket := es.filterMap Entry.audio?

/-- Whether an entry adds something to what is told of a file. -/
def Entry.isRecorded : Entry → Bool
  | .video _ | .audio _ | .taken .thumbnail _ | .event (.fileBegin _) | .event (.fileEnd ..) => true
  | _ => false

theorem recordings_append (es es' : List Entry) :
    recordings (es ++ es') = es'.foldl record (recordings es) :=
  List.foldl_append

theorem record_of_not_isRecorded {e : Entry} (h : e.isRecorded = false) (rs : List Recording) :
    record rs e = rs := by
  have hadd (r : Recording) : r.add e = r := by
    unfold Recording.add
    split <;> first | rfl | cases h
  unfold record
  split
  · cases h
  · cases rs with
    | nil => rfl
    | cons r rs => simp [hadd]

/-- What adds nothing leaves what is told. -/
theorem foldl_record_eq {es : List Entry} (h : ∀ e ∈ es, e.isRecorded = false)
    (rs : List Recording) : es.foldl record rs = rs := by
  induction es generalizing rs with
  | nil => rfl
  | cons e es ih =>
    obtain ⟨he, hes⟩ := List.forall_mem_cons.mp h
    rw [List.foldl_cons, record_of_not_isRecorded he, ih hes]

/-- An entry between the beginning and the end of a file adds what it tells of. -/
theorem record_between {e : Entry} (hbegin : e.isFileBegin = false) (hend : e.isFileEnd = false)
    {r : Recording} (hr : r.ended = false) (rs : List Recording) :
    record (r :: rs) e = { r with
      videos := r.videos ++ e.video?.toList
      audios := r.audios ++ e.audio?.toList
      snapshots := r.snapshots ++ e.snapshot?.toList } :: rs := by
  obtain ⟨path, vs, as, snapshots, ended⟩ := r
  obtain rfl : ended = false := hr
  cases e with
  | taken lane ticket =>
    cases lane <;> simp [record, Recording.add, Entry.video?, Entry.audio?, Entry.snapshot?]
  | event event =>
    cases event with
    | fileBegin => cases hbegin
    | fileEnd => cases hend
    | _ => simp [record, Recording.add, Entry.video?, Entry.audio?, Entry.snapshot?]
  | _ => simp [record, Recording.add, Entry.video?, Entry.audio?, Entry.snapshot?]

/-- **A file is what the journal tells between its beginning and its end**: the frames that were
handed over, and the snapshots that were taken. -/
theorem foldl_record {es : List Entry}
    (h : ∀ e ∈ es, e.isFileBegin = false ∧ e.isFileEnd = false) {r : Recording}
    (hr : r.ended = false) (rs : List Recording) :
    es.foldl record (r :: rs) = { r with
      videos := r.videos ++ videos es
      audios := r.audios ++ audios es
      snapshots := r.snapshots ++ snapshotsTaken es } :: rs := by
  induction es generalizing r with
  | nil => simp [videos, audios, snapshotsTaken]
  | cons e es ih =>
    obtain ⟨⟨hbegin, hend⟩, hes⟩ := List.forall_mem_cons.mp h
    have hcons {α : Type} (f : Entry → Option α) :
        (e :: es).filterMap f = (f e).toList ++ es.filterMap f := by
      rw [List.filterMap_cons]
      cases f e <;> rfl
    rw [List.foldl_cons, record_between hbegin hend hr, ih hes (by exact hr)]
    simp only [videos, audios, snapshotsTaken, hcons, List.append_assoc]

/-- The path of the file that an entry tells began. -/
def Entry.begun? : Entry → Option Path
  | .event (.fileBegin path) => some path
  | _ => none

/-- The recordings are those of the files that began. -/
theorem paths_record (rs : List Recording) (e : Entry) :
    (record rs e).map (·.path) = e.begun?.toList ++ rs.map (·.path) := by
  have hadd (r : Recording) : (r.add e).path = r.path := by
    unfold Recording.add
    split <;> rfl
  unfold record Entry.begun?
  split
  · rfl
  · cases rs with
    | nil => rfl
    | cons r rs =>
      cases hr : r.ended <;> simp [hr, hadd]

theorem paths_foldl_record (es : List Entry) (rs : List Recording) :
    (es.foldl record rs).map (·.path) = (es.filterMap Entry.begun?).reverse ++ rs.map (·.path) := by
  induction es generalizing rs with
  | nil => rfl
  | cons e es ih =>
    rw [List.foldl_cons, ih, paths_record, List.filterMap_cons]
    cases e.begun? <;> simp

/-- A file that ended stays what it was. -/
theorem mem_record {r : Recording} {rs : List Recording} (h : r ∈ rs) (hended : r.ended = true)
    (e : Entry) : r ∈ record rs e := by
  unfold record
  split
  · exact List.mem_cons_of_mem _ h
  · cases rs with
    | nil => exact h
    | cons latest rs =>
      rcases List.mem_cons.mp h with rfl | hmem
      · simp [hended]
      · exact List.mem_cons_of_mem _ hmem

theorem mem_foldl_record {r : Recording} {rs : List Recording} (h : r ∈ rs)
    (hended : r.ended = true) (es : List Entry) : r ∈ es.foldl record rs := by
  induction es generalizing rs with
  | nil => exact h
  | cons e es ih => exact ih (mem_record h hended e)

/-- A file that is about to be finished gets the snapshots that are taken then. -/
theorem foldl_record_snapshots {es : List Entry}
    (h : ∀ e ∈ es, e.isSnapshot = true ∨ e.isClosing = true) {r : Recording}
    (hr : r.ended = false) (rs : List Recording) :
    es.foldl record (r :: rs)
      = { r with snapshots := r.snapshots ++ snapshotsTaken es } :: rs := by
  have hapart : ∀ e ∈ es, (e.isFileBegin = false ∧ e.isFileEnd = false) ∧ e.isFilming = false ∧
      e.audio? = none := by
    intro e he
    rcases h e he with he | he
    · rcases Entry.eq_of_isSnapshot he with ⟨ticket, rfl⟩ | ⟨tickets, rfl⟩ <;>
        exact ⟨⟨rfl, rfl⟩, rfl, rfl⟩
    · cases e <;> first | exact ⟨⟨rfl, rfl⟩, rfl, rfl⟩ | cases he
  have hnone : audios es = [] := List.filterMap_eq_nil_iff.mpr fun e he => (hapart e he).2.2
  rw [foldl_record (fun e he => (hapart e he).1) hr, hnone,
    videos_eq_nil fun e he => (hapart e he).2.1, List.append_nil, List.append_nil]

/-! ## What a worker is at -/

/-- The video data that the call for a task adds to the file. -/
def Task.videoData : Task → Bytes
  | writingVideo ticket => ticket.frame.data
  | trailing _ data _ => data
  | _ => []

/-- The audio data that the call for a task adds to the file. -/
def Task.audioData : Task → Bytes
  | writingAudio ticket => ticket.frame.data
  | _ => []

/-- What a worker is at with its file, as far as the disk is concerned. -/
inductive Filing where
  /-- There is no file, or it is finished. -/
  | closed
  /-- The writer is asked to open a file. -/
  | asked (path : Path)
  /-- The file is written. It has these snapshots, for which a trailer was made if they are the
  last; the call that the worker waits for adds video and audio data. -/
  | writing (path : Path) (snapshots : List Ticket) (last : Bool) (video audio : Bytes)
  /-- The writer has finished the file, and it gets its final name. -/
  | publishing (path : Path) (snapshots : List Ticket)

/-- From one moment to the next, while nothing is carried out on the disk. -/
inductive Filing.Goes (params : ThumbnailParams) : Filing → List Entry → Filing → Prop
  | stays {filing es} (hes : ∀ e ∈ es, e.isRecorded = false) : Goes params filing es filing
  | asks {path es} (hes : ∀ e ∈ es, e.isRecorded = false) : Goes params .closed es (.asked path)
  | handsVideo {path snapshots} (ticket : Ticket) :
    Goes params (.writing path snapshots false [] []) [.video ticket]
      (.writing path snapshots false ticket.frame.data [])
  | handsAudio {path snapshots} (ticket : Ticket) :
    Goes params (.writing path snapshots false [] []) [.audio ticket]
      (.writing path snapshots false [] ticket.frame.data)
  | keeps {path snapshots es} (hes : ∀ e ∈ es, e.isSnapshot = true) :
    Goes params (.writing path snapshots false [] []) es
      (.writing path (snapshots ++ snapshotsTaken es) false [] [])
  | closes {path snapshots es} (hes : ∀ e ∈ es, e.isSnapshot = true ∨ e.isClosing = true) :
    Goes params (.writing path snapshots false [] []) es
      (.writing path (snapshots ++ snapshotsTaken es) true
        (boxes params (snapshots ++ snapshotsTaken es)) [])

/-- From one moment to the next, when a call is carried out on the disk and succeeds. -/
inductive Filing.Ends : Task → Filing → List Entry → Filing → Prop
  | opens {ticket generation path} : Ends (.creating ticket generation path) (.asked path)
    [.event (.fileBegin path)] (.writing path [] false [] [])
  | writes {task path snapshots last es}
    (htask : (∃ ticket, task = .writingVideo ticket) ∨ (∃ ticket, task = .writingAudio ticket) ∨
      ∃ snapshot data next, task = .trailing snapshot data next)
    (hes : ∀ e ∈ es, e.isRecorded = false) :
    Ends task (.writing path snapshots last task.videoData task.audioData) es
      (.writing path snapshots last [] [])
  | finishes {next path snapshots} :
    Ends (.finishing next) (.writing path snapshots true [] []) [] (.publishing path snapshots)
  | publishes {next path snapshots durationMs} : Ends (.publishing next)
    (.publishing path snapshots) [.event (.fileEnd path durationMs)] .closed

namespace Stream

variable {s s' : Stream} {m : Move} {es : List Entry}

/-- What the worker is at with its file. -/
def filing (s : Stream) : Filing :=
  match s.activity.task? with
  | some (.creating _ _ path) => .asked path
  | some (.publishing _) => s.file.elim .closed fun f => .publishing f.path f.thumbnail.toList
  | some (.ending _) => .closed
  | task? => s.file.elim .closed fun f =>
    .writing f.path f.thumbnail.toList (task?.any Task.isFinal) (task?.elim [] Task.videoData)
      (task?.elim [] Task.audioData)

/-- Whether nothing is carried out on the disk, and the file is not being finished. -/
def isBetween (s : Stream) : Bool :=
  s.activity.task?.all fun task => !task.usesDisk && !task.isFinal

theorem filing_between (h : s.isBetween = true) : s.filing = s.file.elim .closed fun f =>
    .writing f.path f.thumbnail.toList false [] [] := by
  unfold filing
  unfold isBetween at h
  cases hact : s.activity.task? with
  | none => rfl
  | some task =>
    rw [hact] at h
    cases task <;> first | rfl | cases h

theorem isBetween_awake {en : Bool} {task : Task} (hact : s.activity = .awake en task)
    (htask : (!task.usesDisk && !task.isFinal) = true) : s.isBetween = true := by
  rw [isBetween, hact]
  exact htask

theorem isBetween_resting (h : s.activity.task? = none) : s.isBetween = true := by
  rw [isBetween, h]
  rfl

/-- As long as the file stays as it is, nothing changes between two calls. -/
theorem goes_between {params : ThumbnailParams} (h : s.isBetween = true) (h' : s'.isBetween = true)
    (hfile : s'.file = s.file) (hes : ∀ e ∈ es, e.isRecorded = false) :
    s.filing.Goes params es s'.filing := by
  rw [filing_between h, filing_between h', hfile]
  exact .stays hes

/-- A latched snapshot is one that was taken, and nothing else about the file changes. -/
theorem exists_latched (s : Stream) {f : OpenFile} (hfile : s.file = some f) :
    ∃ kept, s.latchThumbnail.1.file = some { f with thumbnail := kept } ∧
      kept.toList = f.thumbnail.toList ++ snapshotsTaken s.latchThumbnail.2 := by
  obtain ⟨path, writePath, generation, startedAt, lastPts, frameCount, asked, thumbnail⟩ := f
  unfold latchThumbnail
  rw [hfile]
  cases thumbnail with
  | some kept => exact ⟨some kept, by simp [hfile], by simp [snapshotsTaken]⟩
  | none =>
    cases hpop : s.thumbnails.pop? with
    | none => exact ⟨none, by simp [hfile], by simp [snapshotsTaken]⟩
    | some r => exact ⟨some r.1, by simp, by simp [snapshotsTaken, Entry.snapshot?]⟩

/-- The worker looks for snapshots. -/
theorem goes_collect {params : ThumbnailParams} (h : s.isBetween = true)
    (h' : s'.isBetween = true) (hfile' : s'.file = s.collectThumbnail.1.file) :
    s.filing.Goes params s.collectThumbnail.2 s'.filing := by
  have hfile' : s'.file = s.latchThumbnail.1.file := hfile'
  have htaken : snapshotsTaken s.collectThumbnail.2 = snapshotsTaken s.latchThumbnail.2 :=
    (snapshotsTaken_append ..).trans (List.append_nil _)
  rw [filing_between h, filing_between h', hfile']
  cases hfile : s.file with
  | none =>
    have hnone : s.latchThumbnail = (s, []) := by simp [latchThumbnail, hfile]
    rw [show s.latchThumbnail.1 = s from congrArg Prod.fst hnone, hfile]
    refine .stays fun e he => ?_
    rw [show s.collectThumbnail.2 = s.latchThumbnail.2 ++ [.discarded .thumbnail _] from rfl,
      hnone] at he
    rw [List.mem_singleton.mp he]
    rfl
  | some f =>
    obtain ⟨kept, hlatched, hkept⟩ := s.exists_latched hfile
    rw [hlatched]
    simp only [Option.elim_some]
    rw [hkept, ← htaken]
    exact .keeps s.isSnapshot_collectThumbnail

/-- The worker hands a video frame over. -/
theorem goes_writeVideo {params : ThumbnailParams} {f : OpenFile} {en : Bool} {ticket : Ticket}
    (h : s.isBetween = true) (hfile : s.file = some f) : s.filing.Goes params [.video ticket]
      (filing { s with activity := .awake en (.writingVideo ticket) }) := by
  have hfiling' : filing { s with activity := .awake en (.writingVideo ticket) }
      = s.file.elim .closed fun f =>
        .writing f.path f.thumbnail.toList false ticket.frame.data [] := rfl
  rw [filing_between h, hfiling', hfile]
  exact .handsVideo ticket

/-- The worker hands an audio frame over. -/
theorem goes_writeAudio {params : ThumbnailParams} {f : OpenFile} {en : Bool} {ticket : Ticket}
    (h : s.isBetween = true) (hfile : s.file = some f) : s.filing.Goes params [.audio ticket]
      (filing { s with activity := .awake en (.writingAudio ticket) }) := by
  have hfiling' : filing { s with activity := .awake en (.writingAudio ticket) }
      = s.file.elim .closed fun f =>
        .writing f.path f.thumbnail.toList false [] ticket.frame.data := rfl
  rw [filing_between h, hfiling', hfile]
  exact .handsAudio ticket

/-- The trailer is the box that the kept snapshot makes. -/
theorem boxes_of_trailer {f : OpenFile} (hfile : s.file = some f) :
    boxes s.config.thumbnail f.thumbnail.toList = (s.trailer?.map (·.2)).getD [] := by
  rw [trailer?, hfile]
  cases hkept : f.thumbnail with
  | none => simp [boxes, hkept]
  | some snapshot =>
    cases hbox : (ThumbnailBox.mk s.config.thumbnail snapshot.frame.data).encode with
    | ok data => simp [boxes, hkept, trailerOf?, hbox, Except.toOption]
    | error cause => simp [boxes, hkept, trailerOf?, hbox, Except.toOption]

/-- The worker begins to finish the file, with the trailer if there is one. -/
theorem goes_close (hs : s.Shaped) {en : Bool} {next : Resumption}
    (h : s.activity = .awake en (.closing next)) {e : Entry} (he : e.isClosing = true)
    (hfiling' : s'.filing = s.latchThumbnail.1.file.elim .closed fun f =>
      .writing f.path f.thumbnail.toList true
        ((s.latchThumbnail.1.trailer?.map (·.2)).getD []) []) :
    s.filing.Goes s.config.thumbnail (s.latchThumbnail.2 ++ [e]) s'.filing := by
  obtain ⟨f, hfile⟩ := hs.exists_file h rfl
  obtain ⟨kept, hlatched, hkept⟩ := s.exists_latched hfile
  have htaken : snapshotsTaken (s.latchThumbnail.2 ++ [e]) = snapshotsTaken s.latchThumbnail.2 := by
    have hnone : snapshotsTaken [e] = [] := by cases e <;> first | rfl | cases he
    rw [snapshotsTaken_append, hnone, List.append_nil]
  have hconfig : s.latchThumbnail.1.config = s.config := by
    obtain ⟨waiting, kept, hlatch⟩ := s.exists_latchThumbnail
    rw [hlatch]
    rfl
  rw [filing_between (isBetween_awake h rfl), hfile, hfiling', ← boxes_of_trailer hlatched,
    hlatched, hconfig]
  simp only [Option.elim_some]
  rw [hkept, ← htaken]
  exact .closes (List.forall_mem_append.mpr
    ⟨fun e he => .inl (s.isSnapshot_latchThumbnail e he), List.forall_mem_singleton.mpr (.inr he)⟩)

/-- **Between the calls that are carried out on the disk**, what the worker is at goes with what the
journal tells. -/
theorem Step.filing (h : Step s m s' es) (hs : s.Shaped) (hcalm : s.endsDiskCall m = false) :
    s.filing.Goes s.config.thumbnail es s'.filing := by
  have hended {en : Bool} {task : Task} {error : Option WriterError}
      (hact : s.activity = .awake en task) (hm : m = .reply error) : task.usesDisk = false := by
    rw [hm, endsDiskCall, hact] at hcalm
    simpa [Activity.task?] using hcalm
  cases h with
  | idle => exact .stays (List.forall_mem_nil _)
  | start | stop | shutDown => exact .stays (by simp [Entry.isRecorded])
  | misnamed => exact .stays (forall_mem_optional _ fun _ => rfl)
  | accept | displace =>
    unfold Stream.filing
    rw [activity_setLane, file_setLane]
    exact .stays (by simp [Entry.isRecorded])
  | wake h _ | wakeInterrupted h _ _ =>
    refine goes_between (isBetween_resting ?_) (isBetween_awake rfl rfl) rfl
      (by simp [Entry.isRecorded])
    rw [h]
    rfl
  | take h htake _ | takeInterrupted h htake _ =>
    obtain ⟨l, l', -, rfl⟩ := takeFrame?_eq_some htake
    refine goes_between (isBetween_awake h rfl) (isBetween_awake rfl rfl) (file_setLane ..) ?_
    rename_i pending _
    cases pending <;> exact List.forall_mem_singleton.mpr rfl
  | sleep h _ => exact goes_collect (isBetween_awake h rfl) (isBetween_resting rfl) rfl
  | closeLast h _ _ | turnIdle h _ _ | collect h =>
    exact goes_collect (isBetween_awake h rfl) (isBetween_awake rfl rfl) rfl
  | split h _ _ | tryOpen h _ | loseAudio h _ | loseDisabled h _ | askName h _ _
  | askKeyFrame h _ _ _ | loseNonKey h _ _ _ =>
    exact goes_between (isBetween_awake h rfl) (isBetween_awake rfl rfl) rfl
      (by simp [Entry.isRecorded])
  | nameless h =>
    exact goes_between (isBetween_awake h rfl) (isBetween_awake rfl rfl) rfl
      (forall_mem_optional _ fun _ => rfl)
  | asked h htask =>
    rcases htask with rfl | rfl <;>
      exact goes_between (isBetween_awake h rfl) (isBetween_awake rfl rfl) rfl
        (List.forall_mem_nil _)
  | writeVideo h hfile _ => exact goes_writeVideo (isBetween_awake h rfl) hfile
  | begin h =>
    obtain ⟨f, hfile⟩ := hs.exists_file h rfl
    exact goes_writeVideo (isBetween_awake h rfl) hfile
  | writeAudio h hfile => exact goes_writeAudio (isBetween_awake h rfl) hfile
  | appendTrailer h htrailer =>
    refine goes_close hs h rfl ?_
    rw [htrailer]
    rfl
  | finishBare h htrailer =>
    refine goes_close hs h rfl ?_
    rw [htrailer]
    rfl
  | retire h =>
    exact goes_between (isBetween_awake h rfl) (isBetween_resting s.task?_retire) rfl
      (s.forall_mem_retire fun _ _ => rfl)
  | name h =>
    rw [filing_between (isBetween_awake h rfl), hs.file_eq_none h rfl]
    exact .asks (List.forall_mem_append.mpr
      ⟨forall_mem_optional _ fun _ => rfl, List.forall_mem_singleton.mpr rfl⟩)
  | @resume en next _ h =>
    have hclosed : s.filing = .closed := by
      rw [Stream.filing, h]
      rfl
    rw [hclosed]
    cases next <;> exact .stays (List.forall_mem_nil _)
  | create h _ | fail h | videoWritten h _ _ | askThumbnail h _ _ | videoStray h _ | audioWritten h
  | finish h | publish h | tellEnd h => cases hended h rfl

/-- The end of a call that is carried out on the disk. -/
theorem reply_ends (hs : s.Shaped) {en : Bool} {task : Task} (hact : s.activity = .awake en task)
    (htask : task.usesDisk = true) :
    Filing.Ends task s.filing (s.reply none).2 (s.reply none).1.filing := by
  cases task with
  | creating ticket generation path =>
    have hreply : s.reply none = ({ s with
        keyFrameAskedAt := none
        file := some (s.newFile ticket generation path)
        activity := .awake en (.beginning ticket) }, [.event (.fileBegin path)]) := by
      simp [reply, hact, created, turnTo, callEntry?, newFile]
    rw [hreply, show s.filing = .asked path by rw [filing, hact]; rfl]
    exact .opens
  | writingVideo ticket =>
    obtain ⟨f, hfile⟩ := hs.exists_file hact rfl
    have hfiling : s.filing = .writing f.path f.thumbnail.toList false ticket.frame.data [] := by
      rw [filing, hact, hfile]
      rfl
    have hreply : (s.reply none).1.filing = .writing f.path f.thumbnail.toList false [] [] ∧
        ∀ e ∈ (s.reply none).2, e.isRecorded = false := by
      simp only [reply, hact, videoWritten, hfile]
      generalize (!f.thumbnailAsked && _) = due
      cases due with
      | true => exact ⟨rfl, List.forall_mem_singleton.mpr rfl⟩
      | false => exact ⟨rfl, List.forall_mem_nil _⟩
    rw [hfiling, hreply.1]
    exact .writes (.inl ⟨ticket, rfl⟩) hreply.2
  | writingAudio ticket =>
    obtain ⟨f, hfile⟩ := hs.exists_file hact rfl
    have hfiling : s.filing = .writing f.path f.thumbnail.toList false [] ticket.frame.data := by
      rw [filing, hact, hfile]
      rfl
    have hreply : s.reply none = ({ s with activity := .awake en .collecting }, []) := by
      simp [reply, hact, turnTo, callEntry?]
    rw [hreply, hfiling, filing_between (isBetween_awake rfl rfl), hfile]
    exact .writes (.inr (.inl ⟨ticket, rfl⟩)) (List.forall_mem_nil _)
  | trailing snapshot data next =>
    obtain ⟨f, hfile⟩ := hs.exists_file hact rfl
    have hfiling : s.filing = .writing f.path f.thumbnail.toList true data [] := by
      rw [filing, hact, hfile]
      rfl
    have hreply : s.reply none
        = ({ s with activity := .awake en (.finishing next) }, [.deinit]) := by
      simp [reply, hact, turnTo, callEntry?]
    have hfiling' : filing { s with activity := .awake en (.finishing next) }
        = .writing f.path f.thumbnail.toList true [] [] := by
      rw [filing, hfile]
      rfl
    rw [hreply, hfiling, hfiling']
    exact .writes (.inr (.inr ⟨snapshot, data, next, rfl⟩)) (List.forall_mem_singleton.mpr rfl)
  | finishing next =>
    obtain ⟨f, hfile⟩ := hs.exists_file hact rfl
    have hfiling : s.filing = .writing f.path f.thumbnail.toList true [] [] := by
      rw [filing, hact, hfile]
      rfl
    have hreply : s.reply none = ({ s with activity := .awake en (.publishing next) }, []) := by
      simp [reply, hact, turnTo, callEntry?]
    have hfiling' : filing { s with activity := .awake en (.publishing next) }
        = .publishing f.path f.thumbnail.toList := by
      rw [filing, hfile]
      rfl
    rw [hreply, hfiling, hfiling']
    exact .finishes
  | publishing next =>
    obtain ⟨f, hfile⟩ := hs.exists_file hact rfl
    have hfiling : s.filing = .publishing f.path f.thumbnail.toList := by
      rw [filing, hact, hfile]
      rfl
    have hreply : s.reply none = ({ s with
        filesCompleted := s.filesCompleted + 1
        activity := .awake en (.ending next) }, [.event (.fileEnd f.path (s.durationMs f))]) := by
      simp [reply, hact, turnTo, callEntry?, hfile, durationMs, policy]
    rw [hreply, hfiling]
    exact .publishes
  | _ => cases htask

/-! ## The name of a file in progress -/

/-- The open file is written under the name that the stream gives it. -/
def WritesAsNamed (s : Stream) : Prop := ∀ f, s.file = some f → f.writePath = s.writePath f.path

theorem Step.writesAsNamed (h : Step s m s' es) (hs : s.Shaped) (hnamed : s.WritesAsNamed) :
    s'.WritesAsNamed := by
  intro f' hf'
  rw [writePath, h.same.handle]
  cases h.films hs with
  | apart _ _ _ hfile =>
    rw [hf'] at hfile
    obtain ⟨f, hf, hbare⟩ := Option.map_eq_some_iff.mp hfile.symm
    have hpath : f.bare.path = f'.bare.path := congrArg OpenFile.path hbare
    have hwritePath : f.bare.writePath = f'.bare.writePath := congrArg OpenFile.writePath hbare
    exact hwritePath.symm.trans ((hnamed f hf).trans (congrArg s.writePath hpath))
  | creates _ _ _ _ hfile =>
    cases hfile.symm.trans hf'
    rfl
  | hands _ _ _ _ hfile => exact hnamed f' (hfile.symm.trans hf')
  | @returns _ _ file _ _ _ hopen _ _ _ hfile =>
    cases hfile.symm.trans hf'
    exact hnamed file hopen
  | closes _ _ _ _ hfile => cases hfile.symm.trans hf'

end Stream

end CameraRecorder

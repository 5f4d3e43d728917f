import CameraRecorder.Proofs.Stream.Leftovers
import Mathlib.Data.List.Induction

/-!
# What is reported about a file

That a file begins and that it ends is told under the name that was found for it, and its duration
is that of the video frames handed over in between: of the first and the last of them, and of their
number. What the open file remembers of them is kept by every move (`Stream.Holds`,
`Stream.Carries`), and the files that are counted are those whose end was told.
-/

namespace CameraRecorder

/-- Of the members of a list that satisfy `p` one is the last. -/
theorem exists_last {α : Type} {p : α → Bool} {l : List α} (h : ∃ a ∈ l, p a = true) :
    ∃ pre a post, l = pre ++ a :: post ∧ p a = true ∧ ∀ b ∈ post, p b = false := by
  have hsome : (l.reverse.find? p).isSome = true := by
    simpa [List.find?_isSome] using h
  obtain ⟨a, hfind⟩ := Option.isSome_iff_exists.mp hsome
  obtain ⟨ha, post, pre, hl, hpost⟩ := List.find?_eq_some_iff_append.mp hfind
  refine ⟨pre.reverse, a, post.reverse, ?_, ha, fun b hb => ?_⟩
  · rw [← List.reverse_reverse l, hl]
    simp
  · simpa using hpost b (List.mem_reverse.mp hb)

namespace Stream

variable {s s' : Stream} {m : Move} {es before : List Entry} {first : Ticket} {path : Path}

/-! ## The count of files -/

theorem filesCompleted_setLane (s : Stream) (l : Lane) (kind : LaneKind) :
    (s.setLane l kind).filesCompleted = s.filesCompleted := by
  cases kind <;> rfl

/-- A file is counted when its end is told. -/
theorem Step.filesCompleted (h : Step s m s' es) (hs : s.Shaped) :
    s'.filesCompleted = s.filesCompleted + es.countP Entry.isFileEnd := by
  have hquiet {s₁ : Stream} {es₁ : List Entry} (hes : ∀ e ∈ es₁, e.isFileEnd = false)
      (hcount : s₁.filesCompleted = s.filesCompleted) :
      s₁.filesCompleted = s.filesCompleted + es₁.countP Entry.isFileEnd := by
    rw [hcount, List.countP_eq_zero.mpr fun e he => by simp [hes e he]]
    rfl
  have hsnapshots {es₁ : List Entry} (hes : ∀ e ∈ es₁, e.isSnapshot = true) :
      ∀ e ∈ es₁, e.isFileEnd = false := forall_mem_snapshots hes (fun _ => rfl) fun _ => rfl
  cases h with
  | tellEnd h =>
    obtain ⟨f, hfile⟩ := hs.exists_file h rfl
    rw [hfile]
    rfl
  | accept | displace => exact hquiet (by simp [Entry.isFileEnd]) (filesCompleted_setLane ..)
  | take _ htake _ | takeInterrupted _ htake _ =>
    obtain ⟨l, l', -, rfl⟩ := takeFrame?_eq_some htake
    exact hquiet (by simp [Entry.isFileEnd]) (filesCompleted_setLane ..)
  | sleep | closeLast | turnIdle | collect =>
    obtain ⟨waiting, kept, hsnap⟩ := s.exists_collectThumbnail
    exact hquiet (hsnapshots s.isSnapshot_collectThumbnail) (by rw [hsnap]; rfl)
  | appendTrailer | finishBare =>
    obtain ⟨waiting, kept, hsnap⟩ := s.exists_latchThumbnail
    exact hquiet (List.forall_mem_append.mpr ⟨hsnapshots s.isSnapshot_latchThumbnail,
      List.forall_mem_singleton.mpr rfl⟩) (by rw [hsnap]; rfl)
  | retire => exact hquiet (s.forall_mem_retire fun _ _ => rfl) rfl
  | name | askThumbnail | finish =>
    exact hquiet (List.forall_mem_append.mpr
      ⟨forall_mem_optional _ fun _ => rfl, List.forall_mem_singleton.mpr rfl⟩) rfl
  | misnamed | nameless | videoWritten | videoStray | audioWritten | publish =>
    exact hquiet (forall_mem_optional _ fun _ => rfl) rfl
  | _ => exact hquiet (by simp [Entry.isFileEnd]) rfl

theorem filesCompleted_run (hs : s.Shaped) (ms : List Move) :
    (s.run ms).1.filesCompleted = s.filesCompleted + (s.run ms).2.countP Entry.isFileEnd := by
  induction ms generalizing s with
  | nil => rfl
  | cons m ms ih =>
    have hstep := s.step_move m
    rw [run_cons, List.countP_append, ih (hstep.shaped hs), hstep.filesCompleted hs, Nat.add_assoc]

/-! ## The name of a file -/

/-- The writer is asked to open a file as soon as the file has a name, and the worker then waits. -/
theorem Step.of_creating (h : Step s m s' es) {en : Bool} {generation : Nat}
    (hact' : s'.activity = .awake en (.creating first generation path)) :
    s.activity = .awake en (.creating first generation path) ∧ (∀ e ∈ es, e.isWork = false) ∨
      ∃ request, m = .named request (.ok path) ∧
        s.activity = .awake en (.naming first generation) := by
  cases h with
  | idle | start | stop | shutDown => exact .inl ⟨hact', by simp [Entry.isWork]⟩
  | misnamed => exact .inl ⟨hact', forall_mem_optional _ fun _ => rfl⟩
  | accept | displace =>
    rw [activity_setLane] at hact'
    exact .inl ⟨hact', by simp [Entry.isWork]⟩
  | name h =>
    cases hact'
    exact .inr ⟨_, rfl, h⟩
  | retire =>
    have hrest := s.task?_retire
    rw [hact'] at hrest
    cases hrest
  | @resume _ next => cases next <;> cases hact'
  | _ => cases hact'

/-- A file that is being opened has been named, and the worker has done nothing since. -/
theorem exists_naming (hrest : s.activity.task? = none) {ms : List Move} {en : Bool}
    {generation : Nat}
    (hact : (s.run ms).1.activity = .awake en (.creating first generation path)) :
    ∃ ms₁ request ms₂ gap, ms = ms₁ ++ .named request (.ok path) :: ms₂ ∧
      (s.run ms₁).1.activity = .awake en (.naming first generation) ∧
      (s.run ms).2 = (s.run (ms₁ ++ [.named request (.ok path)])).2 ++ gap ∧
      ∀ e ∈ gap, e.isWork = false := by
  induction ms using List.reverseRecOn with
  | nil =>
    rw [run_nil] at hact
    rw [hact] at hrest
    cases hrest
  | append_singleton ms m ih =>
    have hrun : s.run (ms ++ [m])
        = (((s.run ms).1.move m).1, (s.run ms).2 ++ ((s.run ms).1.move m).2) := by
      simp [run_append, run_cons]
    rw [hrun] at hact ⊢
    rcases ((s.run ms).1.step_move m).of_creating hact with
      ⟨hbefore, hidle⟩ | ⟨request, rfl, hnaming⟩
    · obtain ⟨ms₁, request, ms₂, gap, rfl, hnaming, htold, hgap⟩ := ih hbefore
      refine ⟨ms₁, request, ms₂ ++ [m], gap ++ _, by simp, hnaming, ?_,
        List.forall_mem_append.mpr ⟨hgap, hidle⟩⟩
      rw [← List.append_assoc, ← htold]
    · exact ⟨ms, request, [], [], rfl, hnaming, by rw [hrun]; simp, List.forall_mem_nil _⟩

/-! ## What the open file remembers -/

/-- What an open file remembers that began under a name with a frame, where `es` tells what happened
since: its name, and the timestamp of the last video frame whose writing has ended. -/
def Carries (s : Stream) (path : Path) (first : Ticket) (es : List Entry) : Prop :=
  ∀ f, s.file = some f → f.path = path ∧ ∃ done, videos es = done ++ s.writing?.toList ∧
    f.lastPts = (done.getLast?.getD first).frame.pts

theorem carries_of_created {en : Bool} {generation : Nat}
    (hact : s.activity = .awake en (.beginning first))
    (hfile : s.file = some (s'.newFile first generation path)) : s.Carries path first [] := by
  intro f hf
  cases hfile.symm.trans hf
  exact ⟨rfl, [], by rw [writing?_awake hact]; rfl, rfl⟩

/-- **What the open file remembers is true**, as long as no other file begins. -/
theorem Step.carries (h : Step s m s' es) (hs : s.Shaped) (hc : s.Carries path first before)
    (hes : ∀ e ∈ es, e.isFileBegin = false) : s'.Carries path first (before ++ es) := by
  intro f' hf'
  rw [videos_append]
  cases h.films hs with
  | apart hapart hwriting _ hfile =>
    obtain ⟨f, kept, hopen, rfl⟩ := exists_of_bare hf' hfile
    obtain ⟨hpath, done, hdone, hlast⟩ := hc f hopen
    rw [videos_eq_nil hapart, List.append_nil, hwriting]
    exact ⟨hpath, done, hdone, hlast⟩
  | creates _ hmade =>
    rw [hmade] at hes
    cases hes _ (List.mem_singleton.mpr rfl)
  | @hands en ticket hact hmade hact' _ hfile =>
    obtain ⟨hpath, done, hdone, hlast⟩ := hc f' (hfile.symm.trans hf')
    have hidle : s.writing? = none := by
      rcases hact with hact | ⟨hact, -⟩ <;> exact writing?_awake hact
    rw [hidle, Option.toList_none, List.append_nil] at hdone
    rw [hmade, hdone, writing?_awake hact']
    exact ⟨hpath, done, rfl, hlast⟩
  | @returns en ticket file error hact _ hopen hmade hwriting _ hfile =>
    cases hfile.symm.trans hf'
    obtain ⟨hpath, done, hdone, -⟩ := hc file hopen
    rw [writing?_awake hact] at hdone
    have hnone : videos es = [] := by
      rw [hmade]
      cases error <;> cases s.asksAfter file <;> rfl
    refine ⟨hpath, done ++ [ticket], ?_, ?_⟩
    · rw [hdone, hnone, hwriting]
      simp [Task.writing?]
    · rw [List.getLast?_concat]
      rfl
  | closes _ _ _ _ hfile => cases hfile.symm.trans hf'

theorem carries_run (hs : s.Shaped) (hc : s.Carries path first before) {ms : List Move}
    (hes : ∀ e ∈ (s.run ms).2, e.isFileBegin = false) :
    (s.run ms).1.Carries path first (before ++ (s.run ms).2) := by
  induction ms generalizing s before with
  | nil => rwa [run_nil, List.append_nil]
  | cons m ms ih =>
    have hstep := s.step_move m
    have hfirst := hstep.carries hs hc fun e he => hes e (List.mem_append_left _ he)
    rw [run_cons, ← List.append_assoc]
    exact ih (hstep.shaped hs) hfirst fun e he => hes e (List.mem_append_right _ he)

/-! ## The end of a file -/

/-- The end of a file is told as the open file has it, when it has got its name. -/
theorem Step.reports (h : Step s m s' es) {durationMs : Nat}
    (he : .event (.fileEnd path durationMs) ∈ es) :
    ∃ f en next, s.activity = .awake en (.publishing next) ∧ s.file = some f ∧ path = f.path ∧
      durationMs = s.durationMs f := by
  obtain ⟨hes, en, next, hact⟩ := h.of_fileEnd he rfl
  rcases h.waits hact rfl with ⟨-, hidle⟩ | ⟨error, rfl⟩
  · cases hidle _ he
  · cases h with
    | tellEnd h =>
      obtain ⟨f, hfile, heq⟩ := Option.map_eq_some_iff.mp (Option.mem_toList.mp he)
      cases heq
      exact ⟨f, en, next, hact, hfile, rfl, rfl⟩
    | idle => cases he
    | accept hm => rcases hm with hm | hm <;> cases hm
    | create h _ | fail h | begin h | videoWritten h _ _ | askThumbnail h _ _ | videoStray h _
    | audioWritten h | finish h | publish h | resume h => cases hact.symm.trans h
    | asked h htask => rcases htask with rfl | rfl <;> cases hact.symm.trans h

/-- A file of which the end is told began before, and no file began or ended since. -/
theorem exists_begin (hs : s.Shaped) (hclosed : s.fileStage = .closed) {ms : List Move} {en : Bool}
    {next : Resumption} (hact : (s.run ms).1.activity = .awake en (.publishing next)) :
    ∃ pre path between, (s.run ms).2 = pre ++ .event (.fileBegin path) :: between ∧
      ∀ e ∈ between, e.isBoundary = false := by
  have hfollows := follows_run hs ms
  rw [Follows, hclosed, fileStage_of_task hact rfl] at hfollows
  have hcount := FileStage.countP_isFileEnd hfollows
  have hbegins : 0 < (s.run ms).2.countP Entry.isFileBegin := by
    simp only [FileStage.unended] at hcount
    omega
  obtain ⟨pre, e, between, htold, hbegin, hbetween⟩ := exists_last (List.countP_pos_iff.mp hbegins)
  obtain ⟨path, rfl⟩ := Entry.eq_of_isFileBegin hbegin
  refine ⟨pre, path, between, htold, ?_⟩
  -- the file that began is the one that is open, so none has ended
  rw [htold, FileStage.follow?_append] at hfollows
  obtain ⟨reached, -, hfollows⟩ := Option.bind_eq_some_iff.mp hfollows
  obtain ⟨stage, hnext, hfollows⟩ := Option.bind_eq_some_iff.mp hfollows
  have hstage : stage = .begun := by
    cases reached <;> cases hnext
    rfl
  subst hstage
  have hends := FileStage.countP_isFileEnd hfollows
  have hnone : between.countP Entry.isFileBegin = 0 :=
    List.countP_eq_zero.mpr fun e he => by simp [hbetween e he]
  simp only [FileStage.unended, hnone] at hends
  intro e he
  refine Bool.or_eq_false_iff.mpr ⟨hbetween e he, Bool.eq_false_iff.mpr ?_⟩
  exact List.countP_eq_zero.mp (by omega) e he

/-- The whole of a file in a run, up to its end: the answer to the call for its name, the frame that
opens it, and the video frames handed over for it. -/
structure Filed (s : Stream) (ms : List Move) (path : Path) (first : Ticket) (rest : List Ticket)
    (journal : List Entry) : Prop where
  key : first.frame.isKey = true
  /-- The file was named when the worker was to open it with its first frame; then the worker did
  nothing until it told that the file began, and no file began or ended since. -/
  begins : ∃ ms₁ request en generation gap between,
    ms₁ ++ [.named request (.ok path)] <+: ms ∧
    (s.run ms₁).1.activity = .awake en (.naming first generation) ∧
    journal = (s.run (ms₁ ++ [.named request (.ok path)])).2 ++
      (gap ++ .event (.fileBegin path) :: between) ∧
    (∀ e ∈ gap, e.isWork = false) ∧ (∀ e ∈ between, e.isBoundary = false) ∧
    videos between = first :: rest

/-- A file that is to get its final name was opened under the name that was found for it, and
remembers the frames that were handed over since. -/
theorem exists_filed (hs : s.Shaped) (hrest : s.activity.task? = none)
    (hclosed : s.fileStage = .closed) {ms : List Move} {en : Bool} {next : Resumption}
    (hact : (s.run ms).1.activity = .awake en (.publishing next)) {f : OpenFile}
    (hfile : (s.run ms).1.file = some f) :
    ∃ first rest, s.Filed ms f.path first rest (s.run ms).2 ∧
      f.startedAt = first.frame.pts ∧ f.lastPts = (rest.getLast?.getD first).frame.pts ∧
      f.frameCount = rest.length + 1 := by
  obtain ⟨before, path, between, htold, hbetween⟩ := exists_begin hs hclosed hact
  obtain ⟨ms₁, m, ms₂, rfl, rfl, hbegan, rfl⟩ :=
    exists_lone_move (fun s m he => ((s.step_move m).marks he (.inl rfl)).1) htold
  have hs₁ := shaped_run hs ms₁
  have hstep := (s.run ms₁).1.step_move m
  -- what was known when the file began is known of the file that is to get its name
  obtain ⟨en₁, first, generation, hcreating, -, hbeginning, hnew⟩ :=
    hstep.of_fileBegin hs₁ (by rw [hbegan]; exact List.mem_singleton.mpr rfl)
  have hunbegun : ∀ e ∈ (((s.run ms₁).1.move m).1.run ms₂).2, e.isFileBegin = false :=
    fun e he => (Bool.or_eq_false_iff.mp (hbetween e he)).1
  have hholds := holds_run (hstep.shaped hs₁) (holds_of_created hbeginning hnew) hunbegun
  have hcarries := carries_run (hstep.shaped hs₁) (carries_of_created hbeginning hnew) hunbegun
  have hend : (s.run (ms₁ ++ m :: ms₂)).1 = (((s.run ms₁).1.move m).1.run ms₂).1 := by
    rw [run_append, run_cons]
  rw [hend] at hact hfile
  rw [List.nil_append] at hholds hcarries
  obtain ⟨hstarted, hcount, -⟩ := hholds.file f hfile
  obtain ⟨rfl, done, hdone, hlast⟩ := hcarries f hfile
  have hidle : (((s.run ms₁).1.move m).1.run ms₂).1.writing? = none := writing?_awake hact
  rw [hidle, Option.toList_none, List.append_nil] at hdone
  obtain ⟨rest, hvideos⟩ :
      ∃ rest, videos (((s.run ms₁).1.move m).1.run ms₂).2 = first :: rest := by
    rcases hholds.opens with ⟨-, en', hact'⟩ | ⟨⟨rest, hvideos, -⟩, -⟩
    · cases hact.symm.trans hact'
    · exact ⟨rest, hvideos⟩
  obtain ⟨ms₀, request, ms', gap, rfl, hnaming, hnamed, hgap⟩ := exists_naming hrest hcreating
  refine ⟨first, rest, ⟨hs₁.key first (by rw [hcreating]; rfl), ms₀, request, en₁, generation, gap,
    _, ⟨ms' ++ m :: ms₂, by simp⟩, hnaming, ?_, hgap, hbetween, hvideos⟩, hstarted, ?_, ?_⟩
  · rw [htold, hnamed, List.append_assoc]
  · rw [hlast, ← hdone, hvideos, List.getLast?_cons]
    rfl
  · rw [hidle, hvideos] at hcount
    exact hcount

/-- **What is told of a file is true.** Each file of which the end is told began under the same
name, which is the answer to the call for it; its duration is that of the video frames handed over
in between, whether or not they were written; and the files counted are those of which the end was
told. -/
theorem reports_accurate (handle : StreamHandle) (config : StreamConfig) (ms : List Move) :
    ((create handle config).run ms).1.filesCompleted
        = ((create handle config).run ms).2.countP Entry.isFileEnd ∧
      ∀ pre path durationMs post,
        ((create handle config).run ms).2 = pre ++ .event (.fileEnd path durationMs) :: post →
        ∃ first rest, (create handle config).Filed ms path first rest pre ∧
          durationMs = SplitPolicy.exactDurationMs config.video first.frame.pts.toInt
            (rest.getLast?.getD first).frame.pts.toInt (rest.length + 1) := by
  have hs := shaped_create handle config
  constructor
  · rw [filesCompleted_run hs ms]
    exact Nat.zero_add _
  intro pre path durationMs post h
  obtain ⟨ms₁, m, ms₂, rfl, rfl, hended, -⟩ :=
    exists_lone_move (fun s m he => ((s.step_move m).of_fileEnd he rfl).1) h
  obtain ⟨f, en, next, hact, hfile, rfl, rfl⟩ :=
    (((create handle config).run ms₁).1.step_move m).reports
      (by rw [hended]; exact List.mem_singleton.mpr rfl)
  obtain ⟨first, rest, ⟨hkey, hbegins⟩, hstarted, hlast, hcount⟩ :=
    exists_filed hs rfl rfl hact hfile
  obtain ⟨ms₀, request, en₀, generation, gap, between, hprefix, hfacts⟩ := hbegins
  refine ⟨first, rest, ⟨hkey, ms₀, request, en₀, generation, gap, between,
    hprefix.trans (List.prefix_append _ _), hfacts⟩, ?_⟩
  rw [durationMs, ((create handle config).same_run ms₁).policy, hstarted, hlast, hcount]
  exact SplitPolicy.fileDurationMs_create ..

/-- The file gets a second frame, which cannot be written, and is closed after a stop. -/
def closedAfterFault : List Move :=
  recordedOnce ++ [.submit .video ⟨[2], 2500, false⟩, .wake, .advance, .advance, .reply (some .io),
    .advance, .advance, .stop, .wake, .advance, .advance, .reply none, .reply none]

/-- The second frame counts for the file: it is reported to be two milliseconds long. -/
theorem reports_of_unwritten_frame :
    let r := (create ⟨0, 0, 0⟩ secondLong).run closedAfterFault
    r.1.filesCompleted = 1 ∧ r.2 = r.2.dropLast ++ [.event (.fileEnd ⟨[1]⟩ 2)] ∧
      ∃ first rest,
        (create ⟨0, 0, 0⟩ secondLong).Filed closedAfterFault ⟨[1]⟩ first rest r.2.dropLast ∧
          2 = SplitPolicy.exactDurationMs secondLong.video first.frame.pts.toInt
            (rest.getLast?.getD first).frame.pts.toInt (rest.length + 1) := by
  intro r
  have htold : r.2 = r.2.dropLast ++ [.event (.fileEnd ⟨[1]⟩ 2)] := by decide
  obtain ⟨hcount, hfiles⟩ := reports_accurate ⟨0, 0, 0⟩ secondLong closedAfterFault
  refine ⟨hcount.trans (by decide), htold, ?_⟩
  exact hfiles _ _ _ _ htold

end Stream

end CameraRecorder

import CameraRecorder.Proofs.SplitPolicy
import CameraRecorder.Proofs.Stream.Closing
import CameraRecorder.Proofs.Stream.Fates
import CameraRecorder.Proofs.Stream.Files
import CameraRecorder.Proofs.Stream.Latching
import CameraRecorder.Proofs.Stream.Stretch

/-!
# Where a file is split

A file is closed for one of three reasons: a key frame ends it, a stop came since the attempt to
open it began, or a wake on a disabled stream is over. A file that is live, opened since the last
stop, is only closed for the first (`Stream.Justified`). The key frame that ends it stays in hand
until the file is closed, and opens the next one (`Stream.Pursues`).
-/

namespace CameraRecorder

namespace Stream

variable {s s' : Stream} {m : Move} {es before : List Entry} {t : Ticket} {f : OpenFile}

/-! ## Key frames that end a file -/

/-- Whether a frame ends a file, in plain integers: it is a key frame, and it comes as far behind
the first frame as files are long, less the length of a frame. -/
theorem splits_iff (s : Stream) (f : OpenFile) (frame : Frame) :
    s.splits f frame = true ↔
      frame.isKey = true ∧ s.policy.splitAfterUs ≤ frame.pts.toInt - f.startedAt.toInt := by
  rw [splits, Bool.and_eq_true]
  exact and_congr_right fun _ => SplitPolicy.splitDue_since_iff ..

/-! ## Why a file is closed -/

/-- What the worker does when it turns to closing its file. -/
theorem Step.to_closing (h : Step s m s' es) {en : Bool} {next : Resumption}
    (hact' : s'.activity = .awake en (.closing next)) :
    s.activity = .awake en (.closing next) ∨ s'.isInterrupted = true ∨
      en = false ∧ next = .retire ∨
      ∃ t f, next = .reopen t ∧ s'.file = some f ∧ s'.splits f t.frame = true := by
  cases h with
  | idle | start | stop | shutDown | misnamed => exact .inl hact'
  | accept | displace =>
    rw [activity_setLane] at hact'
    exact .inl hact'
  | wakeInterrupted _ _ hi => exact .inr (.inl hi)
  | takeInterrupted _ _ hi => exact .inr (.inl hi)
  | closeLast =>
    cases hact'
    exact .inr (.inr (.inl ⟨rfl, rfl⟩))
  | @split _ ticket file _ hfile hsplit =>
    cases hact'
    exact .inr (.inr (.inr ⟨ticket, file, rfl, hfile, hsplit⟩))
  | retire =>
    have hrest := s.task?_retire
    rw [hact'] at hrest
    cases hrest
  | @resume _ next _ _ => cases next <;> cases hact'
  | _ => cases hact'

/-- A file that is not live stays so; only one that is created now may be live. -/
theorem Step.not_live (h : Step s m s' es) (hd : s.Dated) (hlive : s.isLive = false) :
    s'.isLive = false ∨
      ∃ en ticket generation path, s.activity = .awake en (.creating ticket generation path) ∧
        s'.activity = .awake en (.beginning ticket) := by
  rcases h.birth with hbirth | ⟨en, ticket, generation, path, hact, hact', -⟩
    | ⟨-, -, -, -, hnone, -⟩
  · refine .inl ?_
    cases hfile' : s'.file with
    | none => exact isLive_none hfile'
    | some f' =>
      rw [hfile'] at hbirth
      obtain ⟨f, hfile, hsame⟩ := Option.map_eq_some_iff.mp hbirth.symm
      have hgen : f.generation = f'.generation := congrArg (·.2.1) hsame
      have hle := (hd.file f hfile).1
      have hne : f.generation ≠ s.stops := by simpa [isLive, hfile] using hlive
      have hstops := h.stops
      simp only [isLive, hfile', Option.any_some, decide_eq_false_iff_not]
      omega
  · exact .inr ⟨en, ticket, generation, path, hact, hact'⟩
  · exact .inl (isLive_none hnone)

/-- Why the worker closes its file: if the file is live, a key frame ends it. -/
structure Justified (s : Stream) : Prop where
  /-- A wake that began disabled has no live file. -/
  disabled : ∀ task, s.activity = .awake false task → s.isLive = false
  live : ∀ en task next, s.activity = .awake en task → task.resumption? = some next →
    s.isLive = true → ∃ t, next = .reopen t
  reopen : ∀ en task t, s.activity = .awake en task → task.resumption? = some (.reopen t) →
    ∃ f, s.file = some f ∧ s.splits f t.frame = true

theorem justified_create (handle : StreamHandle) (config : StreamConfig) :
    (create handle config).Justified where
  disabled _ hact := by cases hact
  live _ _ _ hact := by cases hact
  reopen _ _ _ hact := by cases hact

/-- The start of a file does not change as long as the file is open. -/
theorem Step.keeps_start (h : Step s m s' es) (hs : s.Shaped) {start : Timestamp}
    (hfile : ∃ f, s.file = some f ∧ f.startedAt = start) (hopen' : s'.file.isSome = true) :
    ∃ f, s'.file = some f ∧ f.startedAt = start := by
  obtain ⟨f, hfile, rfl⟩ := hfile
  obtain ⟨f', hfile'⟩ := Option.isSome_iff_exists.mp hopen'
  rcases h.birth with hbirth | ⟨en, ticket, generation, path, hact, -⟩ | ⟨-, -, -, -, hnone, -⟩
  · rw [hfile', hfile] at hbirth
    exact ⟨f', hfile', congrArg (·.2.2) (Option.some.inj hbirth)⟩
  · cases (hs.file_eq_none hact rfl).symm.trans hfile
  · cases hnone.symm.trans hfile'

/-- A frame that ends the open file still does as long as the file is open. -/
theorem Step.still_splits (h : Step s m s' es) (hs : s.Shaped) {frame : Frame}
    (hsplit : ∃ f, s.file = some f ∧ s.splits f frame = true) (hopen' : s'.file.isSome = true) :
    ∃ f, s'.file = some f ∧ s'.splits f frame = true := by
  obtain ⟨f, hfile, hsplits⟩ := hsplit
  obtain ⟨f', hfile', hstart⟩ := h.keeps_start hs ⟨f, hfile, rfl⟩ hopen'
  refine ⟨f', hfile', ?_⟩
  rw [splits, h.same.policy, hstart]
  exact hsplits

/-- A wake that began disabled opens no file, so it has no live one. -/
theorem Step.disabled_not_live (h : Step s m s' es) (hd : s.Dated) (hsuited : s.Suited)
    (hj : ∀ task, s.activity = .awake false task → s.isLive = false) :
    ∀ task, s'.activity = .awake false task → s'.isLive = false := by
  intro task' hact'
  have hlive : s.isLive = false := by
    rcases h.same_wake hact' with ⟨task, hact⟩ | ⟨-, -, -, hen⟩
    · exact hj task hact
    · exact hd.not_isLive hen
  rcases h.not_live hd hlive with hnot | ⟨en, ticket, generation, path, hact, hbegins⟩
  · exact hnot
  · cases hact'.symm.trans hbegins
    cases hsuited _ _ hact

theorem Step.justified (h : Step s m s' es) (hd : s.Dated) (hs : s.Shaped) (hsuited : s.Suited)
    (hj : s.Justified) : s'.Justified where
  disabled := h.disabled_not_live hd hsuited hj.disabled
  live en task' next hact' hnext' hlive' := by
    have hlive {task : Task} (hact : s.activity = .awake en task)
        (hnext : task.resumption? = some next) : s.isLive = true := by
      by_contra hnot
      rcases h.not_live hd (by simpa using hnot) with hnot' | ⟨_, _, _, _, hact₁, -⟩
      · cases hnot'.symm.trans hlive'
      · cases hact.symm.trans hact₁
        cases hnext
    -- the worker turns to closing a live file
    have hclosing (hact' : s'.activity = .awake en (.closing next))
        (hfresh : s.activity ≠ .awake en (.closing next)) : ∃ t, next = .reopen t := by
      rcases h.to_closing hact' with hsame | hi | ⟨rfl, -⟩ | ⟨t, -, hnext, -⟩
      · exact absurd hsame hfresh
      · rw [isLive_eq, hi] at hlive'
        simp at hlive'
      · have hnot := h.disabled_not_live hd hsuited hj.disabled _ hact'
        cases hnot.symm.trans hlive'
      · exact ⟨t, hnext⟩
    rcases h.comes_from hact' with hact | ⟨task, hact, hleads⟩ | ⟨hasleep, -, -, -, rfl⟩
    · exact hj.live en task' next hact hnext' (hlive hact hnext')
    · cases hleads with
      | interrupt | closeLast | split =>
        cases hnext'
        exact hclosing hact' fun hsame => by cases hact.symm.trans hsame
      | appendTrailer | finishBare | finish | publish | tellEnd =>
        exact hj.live en _ next hact hnext' (hlive hact hnext')
      | @resume next => cases next <;> cases hnext'
      | _ => cases hnext'
    · by_cases hi : (s.isEnabled && s.isInterrupted) = true
      · rw [if_pos hi] at hact' hnext'
        cases hnext'
        exact hclosing hact' fun hsame => by cases hasleep.symm.trans hsame
      · rw [if_neg hi] at hnext'
        cases hnext'
  reopen en task' t hact' hnext' := by
    have hopen' : s'.file.isSome = true := by
      refine (h.shaped hs).file true ?_
      rw [hact']
      cases task' <;> first | rfl | cases hnext'
    have hkept {task : Task} (hact : s.activity = .awake en task)
        (hnext : task.resumption? = some (.reopen t)) :
        ∃ f, s'.file = some f ∧ s'.splits f t.frame = true :=
      h.still_splits hs (hj.reopen en task t hact hnext) hopen'
    rcases h.comes_from hact' with hact | ⟨task, hact, hleads⟩ | ⟨-, -, -, -, rfl⟩
    · exact hkept hact hnext'
    · cases hleads with
      | @split ticket file hfile hsplit =>
        cases hnext'
        exact h.still_splits hs ⟨file, hfile, hsplit⟩ hopen'
      | appendTrailer | finishBare | finish | publish | tellEnd => exact hkept hact hnext'
      | @resume next => cases next <;> cases hnext'
      | _ => cases hnext'
    · cases hi : (s.isEnabled && s.isInterrupted) <;> rw [hi] at hnext' <;> cases hnext'

theorem justified_run (handle : StreamHandle) (config : StreamConfig) (ms : List Move) :
    ((create handle config).run ms).1.Justified := by
  refine (run_invariant (P := fun s => s.Shaped ∧ s.Suited ∧ s.Dated ∧ s.Justified) ?_
    ⟨shaped_create handle config, suited_create handle config, dated_create handle config,
      justified_create handle config⟩ ms).2.2.2
  rintro s m s' es h ⟨hs, hsuited, hd, hj⟩
  exact ⟨h.shaped hs, h.suited hsuited, h.dated hd, h.justified hd hs hsuited hj⟩

/-! ## The key frame that ends a file -/

/-- A frame that stays in hand while it is not taken again: nothing is handed over or taken. -/
theorem Step.quiet_of_kept (h : Step s m s' es) {x : Item} (hx : s.inHand = [x])
    (hx' : s'.inHand = [x]) (hnew : x ∉ takenItems es) :
    handedItems es = [] ∧ takenItems es = [] := by
  rcases h.hand with hkeeps | ⟨-, -, -, hnone⟩
  · rw [KeepsCount, hx, hx'] at hkeeps
    rcases List.eq_nil_or_concat (takenItems es) with hnil | ⟨ys, y, hlast⟩
    · rw [hnil] at hkeeps
      exact ⟨by simpa using hkeeps, hnil⟩
    · -- the frame in hand would be the one that was taken last
      rw [hlast, List.concat_eq_append, ← List.append_assoc] at hkeeps
      have hsame := List.cons.inj (List.append_inj' hkeeps rfl).2
      rw [hlast, hsame.1] at hnew
      simp at hnew
  · cases hnone.symm.trans hx'

/-- How far the worker is with a key frame that ends the open file: `turns` it took since the frame
was taken, and `es` is what happened. -/
inductive Pursues (t : Ticket) (turns : Nat) (es : List Entry) (s : Stream) : Prop
  /-- The file is about to be closed, or being closed. -/
  | closing {task} (hact : s.activity = .awake true task)
    (htask : task = .handling (.video t) ∨ task.resumption? = some (.reopen t))
    (hsplit : ∃ f, s.file = some f ∧ s.splits f t.frame = true)
    (hstage : FileStage.begun.follow? es = some s.fileStage) (hturns : turns + task.work ≤ 20)
    (hquiet : handedItems es = [] ∧ takenItems es = [])
  /-- The file was closed, and the next one is to be opened with the frame. -/
  | opening {task} (hact : s.activity = .awake true task)
    (htask : task = .opening t ∨ (∃ generation, task = .naming t generation) ∨
      ∃ generation path, task = .creating t generation path)
    (hcloses : FileStage.begun.Closes es) (hturns : turns + task.work ≤ 20)
    (hquiet : handedItems es = [] ∧ takenItems es = [])
  /-- The next file began with the frame. -/
  | beginning {path} (hact : s.activity = .awake true (.beginning t))
    (hfile : ∃ f, s.file = some f ∧ f.startedAt = t.frame.pts)
    (hbegan : .event (.fileBegin path) ∈ es)
    (hcloses : FileStage.begun.Closes es) (hturns : turns + (Task.beginning t).work ≤ 20)
    (hquiet : handedItems es = [] ∧ takenItems es = [])
  /-- The frame was handed over, or given up. -/
  | ended (hhand : ⟨.video, t⟩ ∉ s.inHand) (hcloses : FileStage.begun.Closes es)

/-- The worker goes on from asking for a file to telling that it began when the file is there. -/
theorem Step.of_create (h : Step s m s' es) (hs : s.Shaped) {en : Bool} {generation : Nat}
    {path : Path} (hact : s.activity = .awake en (.creating t generation path))
    (hact' : s'.activity = .awake en (.beginning t)) :
    es = [.event (.fileBegin path)] ∧ s'.file = some (s.newFile t generation path) := by
  cases h.films hs with
  | apart _ _ _ hfile =>
    obtain ⟨f', hfile'⟩ := (h.shaped hs).exists_file hact' rfl
    obtain ⟨f, -, hf, -⟩ := exists_of_bare hfile' hfile
    cases (hs.file_eq_none hact rfl).symm.trans hf
  | creates h hes _ _ hfile =>
    cases hact.symm.trans h
    exact ⟨hes, hfile⟩
  | hands _ _ h' => cases hact'.symm.trans h'
  | returns h => cases hact.symm.trans h
  | closes h => cases hact.symm.trans h

theorem quiet_append {es es' : List Entry} (h : handedItems es = [] ∧ takenItems es = [])
    (h' : handedItems es' = [] ∧ takenItems es' = []) :
    handedItems (es ++ es') = [] ∧ takenItems (es ++ es') = [] := by
  rw [handedItems_append, takenItems_append, h.1, h.2, h'.1, h'.2]
  exact ⟨rfl, rfl⟩

theorem inHand_of_pursuit {task : Task}
    (htask : task = .handling (.video t) ∨ task.resumption? = some (.reopen t)) :
    task.inHand = [⟨.video, t⟩] := by
  rcases htask with rfl | hnext
  · rfl
  · cases task <;> cases hnext <;> rfl

theorem work_of_pursuit {task : Task}
    (htask : task = .handling (.video t) ∨ task.resumption? = some (.reopen t)) :
    15 ≤ task.work := by
  rcases htask with rfl | hnext
  · simp [Task.work]
  · cases task <;> cases hnext <;> simp [Task.work, Resumption.work]

/-- The turns that are left to the worker are counted by what is left to be done. -/
theorem turns_of_turn {en en' : Bool} {task task' : Task} {turns bound : Nat}
    (hact : s.activity = .awake en task) (hact' : (s.move m).1.activity = .awake en' task')
    (hturns : turns + task.work ≤ bound) (hnone : takenItems (s.move m).2 = []) :
    turns + (s.isTurn m).toNat + task'.work ≤ bound := by
  have hwork := turn_le hact hnone
  rw [hact'] at hwork
  have hwork : (s.isTurn m).toNat + task'.work ≤ task.work := hwork
  omega

/-- The closing of the file goes on, or it is over and the next file is to be opened. -/
theorem pursues_of_closing (hs : s.Shaped) {turns : Nat} {before : List Entry} {task : Task}
    (hact : s.activity = .awake true task)
    (htask : task = .handling (.video t) ∨ task.resumption? = some (.reopen t))
    (hsplit : ∃ f, s.file = some f ∧ s.splits f t.frame = true)
    (hstage : FileStage.begun.follow? before = some s.fileStage) (hturns : turns + task.work ≤ 20)
    (hquiet : handedItems before = [] ∧ takenItems before = [])
    (hnew : ⟨.video, t⟩ ∉ takenItems (s.move m).2) :
    Pursues t (turns + (s.isTurn m).toNat) (before ++ (s.move m).2) (s.move m).1 := by
  have hstep := s.step_move m
  obtain ⟨f, hfile, hsplits⟩ := hsplit
  have hstage' : FileStage.begun.follow? (before ++ (s.move m).2)
      = some (s.move m).1.fileStage := by
    rw [FileStage.follow?_append, hstage]
    exact hstep.follows hs
  rcases hstep.birth with hbirth | ⟨_, _, _, _, hact₁, -⟩ | ⟨en, next, hact₁, hact', -, hes⟩
  · have hopen' : (s.move m).1.file.isSome = true := by
      rw [hfile] at hbirth
      cases hfile' : (s.move m).1.file with
      | none =>
        rw [hfile'] at hbirth
        cases hbirth
      | some f' => rfl
    have hsplit' := hstep.still_splits hs ⟨f, hfile, hsplits⟩ hopen'
    have hstays {task' : Task} (hact' : (s.move m).1.activity = .awake true task')
        (htask' : task' = .handling (.video t) ∨ task'.resumption? = some (.reopen t)) :
        Pursues t (turns + (s.isTurn m).toNat) (before ++ (s.move m).2) (s.move m).1 := by
      have hmoved := hstep.quiet_of_kept ((inHand_awake hact).trans (inHand_of_pursuit htask))
        ((inHand_awake hact').trans (inHand_of_pursuit htask')) hnew
      exact .closing hact' htask' hsplit' hstage' (turns_of_turn hact hact' hturns hmoved.2)
        (quiet_append hquiet hmoved)
    rcases hstep.leads hact with hsame | ⟨task', hact', hleads⟩ | ⟨-, rfl, -⟩ | ⟨rfl, -⟩
    · exact hstays hsame htask
    · have hnext : task'.resumption? = some (.reopen t) := by
        rcases htask with rfl | hnext
        · cases hleads with
          | split => rfl
          | writeVideo hfile' hno =>
            cases hfile.symm.trans hfile'
            cases hsplits.symm.trans hno
          | tryOpen hnone => cases hfile.symm.trans hnone
        · cases hleads <;> cases hnext <;>
            first
              | rfl
              | cases ((hstep.shaped hs).file_eq_none hact' rfl).symm.trans
                  (Option.eq_some_of_isSome hopen')
      exact hstays hact' (.inr hnext)
    · rcases htask with htask | htask <;> cases htask
    · rcases htask with htask | htask <;> cases htask
  · cases hact.symm.trans hact₁
    rcases htask with htask | htask <;> cases htask
  · cases hact.symm.trans hact₁
    rcases htask with htask | htask
    · cases htask
    · cases htask
      have hclosed : FileStage.begun.Closes before := by
        rw [fileStage_of_task hact rfl] at hstage
        exact ⟨before, List.prefix_rfl, hstage⟩
      have hturns' := turns_of_turn hact hact' hturns (by rw [hes]; rfl)
      rw [hes, List.append_nil]
      exact .opening hact' (.inl rfl) hclosed hturns' hquiet

/-- **The worker pursues a key frame that ends a file**: it closes the file, opens the next one with
the frame, and hands it over, or gives it up. -/
theorem Pursues.move {turns : Nat} {before : List Entry} (hp : Pursues t turns before s)
    (hs : s.Shaped) (hnew : ⟨.video, t⟩ ∉ takenItems (s.move m).2) :
    Pursues t (turns + (s.isTurn m).toNat) (before ++ (s.move m).2) (s.move m).1 := by
  have hstep := s.step_move m
  have hquiet' (hhand : s.inHand = [⟨.video, t⟩]) (hhand' : (s.move m).1.inHand = [⟨.video, t⟩]) :=
    hstep.quiet_of_kept hhand hhand' hnew
  have hgone {task' : Task} (hact' : (s.move m).1.activity = .awake true task')
      (htask' : task'.inHand = []) : ⟨.video, t⟩ ∉ (s.move m).1.inHand := by
    rw [inHand_awake hact', htask']
    exact List.not_mem_nil
  cases hp with
  | closing hact htask hsplit hstage hturns hquiet =>
    exact pursues_of_closing hs hact htask hsplit hstage hturns hquiet hnew
  | @opening task hact htask hcloses hturns hquiet =>
    have hcloses' := hcloses.append (s.move m).2
    have hhand : task.inHand = [⟨.video, t⟩] := by
      rcases htask with rfl | ⟨_, rfl⟩ | ⟨_, _, rfl⟩ <;> rfl
    have hstays {task' : Task} (hact' : (s.move m).1.activity = .awake true task')
        (htask' : task' = .opening t ∨ (∃ generation, task' = .naming t generation) ∨
          ∃ generation path, task' = .creating t generation path) :
        Pursues t (turns + (s.isTurn m).toNat) (before ++ (s.move m).2) (s.move m).1 := by
      have hhand' : task'.inHand = [⟨.video, t⟩] := by
        rcases htask' with rfl | ⟨_, rfl⟩ | ⟨_, _, rfl⟩ <;> rfl
      have hmoved := hquiet' ((inHand_awake hact).trans hhand) ((inHand_awake hact').trans hhand')
      exact .opening hact' htask' hcloses' (turns_of_turn hact hact' hturns hmoved.2)
        (quiet_append hquiet hmoved)
    rcases hstep.leads hact with hsame | ⟨task', hact', hleads⟩ | ⟨-, htaking, -⟩ | ⟨hretiring, -⟩
    · exact hstays hsame htask
    · rcases htask with rfl | ⟨generation, rfl⟩ | ⟨generation, path, rfl⟩
      · cases hleads with
        | loseVideo | askKeyFrame => exact .ended (hgone hact' rfl) hcloses'
        | askName => exact hstays hact' (.inr (.inl ⟨_, rfl⟩))
      · cases hleads with
        | name => exact hstays hact' (.inr (.inr ⟨_, _, rfl⟩))
        | nameless => exact .ended (hgone hact' rfl) hcloses'
      · cases hleads with
        | create =>
          obtain ⟨hes, hfile⟩ := hstep.of_create hs hact hact'
          have hbegan : .event (.fileBegin path) ∈ (s.move m).2 := by rw [hes]; simp
          have hmoved := hquiet' (inHand_awake hact) (inHand_awake hact')
          exact .beginning hact' ⟨_, hfile, rfl⟩ (List.mem_append_right _ hbegan) hcloses'
            (turns_of_turn hact hact' hturns hmoved.2) (quiet_append hquiet hmoved)
        | fail => exact .ended (hgone hact' rfl) hcloses'
    · rcases htask with rfl | ⟨_, rfl⟩ | ⟨_, _, rfl⟩ <;> cases htaking
    · rcases htask with rfl | ⟨_, rfl⟩ | ⟨_, _, rfl⟩ <;> cases hretiring
  | beginning hact hfile hbegan hcloses hturns hquiet =>
    have hcloses' := hcloses.append (s.move m).2
    rcases hstep.leads hact with hsame | ⟨task', hact', hleads⟩ | ⟨-, htaking, -⟩ | ⟨hretiring, -⟩
    · have hmoved := hquiet' (inHand_awake hact) (inHand_awake hsame)
      refine .beginning hsame (hstep.keeps_start hs hfile ?_) (List.mem_append_left _ hbegan)
        hcloses' (turns_of_turn hact hsame hturns hmoved.2) (quiet_append hquiet hmoved)
      obtain ⟨f', hfile'⟩ := (hstep.shaped hs).exists_file hsame rfl
      exact Option.isSome_of_eq_some hfile'
    · cases hleads with
      | begin => exact .ended (hgone hact' rfl) hcloses'
    · cases htaking
    · cases hretiring
  | ended hhand hcloses =>
    refine .ended (fun hin => ?_) (hcloses.append _)
    rcases hstep.hand with hkeeps | ⟨-, -, -, hnone⟩
    · have hmem : ⟨.video, t⟩ ∈ s.inHand ++ takenItems (s.move m).2 :=
        hkeeps ▸ List.mem_append_right _ hin
      exact (List.mem_append.mp hmem).elim hhand hnew
    · rw [hnone] at hin
      cases hin

theorem pursues_run {turns : Nat} {before : List Entry} (hp : Pursues t turns before s)
    (hs : s.Shaped) {ms : List Move} (hnew : ⟨.video, t⟩ ∉ takenItems (s.run ms).2) :
    Pursues t (turns + s.turns ms) (before ++ (s.run ms).2) (s.run ms).1 := by
  induction ms generalizing s turns before with
  | nil => rwa [run_nil, List.append_nil]
  | cons m ms ih =>
    rw [run_cons, takenItems_append, List.mem_append, not_or] at hnew
    rw [run_cons, Stream.turns, ← List.append_assoc, ← Nat.add_assoc]
    exact ih (hp.move hs hnew.1) ((s.step_move m).shaped hs) hnew.2

/-! ## What is known of a pursuit -/

section Pursuit

variable {turns : Nat}

/-- Five turns lead to the end of the file. -/
theorem Pursues.closes (hp : Pursues t turns es s) (hturns : 5 ≤ turns) :
    FileStage.begun.Closes es := by
  cases hp with
  | @closing task hact htask _ hstage hwork =>
    -- the file was published, and what is left is to tell that it ended
    cases task <;> rcases htask with htask | htask <;> cases htask <;>
      simp only [Task.work, Resumption.work] at hwork <;> try omega
    rw [fileStage_of_task hact rfl] at hstage
    exact ⟨_, List.prefix_rfl, hstage⟩
  | opening _ _ hcloses | beginning _ _ _ hcloses | ended _ hcloses => exact hcloses

theorem Pursues.quiet (hp : Pursues t turns es s) :
    FileStage.begun.Closes es ∨ handedItems es = [] ∧ takenItems es = [] := by
  cases hp with
  | closing _ _ _ _ _ hquiet => exact .inr hquiet
  | opening _ _ hcloses | beginning _ _ _ hcloses | ended _ hcloses => exact .inl hcloses

/-- When the frame is handed over, the next file has begun with it. -/
theorem Pursues.of_hands (hp : Pursues t turns es s) (hmade : .video t ∈ (s.move m).2) :
    FileStage.begun.Closes es ∧ handedItems es = [] ∧ (∃ path, .event (.fileBegin path) ∈ es) ∧
      ∃ f, s.file = some f ∧ f.startedAt = t.frame.pts := by
  obtain ⟨-, en, hmakes⟩ := (s.step_move m).makes _ hmade
  cases hp with
  | closing hact htask hsplit =>
    rcases hmakes with hact' | ⟨hact', file, hfile, hno⟩
    · cases hact.symm.trans hact'
      rcases htask with htask | htask <;> cases htask
    · obtain ⟨f, hf, hsplits⟩ := hsplit
      cases hf.symm.trans hfile
      cases hsplits.symm.trans hno
  | opening hact htask =>
    rcases hmakes with hact' | ⟨hact', -⟩ <;> cases hact.symm.trans hact' <;>
    rcases htask with htask | ⟨_, htask⟩ | ⟨_, _, htask⟩ <;> cases htask
  | beginning _ hfile hbegan hcloses _ hquiet => exact ⟨hcloses, hquiet.1, ⟨_, hbegan⟩, hfile⟩
  | ended hgone =>
    refine absurd ?_ hgone
    rcases hmakes with hact' | ⟨hact', -⟩ <;> rw [inHand_awake hact'] <;> exact .head _

/-- The frame does not stay in hand for ten turns. -/
theorem Pursues.turns_lt (hp : Pursues t turns es s) (hhand : ⟨.video, t⟩ ∈ s.inHand) :
    turns < 10 := by
  cases hp with
  | @closing task _ htask _ _ hturns =>
    have hwork : 15 ≤ task.work := work_of_pursuit htask
    omega
  | @opening task _ htask _ hturns =>
    have hwork : 12 ≤ task.work := by
      rcases htask with rfl | ⟨_, rfl⟩ | ⟨_, _, rfl⟩ <;> simp [Task.work]
    omega
  | beginning _ _ _ _ hturns =>
    simp only [Task.work] at hturns
    omega
  | ended hgone => exact absurd hhand hgone

/-- A key frame is only given up by the worker itself if the stream is disabled. -/
theorem Pursues.isEnabled_of_passesOver (hp : Pursues t turns es s)
    (hkey : t.frame.isKey = true) (hover : s.PassesOver .advance ⟨.video, t⟩) :
    s.isEnabled = false := by
  generalize hm : Move.advance = m at hover
  generalize hx : (⟨.video, t⟩ : Item) = x at hover
  cases hover with
  | audio => cases hx
  | nonKey _ _ hno =>
    cases hx
    cases hkey.symm.trans hno
  | disabled hact _ hen =>
    cases hx
    refine hen.resolve_left fun hen => ?_
    subst hen
    cases hp with
    | closing hact' | opening hact' | beginning hact' => cases hact.symm.trans hact'
    | ended hgone => exact hgone (by rw [inHand_awake hact]; exact .head _)
  | nameless | failed => cases hm

end Pursuit

/-! ## The boundary -/

/-- What comes of a key frame that ends a live file: `w` is the stream when the frame was taken, and
`after` is what follows. -/
structure EndsFile (w : Stream) (t : Ticket) (after : List Move) : Prop where
  /-- The file is closed within five turns of the worker. -/
  closes : 5 ≤ w.turns after → FileStage.begun.Closes (w.run after).2
  /-- Until then nothing is handed over or taken. -/
  quiet : FileStage.begun.Closes (w.run after).2 ∨
    handedItems (w.run after).2 = [] ∧ takenItems (w.run after).2 = []
  /-- When the frame is handed over, the file is closed, and the next one began with the frame. -/
  opens : ∀ ms m later, after = ms ++ m :: later → .video t ∈ ((w.run ms).1.move m).2 →
    FileStage.begun.Closes (w.run ms).2 ∧ handedItems (w.run ms).2 = [] ∧
      (∃ path, .event (.fileBegin path) ∈ (w.run ms).2) ∧
      ∃ f, (w.run ms).1.file = some f ∧ f.startedAt = t.frame.pts
  /-- The frame is handed over within ten turns of the worker, unless there is no name for the
  file, or the writer cannot open it, or the stream is disabled by then. -/
  fate : ⟨.video, t⟩ ∈ handedItems (w.run after).2 ∨
    ⟨.video, t⟩ ∈ (w.run after).1.inHand ∧ w.turns after < 10 ∨
    ∃ ms m later, after = ms ++ m :: later ∧ (w.run ms).1.PassesOver m ⟨.video, t⟩ ∧
      (m = .advance → (w.run ms).1.isEnabled = false)

/-- A key frame that is pursued ends its file. -/
theorem Pursues.endsFile {w : Stream} (hp : Pursues t 0 [] w) (hs : w.Shaped)
    (hkey : t.frame.isKey = true) (hhand : ⟨.video, t⟩ ∈ w.inHand) {after : List Move}
    (hnew : ⟨.video, t⟩ ∉ takenItems (w.run after).2) : w.EndsFile t after := by
  have hat {ms later : List Move} (hms : after = ms ++ later) :
      Pursues t (w.turns ms) (w.run ms).2 (w.run ms).1 := by
    have hearly : ⟨.video, t⟩ ∉ takenItems (w.run ms).2 := fun hin => by
      rw [hms, run_append, takenItems_append] at hnew
      exact hnew (List.mem_append_left _ hin)
    have hpursues := pursues_run hp hs hearly
    rwa [Nat.zero_add, List.nil_append] at hpursues
  have hall := hat (List.append_nil after).symm
  refine ⟨hall.closes, hall.quiet, fun ms m later hms hmade => (hat hms).of_hands hmade, ?_⟩
  rcases hs.hand_run after (List.mem_append_left _ hhand) with h | h | ⟨ms, m, later, hms, hover⟩
  · exact .inl h
  · exact .inr (.inl ⟨h, hall.turns_lt h⟩)
  · refine .inr (.inr ⟨ms, m, later, hms, hover, ?_⟩)
    rintro rfl
    exact (hat hms).isEnabled_of_passesOver hkey hover

/-- A key frame that ends a live file is pursued from the moment at which it is taken. -/
theorem pursues_of_taken (hj : s.Justified)
    (htaken : ⟨.video, t⟩ ∈ takenItems (s.move m).2) (hfile : s.file = some f)
    (hlive : s.isLive = true) (hsplit : s.splits f t.frame = true) :
    Pursues t 0 [] (s.move m).1 ∧ ⟨.video, t⟩ ∈ (s.move m).1.inHand := by
  have hstep := s.step_move m
  obtain ⟨en, pending, s₁, hitem, -, hact, htake, hcases⟩ := hstep.of_taken htaken
  obtain ⟨l, l', -, rfl⟩ := takeFrame?_eq_some htake
  obtain rfl : en = true := by
    cases en with
    | true => rfl
    | false => cases (hj.disabled _ hact).symm.trans hlive
  obtain rfl : pending = .video t := by
    cases pending <;> cases hitem
    rfl
  rcases hcases with ⟨-, hmoved⟩ | ⟨-, hi, -⟩
  · have hact' : (s.move m).1.activity = .awake true (.handling (.video t)) := by rw [hmoved]
    have hfile' : (s.move m).1.file = some f := by
      rw [hmoved]
      exact (file_setLane ..).trans hfile
    have hsplit' : (s.move m).1.splits f t.frame = true := by
      rw [splits, hstep.same.policy]
      exact hsplit
    refine ⟨.closing hact' (.inl rfl) ⟨f, hfile', hsplit'⟩ ?_ (Nat.le_refl _) ⟨rfl, rfl⟩, ?_⟩
    · rw [fileStage_open hact' rfl (Option.isSome_of_eq_some hfile')]
      rfl
    · rw [inHand_awake hact']
      exact .head _
  · -- a live file is not interrupted
    have hlive' := isLive_setLane s l' (Pending.video t).lane
    rw [hlive, isLive_eq, hi] at hlive'
    simp at hlive'

/-- A stream keeps to a boundary: a key frame ends a file exactly if it comes that far behind the
first frame of the file. -/
structure KeepsBoundary (limit : Int) (s : Stream) : Prop where
  /-- A file begins with the key frame in hand, and no key frame after it in the file comes that far
  behind it. -/
  within : ∀ m path after, .event (.fileBegin path) ∈ (s.move m).2 →
    (∀ e ∈ ((s.move m).1.run after).2, e.isFileBegin = false) →
    ∃ opening, s.inHand = [⟨.video, opening⟩] ∧ opening.frame.isKey = true ∧
      (videos ((s.move m).1.run after).2 = [] ∨
        ∃ rest, videos ((s.move m).1.run after).2 = opening :: rest ∧
          ∀ t ∈ rest, t.frame.isKey = true →
            t.frame.pts.toInt - opening.frame.pts.toInt < limit) ∧
      ∀ f, ((s.move m).1.run after).1.file = some f → f.startedAt = opening.frame.pts
  /-- A live file is only closed for a key frame that comes that far behind its first frame. -/
  closed : ∀ m, .deinit ∈ (s.move m).2 → s.isLive = true →
    ∃ t f, s.inHand = [⟨.video, t⟩] ∧ s.file = some f ∧ t.frame.isKey = true ∧
      limit ≤ t.frame.pts.toInt - f.startedAt.toInt
  /-- When such a key frame is taken, the file is closed, and the next one begins with the frame. -/
  ends : ∀ m t f after, ⟨.video, t⟩ ∈ takenItems (s.move m).2 → s.file = some f →
    s.isLive = true → t.frame.isKey = true → limit ≤ t.frame.pts.toInt - f.startedAt.toInt →
    (s.move m).1.EndsFile t after

/-- No frame is taken a second time. -/
theorem Fresh.not_taken_again (hs : s.Fresh) (before after : List Move) (m : Move) {x : Item}
    (htaken : x ∈ takenItems ((s.run before).1.move m).2) :
    x ∉ takenItems (((s.run before).1.move m).1.run after).2 := by
  intro hagain
  have hnodup : (takenItems (s.run (before ++ m :: after)).2).Nodup := by
    rw [takenItems_eq]
    exact (hs.nodup_taken _).sublist List.filter_sublist
  rw [run_append, run_cons, takenItems_append, takenItems_append] at hnodup
  have hdisjoint := (List.nodup_append.mp (List.nodup_append.mp hnodup).2.1).2.2
  exact hdisjoint x htaken x hagain rfl

/-- **Files are split at the boundary**, whatever the timestamps are: at every moment of every run
the stream keeps to the duration of its settings less the length of a frame, in whole microseconds
and without a bound. A file counts as live until a stop comes after the worker set out to open it,
which it does just before it calls for a name. -/
theorem split_boundary (handle : StreamHandle) (config : StreamConfig)
    (hvalid : config.validate = .ok ()) (before : List Move) :
    KeepsBoundary
      (config.splitDurationSecs.toNat * 1000000 - (1000000 / config.video.frameRate.toNat : Nat))
      ((create handle config).run before).1 := by
  rw [← SplitPolicy.splitAfterUs_create _ (StreamConfig.pos_of_validate hvalid).1]
  have hfresh := fresh_create handle config
  have hnew := hfresh.not_taken_again before
  have hj := justified_run handle config before
  have hs := shaped_run hfresh.shaped before
  have hlanes := (buffers_run hfresh.lanes before).1
  have hpolicy : ((create handle config).run before).1.policy
      = .create config.splitDurationSecs config.video :=
    ((create handle config).same_run before).policy
  generalize ((create handle config).run before).1 = s at *
  rw [← hpolicy]
  refine ⟨fun m path after hbegin hafter => ?_, fun m hdeinit hlive => ?_,
    fun m t f after htaken hfile hlive hkey hfar => ?_⟩
  · obtain ⟨opening, hhand, -, hkey, -, hheld⟩ := exists_first hs hbegin
    have hstep := s.step_move m
    have hlast := holds_run (hstep.shaped hs) hheld hafter
    rw [List.nil_append] at hlast
    refine ⟨opening, hhand, hkey, ?_, fun f hf => (hlast.file f hf).1⟩
    rcases hlast.opens with ⟨hnone, -⟩ | ⟨⟨rest, hrest, hearly⟩, -⟩
    · exact .inl hnone
    · refine .inr ⟨rest, hrest, fun t ht htkey => ?_⟩
      have hno := hearly t ht htkey
      rw [(hstep.same.trans ((s.move m).1.same_run after)).policy, Bool.eq_false_iff] at hno
      exact not_le.mp fun hle => hno ((SplitPolicy.splitDue_since_iff ..).mpr hle)
  · obtain ⟨en, task, next, hact, hnext⟩ := resumption_of_deinit hs hlanes hdeinit
    obtain ⟨t, rfl⟩ := hj.live en task next hact hnext hlive
    obtain ⟨f, hfile, hsplit⟩ := hj.reopen en task t hact hnext
    obtain ⟨hkey, hfar⟩ := (s.splits_iff f t.frame).mp hsplit
    exact ⟨t, f, (inHand_awake hact).trans (inHand_of_pursuit (.inr hnext)), hfile, hkey, hfar⟩
  · obtain ⟨hpursues, hhand⟩ := pursues_of_taken hj htaken hfile hlive
      ((s.splits_iff f t.frame).mpr ⟨hkey, hfar⟩)
    exact hpursues.endsFile ((s.step_move m).shaped hs) hkey hhand (hnew after m htaken)

/-- A key frame comes four frames after the first frame of the open file. -/
def queuedAtBoundary : List Move := recordedOnce ++ [.submit .video ⟨[2], 800000, true⟩, .wake]

/-- The worker closes the file and asks for the next one. -/
def splittingTurns : List Move :=
  [.advance, .advance, .reply none, .reply none, .reply none, .advance, .named none (.ok ⟨[2]⟩),
    .reply none]

/-- Files of a second at five frames a second are split by a key frame that comes 0.8 seconds behind
the first. -/
theorem split_boundary_exact :
    let s := ((create ⟨0, 1, 0⟩ secondLong).run queuedAtBoundary).1
    let t : Ticket := ⟨1, [2], 800000, true⟩
    secondLong.validate = .ok () ∧
      FileStage.begun.Closes (((s.move .advance).1.run splittingTurns).2) ∧
      ∃ f, ((s.move .advance).1.run splittingTurns).1.file = some f ∧
        f.startedAt = t.frame.pts := by
  intro s t
  have hbound := split_boundary ⟨0, 1, 0⟩ secondLong (by decide) queuedAtBoundary
  have hends : (s.move .advance).1.EndsFile t (splittingTurns ++ [.reply none]) :=
    hbound.ends .advance t ⟨⟨[1]⟩, ⟨[1]⟩, 0, 0, 0, 1, true, none⟩ _ (by decide) (by decide)
      (by decide) rfl (by decide)
  obtain ⟨hcloses, -, -, hfile⟩ := hends.opens splittingTurns (.reply none) [] rfl (by decide)
  exact ⟨by decide, hcloses, hfile⟩

/-- So a file can be closed although the stream is enabled, was not stopped since the file began,
and no key frame came: a stop came while the writer was opening the file, and a start after it. -/
theorem split_without_key_frame :
    ¬ ∀ (handle : StreamHandle) (config : StreamConfig) (before during : List Move) (m m' : Move)
        (path : Path),
      let s := ((create handle config).run before).1
      let w := ((s.move m).1.run during).1
      config.validate = .ok () → .event (.fileBegin path) ∈ (s.move m).2 →
      s.isEnabled = true → (∀ e ∈ ((s.move m).1.run during).2, e.isStop = false) →
      .deinit ∈ (w.move m').2 → ∃ t, w.inHand = [⟨.video, t⟩] ∧ t.frame.isKey = true := by
  intro hkeys
  have hkey := hkeys ⟨0, 0, 0⟩ secondLong
    [.start, .submit .video ⟨[1], 0, true⟩, .wake, .advance, .advance, .advance,
      .named none (.ok ⟨[1]⟩), .stop, .start]
    [.reply none, .reply none, .reply none, .advance, .advance,
      .submit .video ⟨[2], 200000, false⟩, .wake]
    (.reply none) .advance ⟨[1]⟩ (by decide) (by decide) (by decide) (by decide) (by decide)
  obtain ⟨t, hhand, -⟩ := hkey
  cases hhand

end Stream

end CameraRecorder

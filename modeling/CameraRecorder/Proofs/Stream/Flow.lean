import CameraRecorder.Proofs.Stream.Shape

/-!
# From task to task

Within a wake one task leads to the next (`Stream.Leads`), as the stream is and as the wake began;
a worker that is not awake does nothing until it is woken. Whatever is said about a wake from its
beginning to its end is proved from the tasks that may follow each other.
-/

namespace CameraRecorder

/-- The task with which a wake goes on after it has closed its file. -/
def Resumption.task : Resumption → Task
  | take => .taking
  | handle pending => .handling pending
  | reopen ticket => .opening ticket
  | retire => .retiring

/-- What follows when the file is closed that a task closes. -/
def Task.resumption? : Task → Option Resumption
  | closing next => some next
  | trailing _ _ next => some next
  | finishing next => some next
  | publishing next => some next
  | ending next => some next
  | _ => none

/-- What a file keeps as long as it is open. -/
def OpenFile.birth (f : OpenFile) : Path × Nat × Timestamp := (f.path, f.generation, f.startedAt)

namespace Stream

variable {s s' : Stream} {m : Move} {es : List Entry} {en : Bool} {task task' : Task}

/-- The tasks that a task leads to, in a wake that began enabled or disabled. -/
inductive Leads (s : Stream) (en : Bool) : Task → Task → Prop
  | handle {pending} : Leads s en .taking (.handling pending)
  | interrupt {pending} (hen : en = true) : Leads s en .taking (.closing (.handle pending))
  | closeLast (hen : en = false) (hnone : s.takeFrame? = none) :
    Leads s en .taking (.closing .retire)
  | turnIdle (hen : en = false) (hnone : s.takeFrame? = none) : Leads s en .taking .retiring
  | split {ticket file} (hfile : s.file = some file)
    (hsplit : s.splits file ticket.frame = true) :
    Leads s en (.handling (.video ticket)) (.closing (.reopen ticket))
  | writeVideo {ticket file} (hfile : s.file = some file)
    (hsplit : s.splits file ticket.frame = false) :
    Leads s en (.handling (.video ticket)) (.writingVideo ticket)
  | tryOpen {ticket} (hfile : s.file = none) :
    Leads s en (.handling (.video ticket)) (.opening ticket)
  | writeAudio {ticket file} (hfile : s.file = some file) :
    Leads s en (.handling (.audio ticket)) (.writingAudio ticket)
  | loseAudio {ticket} (hfile : s.file = none) :
    Leads s en (.handling (.audio ticket)) .collecting
  | loseVideo {ticket} : Leads s en (.opening ticket) .collecting
  | askKeyFrame {ticket} (hen : en = true) : Leads s en (.opening ticket) .askingKeyFrame
  | askName {ticket} (hen : en = true) (hlive : s.isEnabled = true) :
    Leads s en (.opening ticket) (.naming ticket s.stops)
  | name {ticket generation path} :
    Leads s en (.naming ticket generation) (.creating ticket generation path)
  | nameless {ticket generation} : Leads s en (.naming ticket generation) .collecting
  | create {ticket generation path} :
    Leads s en (.creating ticket generation path) (.beginning ticket)
  | fail {ticket generation path} : Leads s en (.creating ticket generation path) .collecting
  | begin {ticket} : Leads s en (.beginning ticket) (.writingVideo ticket)
  | videoWritten {ticket} : Leads s en (.writingVideo ticket) .collecting
  | askThumbnail {ticket} : Leads s en (.writingVideo ticket) .askingThumbnail
  | audioWritten {ticket} : Leads s en (.writingAudio ticket) .collecting
  | keyFrameAsked : Leads s en .askingKeyFrame .collecting
  | thumbnailAsked : Leads s en .askingThumbnail .collecting
  | collect : Leads s en .collecting .taking
  | appendTrailer {snapshot data next} :
    Leads s en (.closing next) (.trailing snapshot data next)
  | finishBare {next} : Leads s en (.closing next) (.finishing next)
  | finish {snapshot data next} : Leads s en (.trailing snapshot data next) (.finishing next)
  | publish {next} : Leads s en (.finishing next) (.publishing next)
  | tellEnd {next} : Leads s en (.publishing next) (.ending next)
  | resume {next} : Leads s en (.ending next) next.task

/-- **A wake goes on from task to task.** It ends when it began enabled and no frame is left, or
when it began disabled and the lanes were emptied. -/
theorem Step.leads (h : Step s m s' es) (hact : s.activity = .awake en task) :
    s'.activity = .awake en task ∨
      (∃ task', s'.activity = .awake en task' ∧ s.Leads en task task') ∨
      en = true ∧ task = .taking ∧ s.takeFrame? = none ∧ s'.activity = .asleep ∨
      task = .retiring ∧ s' = s.retire.1 := by
  have hleads {s₁ : Stream} {en₁ : Bool} {task₁ task₂ : Task}
      (h : s.activity = .awake en₁ task₁) (h' : s₁.activity = .awake en₁ task₂)
      (hl : s.Leads en₁ task₁ task₂) :
      s₁.activity = .awake en task ∨
        (∃ task', s₁.activity = .awake en task' ∧ s.Leads en task task') ∨
        en = true ∧ task = .taking ∧ s.takeFrame? = none ∧ s₁.activity = .asleep ∨
        task = .retiring ∧ s₁ = s.retire.1 := by
    cases hact.symm.trans h
    exact .inr (.inl ⟨task₂, h', hl⟩)
  cases h with
  | idle | start | stop | shutDown | misnamed => exact .inl hact
  | accept | displace => exact .inl ((activity_setLane ..).trans hact)
  | wake h _ | wakeInterrupted h _ _ => cases hact.symm.trans h
  | take h _ _ => exact hleads h rfl .handle
  | takeInterrupted h _ _ => exact hleads h rfl (.interrupt rfl)
  | sleep h hnone =>
    cases hact.symm.trans h
    exact .inr (.inr (.inl ⟨rfl, rfl, hnone, rfl⟩))
  | closeLast h hnone _ => exact hleads h rfl (.closeLast rfl hnone)
  | turnIdle h hnone _ => exact hleads h rfl (.turnIdle rfl hnone)
  | split h hfile hsplit => exact hleads h rfl (.split hfile hsplit)
  | writeVideo h hfile hsplit => exact hleads h rfl (.writeVideo hfile hsplit)
  | tryOpen h hfile => exact hleads h rfl (.tryOpen hfile)
  | writeAudio h hfile => exact hleads h rfl (.writeAudio hfile)
  | loseAudio h hfile => exact hleads h rfl (.loseAudio hfile)
  | loseDisabled h _ | loseNonKey h _ _ _ => exact hleads h rfl .loseVideo
  | askName h hlive _ => exact hleads h rfl (.askName rfl hlive)
  | askKeyFrame h _ _ _ => exact hleads h rfl (.askKeyFrame rfl)
  | collect h => exact hleads h rfl .collect
  | appendTrailer h _ => exact hleads h rfl .appendTrailer
  | finishBare h _ => exact hleads h rfl .finishBare
  | retire h =>
    cases hact.symm.trans h
    exact .inr (.inr (.inr ⟨rfl, rfl⟩))
  | name h => exact hleads h rfl .name
  | nameless h => exact hleads h rfl .nameless
  | create h _ => exact hleads h rfl .create
  | fail h => exact hleads h rfl .fail
  | begin h => exact hleads h rfl .begin
  | videoWritten h _ _ | videoStray h _ => exact hleads h rfl .videoWritten
  | askThumbnail h _ _ => exact hleads h rfl .askThumbnail
  | audioWritten h => exact hleads h rfl .audioWritten
  | asked h htask =>
    rcases htask with rfl | rfl
    · exact hleads h rfl .keyFrameAsked
    · exact hleads h rfl .thumbnailAsked
  | finish h => exact hleads h rfl .finish
  | publish h => exact hleads h rfl .publish
  | tellEnd h => exact hleads h rfl .tellEnd
  | @resume _ next _ h => cases next <;> exact hleads h rfl .resume

/-- A worker that is not awake does nothing until it is woken. If it finds then that a stop
interrupted its file, it closes it first. -/
theorem Step.of_resting (h : Step s m s' es) (hrest : s.activity.task? = none) :
    s.activity = .asleep ∧ m = .wake ∧ es = [.woken s.isEnabled] ∧
        s'.activity = .awake s.isEnabled
          (if s.isEnabled && s.isInterrupted then .closing .take else .taking) ∨
      s'.activity = s.activity ∧ s'.file = s.file ∧
        (s.isEnabled = false → ∀ kind, s'.lane? kind = s.lane? kind) := by
  cases h with
  | idle | start | stop | shutDown | misnamed =>
    exact .inr ⟨rfl, rfl, fun _ kind => by cases kind <;> rfl⟩
  | accept _ hen | displace hen =>
    refine .inr ⟨activity_setLane .., file_setLane .., fun hdisabled => ?_⟩
    rw [hen] at hdisabled
    cases hdisabled
  | wake h hi => exact .inl ⟨h, rfl, rfl, by rw [hi]; rfl⟩
  | wakeInterrupted h hen hi => exact .inl ⟨h, rfl, by rw [hen], by rw [hen, hi]; rfl⟩
  | take h _ _ | takeInterrupted h _ _ | sleep h _ | closeLast h _ _ | turnIdle h _ _
  | split h _ _ | writeVideo h _ _ | tryOpen h _ | writeAudio h _ | loseAudio h _
  | loseDisabled h _ | askName h _ _ | askKeyFrame h _ _ _ | loseNonKey h _ _ _ | collect h
  | appendTrailer h _ | finishBare h _ | retire h | name h | nameless h | create h _ | fail h
  | begin h | videoWritten h _ _ | askThumbnail h _ _ | videoStray h _ | audioWritten h
  | asked h _ | finish h | publish h | tellEnd h | resume h =>
    rw [h] at hrest
    cases hrest

theorem task?_retire (s : Stream) : s.retire.1.activity.task? = none := by
  cases hshut : s.shutdown <;> simp [Stream.retire, hshut, Activity.task?]

/-- **What a task comes from.** A worker that is awake was at the same task before, or at one that
led to it, in the same wake; or it is woken now. -/
theorem Step.comes_from (h : Step s m s' es) (hact' : s'.activity = .awake en task') :
    s.activity = .awake en task' ∨ (∃ task, s.activity = .awake en task ∧ s.Leads en task task') ∨
      s.activity = .asleep ∧ m = .wake ∧ es = [.woken en] ∧ s.isEnabled = en ∧
        task' = if s.isEnabled && s.isInterrupted then .closing .take else .taking := by
  cases hact : s.activity with
  | asleep | stopped | crashed =>
    rcases h.of_resting (by rw [hact]; rfl) with ⟨hasleep, hwake, hes, hwoken⟩ | ⟨hsame, -⟩
    · cases hact'.symm.trans hwoken
      exact .inr (.inr ⟨hact.symm.trans hasleep, hwake, hes, rfl, rfl⟩)
    · cases (hsame.trans hact).symm.trans hact'
  | awake en₀ task =>
    rcases h.leads hact with hsame | ⟨task₁, h₁, hleads⟩ | ⟨-, -, -, hasleep⟩ | ⟨-, rfl⟩
    · exact .inl (hsame.symm.trans hact')
    · cases hact'.symm.trans h₁
      exact .inr (.inl ⟨task, rfl, hleads⟩)
    · cases hasleep.symm.trans hact'
    · have hrest := s.task?_retire
      rw [hact'] at hrest
      cases hrest

/-- A worker that is awake was awake before, in the same wake, or it is woken now. -/
theorem Step.same_wake (h : Step s m s' es) (hact' : s'.activity = .awake en task') :
    (∃ task, s.activity = .awake en task) ∨
      s.activity = .asleep ∧ m = .wake ∧ es = [.woken en] ∧ s.isEnabled = en := by
  rcases h.comes_from hact' with hsame | ⟨task, hact, -⟩ | ⟨hasleep, hwake, hes, hen, -⟩
  · exact .inl ⟨task', hsame⟩
  · exact .inl ⟨task, hact⟩
  · exact .inr ⟨hasleep, hwake, hes, hen⟩

/-- A wake goes on, or it ends. -/
theorem Step.goes_on (h : Step s m s' es) (hact : s.activity = .awake en task) :
    (∃ task', s'.activity = .awake en task') ∨
      en = true ∧ task = .taking ∧ s.takeFrame? = none ∧ s'.activity = .asleep ∨
      task = .retiring ∧ s' = s.retire.1 := by
  rcases h.leads hact with hsame | ⟨task', hact', -⟩ | hover
  · exact .inl ⟨task, hsame⟩
  · exact .inl ⟨task', hact'⟩
  · exact .inr hover

/-- A worker that is not awake was not awake before, or its wake ends. -/
theorem Step.comes_to_rest (h : Step s m s' es) (hrest' : s'.activity.task? = none) :
    s.activity.task? = none ∧ s'.activity = s.activity ∨
      s.activity = .awake true .taking ∧ s'.activity = .asleep ∨
      ∃ en, s.activity = .awake en .retiring ∧ s' = s.retire.1 := by
  cases hact : s.activity with
  | asleep | stopped | crashed =>
    rcases h.of_resting (by rw [hact]; rfl) with ⟨-, -, -, hwoken⟩ | ⟨hsame, -⟩
    · rw [hwoken] at hrest'
      cases hrest'
    · exact .inl ⟨rfl, hsame.trans hact⟩
  | awake en task =>
    rcases h.goes_on hact with ⟨task', hact'⟩ | ⟨rfl, rfl, -, hasleep⟩ | ⟨rfl, hretire⟩
    · rw [hact'] at hrest'
      cases hrest'
    · exact .inr (.inl ⟨rfl, hasleep⟩)
    · exact .inr (.inr ⟨en, rfl, hretire⟩)

/-- A closing that is under way goes on until the end of the file was told. -/
theorem Step.goes_on_closing (h : Step s m s' es) {next : Resumption}
    (hact : s.activity = .awake en task) (hnext : task.resumption? = some next) :
    (∃ task', s'.activity = .awake en task' ∧ task'.resumption? = some next) ∨
      task = .ending next ∧ s'.activity = .awake en next.task := by
  rcases h.leads hact with hsame | ⟨task', hact', hleads⟩ | ⟨-, rfl, -⟩ | ⟨rfl, -⟩
  · exact .inl ⟨task, hsame, hnext⟩
  · cases hleads <;> cases hnext <;> first | exact .inr ⟨rfl, hact'⟩ | exact .inl ⟨_, hact', rfl⟩
  · cases hnext
  · cases hnext

/-! ## The open file -/

theorem birth_withSnapshots (s : Stream) (waiting : Lane) (kept : Option Ticket) :
    (s.withSnapshots waiting kept).file.map OpenFile.birth = s.file.map OpenFile.birth := by
  cases hfile : s.file <;> simp [withSnapshots, hfile, OpenFile.birth]

/-- **The open file stays the file it is**, until one is created or the end of one was told. -/
theorem Step.birth (h : Step s m s' es) :
    s'.file.map OpenFile.birth = s.file.map OpenFile.birth ∨
      (∃ en ticket generation path, s.activity = .awake en (.creating ticket generation path) ∧
        s'.activity = .awake en (.beginning ticket) ∧
        s'.file.map (·.generation) = some generation) ∨
      ∃ en next, s.activity = .awake en (.ending next) ∧ s'.activity = .awake en next.task ∧
        s'.file = none ∧ es = [] := by
  cases h with
  | accept | displace => exact .inl (by rw [file_setLane])
  | take _ htake _ | takeInterrupted _ htake _ =>
    obtain ⟨l, l', -, rfl⟩ := takeFrame?_eq_some htake
    exact .inl (by rw [file_setLane])
  | sleep | closeLast | turnIdle | collect =>
    obtain ⟨waiting, kept, h⟩ := s.exists_collectThumbnail
    refine .inl ?_
    rw [h]
    exact s.birth_withSnapshots waiting kept
  | appendTrailer | finishBare =>
    obtain ⟨waiting, kept, h⟩ := s.exists_latchThumbnail
    refine .inl ?_
    rw [h]
    exact s.birth_withSnapshots waiting kept
  | create h _ => exact .inr (.inl ⟨_, _, _, _, h, rfl, rfl⟩)
  | videoWritten _ hfile _ | askThumbnail _ hfile _ =>
    refine .inl ?_
    rw [hfile]
    rfl
  | @resume _ next _ h => exact .inr (.inr ⟨_, next, h, by cases next <;> rfl, rfl, rfl⟩)
  | _ => exact .inl rfl

end Stream

end CameraRecorder

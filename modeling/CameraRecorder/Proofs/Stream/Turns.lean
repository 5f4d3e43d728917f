import CameraRecorder.Proofs.Stream.Hand

/-!
# Wakes come to an end

A worker that is awake can always go on, and every turn that it gets brings the end of its wake
nearer: what was accepted so far leaves it a bounded number of turns (`Stream.work`), which nothing
but another frame or another wake can raise. So a wake that producers leave alone is over after a
number of turns that is known when it begins.
-/

namespace CameraRecorder

/-! ## Frames that are accepted -/

/-- The frame that an entry tells was accepted for the writer. -/
def Entry.accepts? : Entry → Option Item
  | .accepted .video ticket => some ⟨.video, ticket⟩
  | .accepted .audio ticket => some ⟨.audio, ticket⟩
  | _ => none

/-- The frames accepted for the writer, in order. -/
def acceptedItems (es : List Entry) : List Item := es.filterMap Entry.accepts?

@[simp] theorem acceptedItems_append (es es' : List Entry) :
    acceptedItems (es ++ es') = acceptedItems es ++ acceptedItems es' :=
  List.filterMap_append

/-- Whether an entry tells that a wake began. -/
def Entry.isWoken : Entry → Bool
  | .woken _ => true
  | _ => false

namespace Buffers

variable {b b' : Buffers} {e : Entry} {es : List Entry}

/-- How many frames wait for the writer. -/
def waiting (b : Buffers) : Nat := (b.queue .video).length + (b.queue .audio).length

/-- Replacing a list leaves the other lanes' as they are. -/
theorem waiting_put (b : Buffers) (kind : LaneKind) (ts : List Ticket) :
    (b.put kind ts).waiting + (if kind = .thumbnail then 0 else (b.queue kind).length)
      = b.waiting + if kind = .thumbnail then 0 else ts.length := by
  cases kind <;> simp [waiting] <;> omega

@[simp] theorem waiting_count (b : Buffers) (kind : LaneKind) :
    (b.count kind).waiting = b.waiting := rfl

/-- A frame that is taken waits no more, and only one that is accepted comes to wait. -/
theorem Step.waiting_le (h : Step b e b') :
    b'.waiting + (takenItems [e]).length ≤ b.waiting + (acceptedItems [e]).length := by
  cases h with
  | @accepted kind frame =>
    have hput := b.waiting_put kind (Ticket.insert ⟨b.arrivals kind, frame⟩ (b.queue kind))
    rw [List.orderedInsert_length] at hput
    rw [waiting_count]
    cases kind with
    | video | audio =>
      show _ + 0 ≤ _ + 1
      simp only [reduceCtorEq, if_false] at hput
      omega
    | thumbnail =>
      show _ + 0 ≤ _ + 0
      simp only [if_true] at hput
      omega
  | @evicted ticket pre post hq _ _ =>
    have hput := b.waiting_put .video (pre ++ post)
    simp only [hq, List.length_append, List.length_cons, reduceCtorEq, if_false] at hput
    show _ + 0 ≤ _ + 0
    omega
  | @discarded kind =>
    have hput := b.waiting_put kind []
    rw [List.length_nil, ite_self] at hput
    show _ + 0 ≤ _ + 0
    omega
  | @taken kind ticket rest hq _ =>
    have hput := b.waiting_put kind rest
    rw [hq, List.length_cons] at hput
    cases kind with
    | video | audio =>
      show _ + 1 ≤ _ + 0
      simp only [reduceCtorEq, if_false] at hput
      omega
    | thumbnail =>
      show _ + 0 ≤ _ + 0
      simp only [if_true] at hput
      omega
  | other h =>
    have hnone : e.takes? = none := by cases e <;> first | rfl | cases h
    simp [takenItems, hnone]

theorem Steps.waiting_le (h : Steps b es b') :
    b'.waiting + (takenItems es).length ≤ b.waiting + (acceptedItems es).length := by
  induction h with
  | nil => exact Nat.le_refl _
  | @cons b e b₁ es b' hstep hsteps ih =>
    have hfirst := hstep.waiting_le
    rw [← List.singleton_append, takenItems_append, acceptedItems_append, List.length_append,
      List.length_append]
    omega

end Buffers

/-! ## Turns -/

/-- Whether a task is a call that is answered by a reply. -/
def Task.isCall : Task → Bool
  | creating .. | beginning _ | writingVideo _ | writingAudio _ | askingKeyFrame | askingThumbnail
  | trailing .. | finishing _ | publishing _ | ending _ => true
  | taking | handling _ | opening _ | collecting | closing _ | retiring | naming .. => false

/-- How many turns a worker may need for what it does after it has closed its file. -/
def Resumption.work : Resumption → Nat
  | take => 7
  | handle _ => 20
  | reopen _ => 14
  | retire => 1

/-- How many turns a worker may need for a task and all that follows from it, other frames apart. -/
def Task.work : Task → Nat
  | handling _ => 20
  | opening _ => 14
  | naming .. => 13
  | creating .. => 12
  | beginning _ => 11
  | writingVideo _ => 10
  | writingAudio _ | askingKeyFrame | askingThumbnail => 9
  | collecting => 8
  | taking => 7
  | closing next => next.work + 5
  | trailing _ _ next => next.work + 4
  | finishing next => next.work + 3
  | publishing next => next.work + 2
  | ending next => next.work + 1
  | retiring => 1

/-- How many turns a worker may need for what it does. -/
def Activity.work : Activity → Nat
  | awake _ task => task.work
  | _ => 0

namespace Stream

variable {s s' : Stream} {m : Move} {es : List Entry}

/-- Whether a move is the worker's turn: it does the task at hand, or the call that it waits for
ends. -/
def isTurn (s : Stream) : Move → Bool
  | .advance => s.advance?.isSome
  | .named .. => s.activity.task?.any fun task => (task matches .naming ..)
  | .reply _ => s.activity.task?.any Task.isCall
  | _ => false

/-- How many turns the worker gets. -/
def turns (s : Stream) : List Move → Nat
  | [] => 0
  | m :: ms => (s.isTurn m).toNat + (s.move m).1.turns ms

/-- How many turns the worker may need for its task and for the frames that wait. -/
def work (s : Stream) : Nat := s.activity.work + 20 * s.buffers.waiting

/-- **A worker that is awake can always go on.** -/
theorem exists_turn {en : Bool} {task : Task} (h : s.activity = .awake en task) :
    ∃ m, s.isTurn m = true := by
  cases task with
  | taking | handling _ | opening _ | collecting | closing _ | retiring =>
    exact ⟨.advance, by simp [isTurn, advance?, h]⟩
  | naming _ _ => exact ⟨.named none (.ok ⟨[]⟩), by simp [isTurn, h, Activity.task?]⟩
  | _ => exact ⟨.reply none, by simp [isTurn, h, Activity.task?, Task.isCall]⟩

/-! ## Each turn is something done -/

@[simp] theorem activity_turnTo (s : Stream) (en : Bool) (task : Task) :
    (s.turnTo en task).1.activity = .awake en task := rfl

theorem activity_takeNext_ne (s : Stream) (en : Bool) :
    (s.takeNext en).1.activity ≠ .awake en .taking := by
  unfold takeNext
  cases htake : s.takeFrame? with
  | some taken =>
    by_cases hi : (en && taken.2.isInterrupted) = true <;> simp [hi]
  | none =>
    cases en with
    | true => simp [finishWake]
    | false => by_cases hfile : s.collectThumbnail.1.file.isSome = true <;> simp [finishWake, hfile]

theorem activity_handlePending_ne (s : Stream) (en : Bool) (pending : Pending) :
    (s.handlePending en pending).1.activity ≠ .awake en (.handling pending) := by
  unfold handlePending
  cases pending with
  | video ticket =>
    cases s.file with
    | none => simp
    | some file => by_cases hsplit : s.splits file ticket.frame = true <;> simp [hsplit]
  | audio ticket => cases s.file <;> simp

theorem activity_tryOpen_ne (s : Stream) (en : Bool) (ticket : Ticket) :
    (s.tryOpen en ticket).1.activity ≠ .awake en (.opening ticket) := by
  unfold tryOpen
  by_cases hen : (!en || !s.isEnabled) = true
  · simp only [hen, if_true, activity_turnTo]
    simp
  · by_cases hkey : ticket.frame.isKey = true
    · simp [hen, hkey]
    · by_cases hdue : s.keyFrameDue ticket.frame.pts = true <;> simp [hen, hkey, hdue]

/-- A task that is no call leads to another one, or to the end of the wake. -/
theorem activity_advance_ne {r : Stream × List Entry} (h : s.advance? = some r) :
    r.1.activity ≠ s.activity := by
  unfold advance? at h
  split at h
  · next hact =>
    cases h
    rw [hact]
    exact s.activity_takeNext_ne _
  · next hact =>
    cases h
    rw [hact]
    exact s.activity_handlePending_ne _ _
  · next hact =>
    cases h
    rw [hact]
    exact s.activity_tryOpen_ne _ _
  · next hact =>
    cases h
    rw [hact]
    simp [Stream.collect]
  · next hact =>
    cases h
    rw [hact]
    cases htrailer : s.latchThumbnail.1.trailer? <;> simp [Stream.close, htrailer]
  · next hact =>
    cases h
    rw [hact]
    cases hshut : s.shutdown <;> simp [Stream.retire, hshut]
  · cases h

theorem activity_videoWritten_ne (s : Stream) (en : Bool) (ticket : Ticket) (isWritten : Bool) :
    (s.videoWritten en ticket isWritten).1.activity ≠ .awake en (.writingVideo ticket) := by
  unfold videoWritten
  cases s.file with
  | none => simp
  | some file =>
    by_cases hdue : (!file.thumbnailAsked && s.policy.thumbnailDue (file.frameCount + 1)) = true
    · simp only [policy] at hdue
      simp [policy, hdue]
    · simp only [policy] at hdue
      simp [policy, hdue]

/-- A call that ends leads to another task. -/
theorem activity_reply_ne {error : Option WriterError}
    (h : s.activity.task?.any Task.isCall = true) :
    (s.reply error).1.activity ≠ s.activity := by
  cases hact : s.activity with
  | asleep | stopped | crashed => simp [hact, Activity.task?] at h
  | awake en task =>
    have hcall : task.isCall = true := by simpa [hact, Activity.task?] using h
    unfold reply
    rw [hact]
    cases task with
    | taking | handling _ | opening _ | collecting | closing _ | retiring | naming _ _ =>
      cases hcall
    | creating _ _ _ => cases error <;> simp [created]
    | writingVideo ticket => exact s.activity_videoWritten_ne _ _ _
    | ending next => cases next <;> simp [Stream.resume]
    | _ => simp

/-- **A turn is never idle.** -/
theorem activity_ne_of_isTurn (h : s.isTurn m = true) : (s.move m).1.activity ≠ s.activity := by
  cases m with
  | advance =>
    obtain ⟨r, hr⟩ := Option.isSome_iff_exists.mp h
    have hmove : (s.move .advance).1 = r.1 := by simp [move, hr]
    rw [hmove]
    exact activity_advance_ne hr
  | named request result =>
    cases hact : s.activity with
    | asleep | stopped | crashed => simp [isTurn, hact, Activity.task?] at h
    | awake en task =>
      cases task with
      | naming ticket generation =>
        cases result <;> simp [move, named, hact, turnTo]
      | _ => simp [isTurn, hact, Activity.task?] at h
  | reply error => exact activity_reply_ne h
  | _ => cases h

/-! ## What is left to be done -/

/-- A move that is not idle is a wake, or leaves less to be done than there was with the frame that
it takes. -/
theorem Step.work (h : Step s m s' es) :
    s'.activity = s.activity ∨
      (∃ en, m = .wake ∧ es = [.woken en] ∧ s'.activity.work ≤ s.activity.work + 12) ∨
      s'.activity.work < s.activity.work + 20 * (takenItems es).length := by
  have hless {en en' : Bool} {task task' : Task} (h : s.activity = .awake en task)
      (h' : s'.activity = .awake en' task') (hlt : task'.work < task.work) :
      s'.activity.work < s.activity.work + 20 * (takenItems es).length := by
    rw [h, h']
    show task'.work < task.work + _
    omega
  have htaken {pending : Pending} :
      (takenItems [.taken pending.lane pending.ticket]).length = 1 := by
    cases pending <;> rfl
  cases h with
  | idle | start | stop | shutDown | misnamed => exact .inl rfl
  | accept | displace => exact .inl (by cases ‹LaneKind› <;> rfl)
  | wake h _ | wakeInterrupted h _ _ =>
    exact .inr (.inl ⟨_, rfl, rfl, by rw [h]; simp [Activity.work, Task.work, Resumption.work]⟩)
  | take h htake _ | takeInterrupted h htake _ =>
    rw [htaken, h]
    refine .inr (.inr ?_)
    simp [Activity.work, Task.work, Resumption.work]
  | sleep h _ =>
    rw [h]
    refine .inr (.inr ?_)
    show 0 < 7 + _
    omega
  | retire h =>
    have hover : s.retire.1.activity.work = 0 := by
      cases hshut : s.shutdown <;> simp [Stream.retire, hshut, Activity.work]
    rw [h, hover]
    refine .inr (.inr ?_)
    show 0 < 1 + _
    omega
  | asked h htask =>
    rcases htask with rfl | rfl <;> exact .inr (.inr (hless h rfl (by decide)))
  | @resume _ next _ h =>
    refine .inr (.inr (hless h rfl ?_))
    cases next <;> simp [Task.work, Resumption.work]
  | closeLast h _ _ | turnIdle h _ _ | split h _ _ | writeVideo h _ _ | tryOpen h _
  | writeAudio h _ | loseAudio h _ | loseDisabled h _ | askName h _ _ | askKeyFrame h _ _ _
  | loseNonKey h _ _ _ | collect h | appendTrailer h _ | finishBare h _ | name h | nameless h
  | create h _ | fail h | begin h | videoWritten h _ _ | askThumbnail h _ _ | videoStray h _
  | audioWritten h | finish h | publish h | tellEnd h =>
    exact .inr (.inr (hless h rfl (by simp [Task.work, Resumption.work])))

/-- A turn of the worker at which no frame is taken leaves less to be done. -/
theorem turn_le {en : Bool} {task : Task} (hact : s.activity = .awake en task)
    (hnone : takenItems (s.move m).2 = []) :
    (s.isTurn m).toNat + (s.move m).1.activity.work ≤ task.work := by
  have hwork : s.activity.work = task.work := by rw [hact]; rfl
  have hbit := (s.isTurn m).toNat_le
  rcases (s.step_move m).work with hsame | ⟨en, rfl, hes, -⟩ | hlt
  · have hturn : s.isTurn m = false := by
      by_contra hturn
      exact activity_ne_of_isTurn (by simpa using hturn) hsame
    rw [hturn, hsame, hwork, Bool.toNat_false, Nat.zero_add]
  · -- a worker that is awake is not woken
    simp [move, wake, hact] at hes
  · rw [hnone, List.length_nil] at hlt
    omega

/-- **Every turn brings the end of the wake nearer.** -/
theorem work_move (hs : s.LanesSound) (m : Move) :
    (s.isTurn m).toNat + (s.move m).1.work
      ≤ s.work + 20 * (acceptedItems (s.move m).2).length
        + 12 * (s.move m).2.countP Entry.isWoken := by
  have hstep := s.step_move m
  have hwaiting := (hstep.buffers hs).2.waiting_le
  have hbit := (s.isTurn m).toNat_le
  unfold Stream.work
  rcases hstep.work with hsame | ⟨en, rfl, hes, hle⟩ | hlt
  · have hturn : s.isTurn m = false := by
      by_contra hturn
      exact activity_ne_of_isTurn (by simpa using hturn) hsame
    rw [hturn, hsame, Bool.toNat_false]
    omega
  · have hturn : (s.isTurn .wake).toNat = 0 := rfl
    have hone : (s.move .wake).2.countP Entry.isWoken = 1 := by rw [hes]; rfl
    omega
  · omega

/-- **In any run the turns of the worker are bounded**, by what was left to be done, the frames that
are accepted, and the wakes that begin. -/
theorem turns_le (hs : s.LanesSound) (ms : List Move) :
    s.turns ms + (s.run ms).1.work
      ≤ s.work + 20 * (acceptedItems (s.run ms).2).length
        + 12 * (s.run ms).2.countP Entry.isWoken := by
  induction ms generalizing s with
  | nil => simp [turns]
  | cons m ms ih =>
    have hfirst := work_move hs m
    have hrest := ih ((s.step_move m).buffers hs).1
    simp only [run_cons, turns, acceptedItems_append, List.length_append, List.countP_append]
    omega

end Stream

end CameraRecorder

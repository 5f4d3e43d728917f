import CameraRecorder.Proofs.Stream.Buffers

/-!
# The frame in the worker's hand

The worker holds one frame at a time. A frame is in its hand from the moment it is taken until it
is handed to the writer, through the closing of a file and the opening of the next, or until it is
lost. `Stream.loses` says when a move loses the frame; every other move keeps count: what is handed
over and what is then in hand is what was in hand and what is taken.
-/

namespace CameraRecorder

/-! ## Frames in the journal -/

/-- Whether an entry is a call to the writer, or the failure of one. -/
def Entry.isCall : Entry → Bool
  | .init .. | .video _ | .audio _ | .trailer .. | .deinit | .failed _ => true
  | _ => false

/-- The frame that an entry tells was taken for the writer. -/
def Entry.takes? : Entry → Option Item
  | .taken .video ticket => some ⟨.video, ticket⟩
  | .taken .audio ticket => some ⟨.audio, ticket⟩
  | _ => none

/-- The frame that an entry tells was handed to the writer. -/
def Entry.hands? : Entry → Option Item
  | .video ticket => some ⟨.video, ticket⟩
  | .audio ticket => some ⟨.audio, ticket⟩
  | _ => none

/-- The frames taken for the writer, in order. -/
def takenItems (es : List Entry) : List Item := es.filterMap Entry.takes?

/-- The frames handed to the writer, in order. -/
def handedItems (es : List Entry) : List Item := es.filterMap Entry.hands?

@[simp] theorem takenItems_append (es es' : List Entry) :
    takenItems (es ++ es') = takenItems es ++ takenItems es' :=
  List.filterMap_append

@[simp] theorem handedItems_append (es es' : List Entry) :
    handedItems (es ++ es') = handedItems es ++ handedItems es' :=
  List.filterMap_append

theorem Entry.takes?_eq_some {e : Entry} {x : Item} (h : e.takes? = some x) :
    e = .taken x.lane x.ticket ∧ x.lane ≠ .thumbnail := by
  unfold takes? at h
  split at h
  · cases h
    exact ⟨rfl, LaneKind.noConfusion⟩
  · cases h
    exact ⟨rfl, LaneKind.noConfusion⟩
  · cases h

/-! ## What is in hand -/

/-- The frame with the lane it was taken out of. -/
def Pending.item (p : Pending) : Item := ⟨p.lane, p.ticket⟩

/-- The frame kept for when the file is closed. -/
def Resumption.inHand : Resumption → List Item
  | take => []
  | handle pending => [pending.item]
  | reopen ticket => [⟨.video, ticket⟩]
  | retire => []

/-- The frame that a task still has to hand over. -/
def Task.inHand : Task → List Item
  | handling pending => [pending.item]
  | opening ticket => [⟨.video, ticket⟩]
  | naming ticket _ => [⟨.video, ticket⟩]
  | creating ticket _ _ => [⟨.video, ticket⟩]
  | beginning ticket => [⟨.video, ticket⟩]
  | closing next => next.inHand
  | trailing _ _ next => next.inHand
  | finishing next => next.inHand
  | publishing next => next.inHand
  | ending next => next.inHand
  | taking | collecting | retiring | writingVideo _ | writingAudio _ | askingKeyFrame
  | askingThumbnail => []

namespace Stream

variable {s s' : Stream} {m : Move} {es : List Entry}

/-- The frame that the worker still has to hand over. -/
def inHand (s : Stream) : List Item := (s.activity.task?.map Task.inHand).getD []

@[simp] theorem inHand_awake {en : Bool} {task : Task} (h : s.activity = .awake en task) :
    s.inHand = task.inHand := by
  simp [inHand, h, Activity.task?]

theorem inHand_asleep (h : s.activity = .asleep) : s.inHand = [] := by
  simp [inHand, h, Activity.task?]

/-- Whether a move loses the frame in hand: there is no file for it and it may not open one, or
the attempt to open one fails. -/
def loses (s : Stream) : Move → Bool
  | .advance =>
    match s.activity with
    | .awake _ (.handling (.audio _)) => s.file.isNone
    | .awake en (.opening ticket) => !en || !s.isEnabled || !ticket.frame.isKey
    | _ => false
  | .named _ (.error _) =>
    match s.activity with
    | .awake _ (.naming _ _) => true
    | _ => false
  | .reply (some _) =>
    match s.activity with
    | .awake _ (.creating _ _ _) => true
    | _ => false
  | _ => false

/-- No entry about a snapshot tells of a frame for the writer. -/
theorem items_of_isSnapshot (h : ∀ e ∈ es, e.isSnapshot = true) :
    handedItems es = [] ∧ takenItems es = [] := by
  constructor <;>
  · refine List.filterMap_eq_nil_iff.mpr fun e he => ?_
    rcases Entry.eq_of_isSnapshot (h e he) with ⟨ticket, rfl⟩ | ⟨tickets, rfl⟩ <;> rfl

@[simp] theorem inHand_setLane (s : Stream) (l : Lane) (kind : LaneKind) :
    (s.setLane l kind).inHand = s.inHand := by
  cases kind <;> rfl

/-- What is handed over and what is then in hand is what was in hand and what is taken. -/
def KeepsCount (s : Stream) (es : List Entry) (s' : Stream) : Prop :=
  handedItems es ++ s'.inHand = s.inHand ++ takenItems es

theorem KeepsCount.refl (s : Stream) : s.KeepsCount [] s :=
  (List.append_nil _).symm

theorem KeepsCount.trans {es' : List Entry} {s'' : Stream} (h : s.KeepsCount es s')
    (h' : s'.KeepsCount es' s'') : s.KeepsCount (es ++ es') s'' := by
  unfold KeepsCount at h h' ⊢
  rw [handedItems_append, takenItems_append, List.append_assoc, h', ← List.append_assoc, h,
    List.append_assoc]

theorem KeepsCount.of_task {en en' : Bool} {task task' : Task} (h : s.activity = .awake en task)
    (h' : s'.activity = .awake en' task')
    (hitems : handedItems es ++ task'.inHand = task.inHand ++ takenItems es) :
    s.KeepsCount es s' := by
  rw [KeepsCount, inHand_awake h, inHand_awake h']
  exact hitems

/-- The reply to a call moves no frame by itself. -/
theorem KeepsCount.after_reply {error : Option WriterError} (h : s.KeepsCount es s') :
    s.KeepsCount ((error.map Entry.failed).toList ++ es) s' := by
  cases error <;> exact h

theorem KeepsCount.reply {error : Option WriterError} (h : s.KeepsCount [] s') :
    s.KeepsCount (error.map Entry.failed).toList s' := by
  cases error <;> exact h

theorem KeepsCount.after_request {request : Option (UInt32 × Nat)} (h : s.KeepsCount es s') :
    s.KeepsCount ((request.map fun r => Entry.names r.1 r.2).toList ++ es) s' := by
  cases request <;> exact h

theorem KeepsCount.after_snapshots {snapshots : List Entry}
    (hsnap : ∀ e ∈ snapshots, e.isSnapshot = true) (h : s.KeepsCount es s') :
    s.KeepsCount (snapshots ++ es) s' := by
  obtain ⟨hh, ht⟩ := items_of_isSnapshot hsnap
  rw [KeepsCount, handedItems_append, takenItems_append, hh, ht]
  exact h

/-- **A move keeps count of the frames or loses the one in hand.** -/
theorem Step.hand (h : Step s m s' es) :
    s.KeepsCount es s' ∨
      s.loses m = true ∧ handedItems es = [] ∧ takenItems es = [] ∧ s'.inHand = [] := by
  cases h with
  | idle | start | stop | shutDown => exact .inl (List.append_nil _).symm
  | accept | displace =>
    refine .inl ?_
    rw [KeepsCount, inHand_setLane]
    exact (List.append_nil _).symm
  | wake h _ | wakeInterrupted h _ _ =>
    refine .inl ?_
    rw [KeepsCount, inHand_asleep h]
    rfl
  | @take _ pending _ h _ _ => exact .inl (.of_task h rfl (by cases pending <;> rfl))
  | @takeInterrupted pending _ h _ _ => exact .inl (.of_task h rfl (by cases pending <;> rfl))
  | sleep h _ =>
    obtain ⟨hh, ht⟩ := items_of_isSnapshot s.isSnapshot_collectThumbnail
    refine .inl ?_
    rw [KeepsCount, inHand_awake h, hh, ht]
    rfl
  | closeLast h _ _ | turnIdle h _ _ | collect h =>
    obtain ⟨hh, ht⟩ := items_of_isSnapshot s.isSnapshot_collectThumbnail
    exact .inl (.of_task h rfl (by rw [hh, ht]; rfl))
  | split h _ _ | writeVideo h _ _ | tryOpen h _ | writeAudio h _ | askName h _ _ | begin h
  | create h _ => exact .inl (.of_task h rfl rfl)
  | loseAudio h hfile => exact .inr ⟨by simp [loses, h, hfile], rfl, rfl, rfl⟩
  | loseDisabled h hen =>
    refine .inr ⟨?_, rfl, rfl, rfl⟩
    rcases hen with rfl | hen
    · simp [loses, h]
    · simp [loses, h, hen]
  | askKeyFrame h _ hkey _ | loseNonKey h _ hkey _ =>
    exact .inr ⟨by simp [loses, h, hkey], rfl, rfl, rfl⟩
  | fail h => exact .inr ⟨by simp [loses, h], rfl, rfl, rfl⟩
  | @nameless _ _ _ _ request h =>
    refine .inr ⟨by simp [loses, h], ?_, ?_, rfl⟩ <;> cases request <;> rfl
  | name h => exact .inl (.after_request (.of_task h rfl rfl))
  | @misnamed request _ =>
    refine .inl ?_
    cases request <;> exact (List.append_nil _).symm
  | appendTrailer h _ | finishBare h _ =>
    exact .inl (.after_snapshots s.isSnapshot_latchThumbnail
      (.of_task h rfl (List.append_nil _).symm))
  | retire h =>
    refine .inl ?_
    rw [KeepsCount, inHand_awake h]
    unfold Stream.retire
    cases s.shutdown <;> cases s.audio <;> rfl
  | videoWritten h _ _ | audioWritten h | videoStray h _ => exact .inl (.reply (.of_task h rfl rfl))
  | askThumbnail h _ _ => exact .inl (.after_reply (.of_task h rfl rfl))
  | asked h htask => rcases htask with rfl | rfl <;> exact .inl (.of_task h rfl rfl)
  | finish h => exact .inl (.after_reply (.of_task h rfl (List.append_nil _).symm))
  | publish h => exact .inl (.reply (.of_task h rfl (List.append_nil _).symm))
  | tellEnd h =>
    refine .inl (.of_task h rfl ?_)
    cases s.file <;> exact (List.append_nil _).symm
  | @resume _ next _ h =>
    refine .inl (.of_task h rfl ?_)
    cases next <;> rfl

/-- A frame for the writer is only taken at the head of a wake's loop, and then nothing else
happens. -/
theorem Step.of_taken (h : Step s m s' es) {x : Item} (hx : x ∈ takenItems es) :
    ∃ en pending s₁, x = pending.item ∧ es = [.taken pending.lane pending.ticket] ∧
      s.activity = .awake en .taking ∧ s.takeFrame? = some (pending, s₁) ∧
      ((en && s₁.isInterrupted) = false ∧
          s' = { s₁ with activity := .awake en (.handling pending) } ∨
        en = true ∧ s₁.isInterrupted = true ∧
          s' = { s₁ with activity := .awake true (.closing (.handle pending)) }) := by
  have hitem : ∀ {p : Pending}, x ∈ takenItems [.taken p.lane p.ticket] → x = p.item := by
    intro p hx
    cases p <;> exact List.mem_singleton.mp hx
  cases h with
  | take h htake hi => exact ⟨_, _, _, hitem hx, rfl, h, htake, .inl ⟨hi, rfl⟩⟩
  | takeInterrupted h htake hi => exact ⟨_, _, _, hitem hx, rfl, h, htake, .inr ⟨rfl, hi, rfl⟩⟩
  | sleep | closeLast | turnIdle | collect =>
    rw [(items_of_isSnapshot s.isSnapshot_collectThumbnail).2] at hx
    cases hx
  | appendTrailer | finishBare =>
    rw [takenItems_append, (items_of_isSnapshot s.isSnapshot_latchThumbnail).2] at hx
    cases hx
  | retire =>
    unfold Stream.retire at hx
    cases haudio : s.audio <;> simp [haudio, takenItems, Entry.takes?] at hx
  | @name _ _ _ _ request | @nameless _ _ _ _ request | @misnamed request _ =>
    cases request <;> cases hx
  | @videoWritten _ _ _ error | @askThumbnail _ _ _ error | @videoStray _ _ error
  | @audioWritten _ _ error | @finish _ _ _ _ error | @publish _ _ error =>
    cases error <;> cases hx
  | tellEnd => cases hfile : s.file <;> simp [hfile, takenItems, Entry.takes?] at hx
  | _ => cases hx

/-- A frame is only taken out of a lane that exists. -/
theorem Step.lane_of_taken (h : Step s m s' es) {x : Item} (hx : x ∈ takenItems es) :
    (s.lane? x.lane).isSome = true := by
  obtain ⟨en, pending, s₁, rfl, -, -, htake, -⟩ := h.of_taken hx
  obtain ⟨l, l', hl, -⟩ := takeFrame?_eq_some htake
  exact Option.isSome_of_eq_some hl

/-- In a run's journal, the taking of a frame for the writer stands between what was run before and
what is run after. -/
theorem exists_taking {ms : List Move} {x : Item} {pre post : List Entry}
    (h : (s.run ms).2 = pre ++ .taken x.lane x.ticket :: post) (hx : x.lane ≠ .thumbnail) :
    ∃ ms₁ m ms₂, ms = ms₁ ++ m :: ms₂ ∧ pre = (s.run ms₁).2 ∧
      x ∈ takenItems ((s.run ms₁).1.move m).2 ∧
      post = (((s.run ms₁).1.move m).1.run ms₂).2 := by
  have hitem : (Entry.taken x.lane x.ticket).takes? = some x := by
    obtain ⟨lane, ticket⟩ := x
    cases lane with
    | video | audio => rfl
    | thumbnail => exact absurd rfl hx
  have htaken {es : List Entry} (he : .taken x.lane x.ticket ∈ es) : x ∈ takenItems es :=
    List.mem_filterMap.mpr ⟨_, he, hitem⟩
  -- the move that takes a frame tells of nothing else
  have hlone (s : Stream) (m : Move) (he : .taken x.lane x.ticket ∈ (s.move m).2) :
      (s.move m).2 = [.taken x.lane x.ticket] := by
    obtain ⟨en, pending, s₁, rfl, hes, -⟩ := (s.step_move m).of_taken (htaken he)
    exact hes
  obtain ⟨ms₁, m, ms₂, rfl, rfl, hes, rfl⟩ := exists_lone_move hlone h
  exact ⟨ms₁, m, ms₂, rfl, rfl, htaken (by rw [hes]; simp), rfl⟩

/-- In any run, what is handed over and what is then in hand is part of what was in hand and what
is taken, in this order. -/
theorem handed_sublist (s : Stream) (ms : List Move) :
    (handedItems (s.run ms).2 ++ (s.run ms).1.inHand).Sublist
      (s.inHand ++ takenItems (s.run ms).2) := by
  induction ms generalizing s with
  | nil => simp [handedItems, takenItems]
  | cons m ms ih =>
    have hrest := ih (s.move m).1
    rw [run_cons, handedItems_append, takenItems_append, List.append_assoc]
    rcases (s.step_move m).hand with hkeeps | ⟨-, hh, ht, hnone⟩
    · rw [← List.append_assoc s.inHand, ← hkeeps, List.append_assoc]
      exact hrest.append_left _
    · rw [hh, ht, List.nil_append, List.nil_append]
      rw [hnone, List.nil_append] at hrest
      exact hrest.trans (List.sublist_append_right _ _)

end Stream

end CameraRecorder

import CameraRecorder.Proofs.Stream.Snapshots

/-!
# Snapshots that a file leaves over

Whenever a wake has handled a frame, it throws out the snapshots that wait and are not kept. It does
not do so when it closes a file: what waits then stays, and the next file may keep it. So a snapshot
can be embedded in another file than the one it was accepted for. It is then embedded in the very
next one, and only if nothing was handed over between its acceptance and the end of its own file
(`Stream.left_over`).
-/

namespace CameraRecorder

/-- What stands in a list and not in its first part stands in the rest of it. -/
theorem exists_of_not_mem {α : Type} {first rest pre post : List α} {a : α}
    (h : first ++ rest = pre ++ a :: post) (ha : a ∉ first) :
    ∃ mid, pre = first ++ mid ∧ rest = mid ++ a :: post := by
  rcases List.append_eq_append_iff.mp h with ⟨mid, rfl, hrest⟩ | ⟨mid, rfl, hrest⟩
  · exact ⟨mid, rfl, hrest⟩
  · cases mid with
    | nil => exact ⟨[], (List.append_nil _).symm.trans (List.append_nil _).symm, hrest.symm⟩
    | cons b mid =>
      cases hrest
      simp at ha

/-- What stands in a list and not in its last part stands in the part before. -/
theorem exists_of_not_mem_right {α : Type} {first rest pre post : List α} {a : α}
    (h : first ++ rest = pre ++ a :: post) (ha : a ∉ rest) :
    ∃ mid, first = pre ++ a :: mid ∧ post = mid ++ rest := by
  rcases List.append_eq_append_iff.mp h with ⟨mid, rfl, rfl⟩ | ⟨mid, rfl, hrest⟩
  · simp at ha
  · cases mid with
    | nil =>
      rw [List.nil_append] at hrest
      rw [← hrest] at ha
      simp at ha
    | cons b mid =>
      cases hrest
      exact ⟨mid, rfl, rfl⟩

/-- Whether an entry tells that the snapshots that wait were thrown out. -/
def Entry.isDrain : Entry → Bool
  | .discarded .thumbnail _ => true
  | _ => false

/-- Whether an entry tells that a file began or ended. -/
def Entry.isBoundary (e : Entry) : Bool := e.isFileBegin || e.isFileEnd

/-- How many frames a wake hands over before it throws out the snapshots that wait, during the tasks
at which it is bound to do so. -/
def Task.due? : Task → Option Nat
  | beginning _ => some 1
  | writingVideo _ | writingAudio _ | askingThumbnail | collecting => some 0
  | _ => none

theorem isBoundary_of_isSnapshot {e : Entry} (h : e.isSnapshot = true) : e.isBoundary = false := by
  rcases Entry.eq_of_isSnapshot h with ⟨ticket, rfl⟩ | ⟨tickets, rfl⟩ <;> rfl

theorem Entry.eq_of_isDrain {e : Entry} (h : e.isDrain = true) :
    ∃ tickets, e = .discarded .thumbnail tickets := by
  unfold isDrain at h
  split at h
  · exact ⟨_, rfl⟩
  · cases h

theorem Entry.eq_of_isFileBegin {e : Entry} (h : e.isFileBegin = true) :
    ∃ path, e = .event (.fileBegin path) := by
  unfold isFileBegin at h
  split at h
  · exact ⟨_, rfl⟩
  · cases h

theorem Entry.eq_of_isFileEnd {e : Entry} (h : e.isFileEnd = true) :
    ∃ path duration, e = .event (.fileEnd path duration) := by
  unfold isFileEnd at h
  split at h
  · exact ⟨_, _, rfl⟩
  · cases h

/-- A snapshot that was taken is told of. -/
theorem mem_of_snapshotsTaken {es : List Entry} {t : Ticket} (h : t ∈ snapshotsTaken es) :
    .taken .thumbnail t ∈ es := by
  obtain ⟨e, he, ht⟩ := List.mem_filterMap.mp h
  unfold Entry.snapshot? at ht
  split at ht <;> cases ht
  exact he

/-- What waits when the lane is emptied is not taken any more. -/
theorem Buffers.Steps.not_taken_of_discarded {b b' : Buffers} {kind : LaneKind} {t : Ticket}
    {tickets : List Ticket} (pre : List Entry) {post : List Entry}
    (h : Steps b (pre ++ .discarded kind tickets :: post) b') (ht : .accepted kind t ∈ pre) :
    .taken kind t ∉ post := by
  intro htaken
  have hnodup := h.nodup_entrants
  obtain ⟨b₁, -, hrest⟩ := h.split
  cases hrest with
  | @cons _ _ b₂ _ _ hstep hpost =>
    have hempty : b₂.queue kind = [] := by
      cases hstep with
      | discarded => rw [queue_put, if_pos rfl]
      | other h => cases h
    rcases hpost.mem_of_taken htaken with hwaits | hagain
    · rw [hempty] at hwaits
      cases hwaits
    · -- it would have come in twice
      have hin : (⟨kind, t⟩ : Item) ∈ entrants pre := mem_entrants.mpr ht
      have hin' : (⟨kind, t⟩ : Item) ∈ entrants post := mem_entrants.mpr hagain
      rw [entrants_append] at hnodup
      exact (List.nodup_append.mp hnodup).2.2 _ hin _ hin' rfl

namespace Stream

variable {s s' : Stream} {m : Move} {es : List Entry} {e : Entry} {t : Ticket}

/-! ## From a frame to the next look at the snapshots -/

/-- A file begins or ends, or a frame is handed over, and what is known of the worker then. -/
inductive Marks (s : Stream) : Entry → Stream → Prop
  | begins {s' en ticket path} (h' : s'.activity = .awake en (.beginning ticket)) :
    Marks s (.event (.fileBegin path)) s'
  | handsVideo {s' en ticket} (h' : s'.activity = .awake en (.writingVideo ticket)) :
    Marks s (.video ticket) s'
  | handsAudio {s' en ticket} (h' : s'.activity = .awake en (.writingAudio ticket)) :
    Marks s (.audio ticket) s'
  | ends {s' en next path durationMs} (h : s.activity = .awake en (.publishing next)) :
    Marks s (.event (.fileEnd path durationMs)) s'

/-- The beginning and the end of a file, and the handing over of a frame, are told of alone. -/
theorem Step.marks (h : Step s m s' es) (he : e ∈ es)
    (hmark : e.isBoundary = true ∨ e.hands?.isSome = true) : es = [e] ∧ s.Marks e s' := by
  have hapart {es : List Entry}
      (hes : ∀ e ∈ es, e.isBoundary = false ∧ e.hands? = none) (he : e ∈ es) : False := by
    obtain ⟨hboundary, hhands⟩ := hes e he
    rw [hboundary, hhands] at hmark
    simp at hmark
  have hsnapshots {es : List Entry} (hes : ∀ e ∈ es, e.isSnapshot = true) :
      ∀ e ∈ es, e.isBoundary = false ∧ e.hands? = none :=
    forall_mem_snapshots hes (fun _ => ⟨rfl, rfl⟩) fun _ => ⟨rfl, rfl⟩
  have hoptional {α : Type} (o : Option α) {f : α → Entry}
      (hf : ∀ a, (f a).isBoundary = false ∧ (f a).hands? = none) :
      ∀ e ∈ (o.map f).toList, e.isBoundary = false ∧ e.hands? = none := forall_mem_optional o hf
  cases h with
  | create h _ =>
    obtain rfl := List.mem_singleton.mp he
    exact ⟨rfl, .begins rfl⟩
  | writeVideo | begin =>
    obtain rfl := List.mem_singleton.mp he
    exact ⟨rfl, .handsVideo rfl⟩
  | writeAudio =>
    obtain rfl := List.mem_singleton.mp he
    exact ⟨rfl, .handsAudio rfl⟩
  | tellEnd h =>
    obtain ⟨f, hfile, rfl⟩ := Option.map_eq_some_iff.mp (Option.mem_toList.mp he)
    exact ⟨by rw [hfile]; rfl, .ends h⟩
  | sleep | closeLast | turnIdle | collect =>
    exact (hapart (hsnapshots s.isSnapshot_collectThumbnail) he).elim
  | appendTrailer | finishBare =>
    exact (hapart (List.forall_mem_append.mpr
      ⟨hsnapshots s.isSnapshot_latchThumbnail, List.forall_mem_singleton.mpr ⟨rfl, rfl⟩⟩) he).elim
  | retire =>
    exact (hapart (s.forall_mem_retire fun _ _ => ⟨rfl, rfl⟩) he).elim
  | name | askThumbnail | finish =>
    exact (hapart (List.forall_mem_append.mpr
      ⟨hoptional _ fun _ => ⟨rfl, rfl⟩, List.forall_mem_singleton.mpr ⟨rfl, rfl⟩⟩) he).elim
  | misnamed | nameless | videoWritten | videoStray | audioWritten | publish =>
    exact (hapart (hoptional _ fun _ => ⟨rfl, rfl⟩) he).elim
  | _ =>
    exact (hapart (by simp [Entry.isBoundary, Entry.isFileBegin, Entry.isFileEnd, Entry.hands?])
      he).elim

/-- When a file has begun or a frame was handed over, the worker is bound to throw out the snapshots
that wait. -/
theorem Step.due_of_filmed (h : Step s m s' es) (he : e ∈ es)
    (hfilmed : e.isFileBegin = true ∨ e.hands?.isSome = true) :
    es = [e] ∧ ∃ en task due, s'.activity = .awake en task ∧ task.due? = some due ∧
      (handedItems [e]).length + due = 1 := by
  obtain ⟨hlone, hmarks⟩ := h.marks he (hfilmed.imp_left fun h => Bool.or_eq_true_iff.mpr (.inl h))
  refine ⟨hlone, ?_⟩
  cases hmarks with
  | begins h' => exact ⟨_, _, 1, h', rfl, rfl⟩
  | handsVideo h' | handsAudio h' => exact ⟨_, _, 0, h', rfl, rfl⟩
  | ends => rcases hfilmed with h | h <;> cases h

/-- The end of a file is told of by itself. -/
theorem Step.of_fileEnd (h : Step s m s' es) (he : e ∈ es) (hend : e.isFileEnd = true) :
    es = [e] ∧ ∃ en next, s.activity = .awake en (.publishing next) := by
  obtain ⟨hlone, hmarks⟩ := h.marks he (.inl (Bool.or_eq_true_iff.mpr (.inr hend)))
  cases hmarks with
  | ends h => exact ⟨hlone, _, _, h⟩
  | begins | handsVideo | handsAudio => cases hend

/-- A worker that is bound to throw out the snapshots that wait does so, or goes on without a file
beginning or ending, and hands over no more than the frames that are due. -/
theorem Step.due (h : Step s m s' es) {en : Bool} {task : Task} {due : Nat}
    (hact : s.activity = .awake en task) (hdue : task.due? = some due) :
    (due = 0 ∧ (∃ e ∈ es, e.isDrain = true) ∧ ∀ e ∈ es, e.isSnapshot = true) ∨
      (∃ task' due', s'.activity = .awake en task' ∧ task'.due? = some due' ∧
        (handedItems es).length + due' = due) ∧
      ∀ e ∈ es, e.isBoundary = false ∧ e.isSnapshot = false := by
  cases h with
  | idle => exact .inr ⟨⟨task, due, hact, hdue, Nat.zero_add _⟩, nofun⟩
  | start | stop | shutDown =>
    exact .inr ⟨⟨task, due, hact, hdue, Nat.zero_add _⟩,
      by simp [Entry.isBoundary, Entry.isFileBegin, Entry.isFileEnd, Entry.isSnapshot]⟩
  | @misnamed request =>
    refine .inr ⟨⟨task, due, hact, hdue, ?_⟩, forall_mem_optional _ fun _ => ⟨rfl, rfl⟩⟩
    cases request <;> exact Nat.zero_add _
  | accept | displace =>
    exact .inr ⟨⟨task, due, (activity_setLane ..).trans hact, hdue, Nat.zero_add _⟩,
      by simp [Entry.isBoundary, Entry.isFileBegin, Entry.isFileEnd, Entry.isSnapshot]⟩
  | wake h _ | wakeInterrupted h _ _ => cases hact.symm.trans h
  | collect h =>
    cases hact.symm.trans h
    cases hdue
    refine .inl ⟨rfl, ⟨_, List.mem_append_right _ (List.mem_singleton.mpr rfl), rfl⟩,
      s.isSnapshot_collectThumbnail⟩
  | begin h =>
    cases hact.symm.trans h
    cases hdue
    exact .inr ⟨⟨_, 0, rfl, rfl, rfl⟩, List.forall_mem_singleton.mpr ⟨rfl, rfl⟩⟩
  | @videoWritten _ _ _ error h | @videoStray _ _ error h | @audioWritten _ _ error h =>
    cases hact.symm.trans h
    cases hdue
    refine .inr ⟨⟨_, 0, rfl, rfl, ?_⟩, forall_mem_optional _ fun _ => ⟨rfl, rfl⟩⟩
    cases error <;> rfl
  | @askThumbnail _ _ _ error h =>
    cases hact.symm.trans h
    cases hdue
    refine .inr ⟨⟨_, 0, rfl, rfl, ?_⟩, List.forall_mem_append.mpr
      ⟨forall_mem_optional _ fun _ => ⟨rfl, rfl⟩, List.forall_mem_singleton.mpr ⟨rfl, rfl⟩⟩⟩
    cases error <;> rfl
  | asked h htask =>
    cases hact.symm.trans h
    rcases htask with rfl | rfl <;> cases hdue
    exact .inr ⟨⟨_, 0, rfl, rfl, rfl⟩, nofun⟩
  | take h _ _ | takeInterrupted h _ _ | sleep h _ | closeLast h _ _ | turnIdle h _ _
  | split h _ _ | writeVideo h _ _ | tryOpen h _ | writeAudio h _ | loseAudio h _
  | loseDisabled h _ | askName h _ _ | askKeyFrame h _ _ _ | loseNonKey h _ _ _
  | appendTrailer h _ | finishBare h _ | retire h | name h | nameless h | create h _ | fail h
  | finish h | publish h | tellEnd h | resume h =>
    cases hact.symm.trans h
    cases hdue

/-- As long as the snapshots that wait were not thrown out, the worker is bound to do so. -/
theorem due_run {en : Bool} {task : Task} {due : Nat} (hact : s.activity = .awake en task)
    (hdue : task.due? = some due) (ms : List Move) (hes : ∀ e ∈ (s.run ms).2, e.isDrain = false) :
    ∃ task' due', (s.run ms).1.activity = .awake en task' ∧ task'.due? = some due' ∧
      (handedItems (s.run ms).2).length + due' = due := by
  induction ms generalizing s task due with
  | nil => exact ⟨task, due, hact, hdue, Nat.zero_add _⟩
  | cons m ms ih =>
    rcases (s.step_move m).due hact hdue with ⟨-, ⟨e, he, hdrain⟩, -⟩
      | ⟨⟨task₁, due₁, hact₁, hdue₁, hcount₁⟩, -⟩
    · cases (hes e (List.mem_append_left _ he)).symm.trans hdrain
    · obtain ⟨task', due', hact', hdue', hcount⟩ :=
        ih hact₁ hdue₁ fun e he => hes e (List.mem_append_right _ he)
      refine ⟨task', due', hact', hdue', ?_⟩
      rw [run_cons, handedItems_append, List.length_append]
      omega

/-- **Snapshots are looked at after each frame.** From the beginning of a file or a frame on, until
the snapshots that wait are thrown out, no file begins or ends, and a snapshot is only taken when
the frame was handed over, and before the next is. -/
theorem due_after {ms : List Move} {e' : Entry} (pre mid : List Entry) {post : List Entry}
    (h : (s.run ms).2 = pre ++ e :: (mid ++ e' :: post))
    (hfilmed : e.isFileBegin = true ∨ e.hands?.isSome = true)
    (hmid : ∀ d ∈ mid, d.isDrain = false) :
    e'.isBoundary = false ∧
      (e'.isSnapshot = true → (handedItems [e]).length + (handedItems mid).length = 1) := by
  obtain ⟨ms₁, m, ms₂, es₁, es₂, rfl, hmade, -, hrest⟩ := exists_move_of_entry h
  obtain ⟨hlone, en, task, due, hact, hdue, hone⟩ :=
    ((s.run ms₁).1.step_move m).due_of_filmed (by rw [hmade]; simp) hfilmed
  obtain rfl : es₂ = [] := by
    have hlength := congrArg List.length (hmade.symm.trans hlone)
    simp only [List.length_append, List.length_cons, List.length_nil] at hlength
    exact List.length_eq_zero_iff.mp (by omega)
  rw [List.nil_append] at hrest
  -- the same for the entry that comes after
  obtain ⟨ms₃, m', ms₄, es₃, es₄, rfl, hmade', rfl, -⟩ := exists_move_of_entry hrest.symm
  obtain ⟨task', due', hact', hdue', hcount⟩ := due_run hact hdue ms₃ fun d hd =>
    hmid d (List.mem_append_left _ hd)
  generalize (((s.run ms₁).1.move m).1.run ms₃) = r at *
  have hmem : e' ∈ (r.1.move m').2 := by
    rw [hmade']
    simp
  rcases (r.1.step_move m').due hact' hdue' with ⟨rfl, -, hsnapshots⟩ | ⟨-, hnone⟩
  · have hearlier : handedItems es₃ = [] := (items_of_isSnapshot fun d hd =>
      hsnapshots d (by rw [hmade']; exact List.mem_append_left _ hd)).1
    refine ⟨isBoundary_of_isSnapshot (hsnapshots _ hmem), fun _ => ?_⟩
    rw [handedItems_append, hearlier, List.append_nil]
    omega
  · refine ⟨(hnone _ hmem).1, fun hsnapshot => ?_⟩
    cases (hnone _ hmem).2.symm.trans hsnapshot

/-- What comes last before a file begins or ends is no frame, unless the snapshots that wait were
thrown out. -/
theorem unfilmed_before (hundrained : ∀ d ∈ es, d.isDrain = false) {ms : List Move}
    (pre : List Entry) {post : List Entry} (h : (s.run ms).2 = pre ++ (es ++ e :: post))
    (hboundary : e.isBoundary = true) : ∀ d ∈ es, d.isFileBegin = false ∧ d.hands? = none := by
  intro d hd
  by_contra hfilmed
  have hfilmed : d.isFileBegin = true ∨ d.hands?.isSome = true := by
    cases hbegin : d.isFileBegin with
    | true => exact .inl rfl
    | false => exact .inr (Option.isSome_iff_ne_none.mpr fun hnone => hfilmed ⟨hbegin, hnone⟩)
  obtain ⟨es₁, es₂, rfl⟩ := List.append_of_mem hd
  obtain ⟨hnone, -⟩ := due_after (pre ++ es₁) es₂ (by simpa using h) hfilmed
    fun d hd => hundrained d (List.mem_append_right _ (.tail _ hd))
  cases hnone.symm.trans hboundary

/-! ## The snapshot that a file keeps -/

/-- The snapshot that the open file keeps was taken, and no file began or ended since. -/
def KeptSince (s : Stream) (journal : List Entry) : Prop :=
  ∀ t, s.keeping? = some (some t) → ∃ pre post, journal = pre ++ .taken .thumbnail t :: post ∧
    ∀ e ∈ post, e.isBoundary = false

/-- A snapshot that is kept after a look was kept before, or is taken by it. -/
theorem KeptSince.look {journal taken : List Entry} {kept : Option Ticket}
    (hs : s.KeptSince journal) (hkeeping : s.keeping? = some kept)
    (htaken : snapshotsTaken taken = if kept.isSome then [] else s.nextSnapshot?.toList)
    (hquiet : ∀ e ∈ taken, e.isBoundary = false) (ht : kept.or s.nextSnapshot? = some t) :
    ∃ pre post, journal ++ taken = pre ++ .taken .thumbnail t :: post ∧
      ∀ e ∈ post, e.isBoundary = false := by
  cases kept with
  | some t' =>
    cases ht
    obtain ⟨pre, post, rfl, hpost⟩ := hs _ hkeeping
    exact ⟨pre, post ++ taken, by simp, List.forall_mem_append.mpr ⟨hpost, hquiet⟩⟩
  | none =>
    rw [Option.none_or] at ht
    rw [ht] at htaken
    obtain ⟨pre, post, rfl⟩ := List.append_of_mem
      (mem_of_snapshotsTaken (htaken ▸ List.mem_singleton.mpr rfl : t ∈ snapshotsTaken taken))
    exact ⟨journal ++ pre, post, by simp, fun e he =>
      hquiet e (List.mem_append_right _ (.tail _ he))⟩

/-- While the same file is open, nothing is told of a beginning or an end. -/
theorem not_isBoundary (hs : s.Shaped) {kept : Option Ticket} (hkeeping : s.keeping? = some kept)
    (hkeeping' : (s.move m).1.keeping? = some (some t)) :
    ∀ e ∈ (s.move m).2, e.isBoundary = false := by
  intro e he
  by_contra hboundary
  rcases Bool.or_eq_true_iff.mp (Bool.eq_true_of_not_eq_false hboundary) with hbegin | hend
  · -- a file that begins keeps nothing yet
    obtain ⟨path, rfl⟩ := Entry.eq_of_isFileBegin hbegin
    cases (keeping?_of_fileBegin hs he).symm.trans hkeeping'
  · obtain ⟨-, en, next, hact⟩ := (s.step_move m).of_fileEnd he hend
    cases (keeping?_final (isFinal_awake hact)).symm.trans hkeeping

theorem KeptSince.move (hs : s.Shaped) (hlanes : s.LanesSound) {journal : List Entry}
    (hkept : s.KeptSince journal) (m : Move) :
    (s.move m).1.KeptSince (journal ++ (s.move m).2) := by
  intro t ht
  cases latches_move hs hlanes m with
  | apart _ _ hkeeping =>
    have hbefore := hkeeping.symm.trans ht
    obtain ⟨pre, post, rfl, hpost⟩ := hkept t hbefore
    exact ⟨pre, post ++ (s.move m).2, by simp,
      List.forall_mem_append.mpr ⟨hpost, not_isBoundary hs hbefore ht⟩⟩
  | creates _ _ hkeeping' => cases hkeeping'.symm.trans ht
  | collects _ _ hkeeping htaken hkeeping' =>
    exact hkept.look hkeeping htaken (not_isBoundary hs hkeeping ht)
      (Option.some.inj (hkeeping'.symm.trans ht))
  | closes _ _ _ _ _ hends =>
    rcases hends with ⟨snapshot, data, -, -, hact'⟩ | ⟨-, -, hact'⟩ <;>
      cases (keeping?_final (isFinal_awake hact')).symm.trans ht
  | trailed _ _ _ hact' => cases (keeping?_final (isFinal_awake hact')).symm.trans ht

theorem keptSince_run (hs : s.Shaped) (hlanes : s.LanesSound) {journal : List Entry}
    (hkept : s.KeptSince journal) (ms : List Move) :
    (s.run ms).1.KeptSince (journal ++ (s.run ms).2) :=
  (moves_induction (P := fun journal s => s.Shaped ∧ s.LanesSound ∧ s.KeptSince journal)
    (fun {_ s} m ⟨hs, hlanes, hkept⟩ => ⟨(s.step_move m).shaped hs,
      ((s.step_move m).buffers hlanes).1, hkept.move hs hlanes m⟩) ⟨hs, hlanes, hkept⟩ ms).2.2

/-- **What is embedded was taken for this file.** Between the two no file began or ended. -/
theorem Fresh.taken_before_trailer (hs : s.Fresh) {ms : List Move} {data : Bytes}
    (pre : List Entry) {post : List Entry} (h : (s.run ms).2 = pre ++ .trailer t data :: post) :
    ∃ pre₁ pre₂, pre = pre₁ ++ .taken .thumbnail t :: pre₂ ∧
      ∀ e ∈ pre₂, e.isBoundary = false := by
  obtain ⟨ms₁, m, ms₂, es₁, es₂, rfl, hmade, rfl, -⟩ := exists_move_of_entry h
  have hnone : s.KeptSince [] := by
    intro t ht
    rw [keeping?_open (isFinal_resting (by rw [hs.asleep]; rfl)), hs.bare] at ht
    cases ht
  have hkept := keptSince_run hs.shaped hs.lanes hnone ms₁
  have hmem : .trailer t data ∈ ((s.run ms₁).1.move m).2 := by
    rw [hmade]
    simp
  cases latches_move (shaped_run hs.shaped ms₁) (buffers_run hs.lanes ms₁).1 m with
  | apart hes | collects hes => cases hes _ hmem
  | creates hes =>
    rw [hes] at hmem
    simp at hmem
  | @trailed _ _ _ _ error _ _ hes =>
    rw [hes] at hmem
    cases error <;> simp at hmem
  | @closes _ latched en next _ hkeeping _ hlatched htaken hends =>
    have hunlatched : .trailer t data ∉ latched := fun hin => by
      cases isClosing_of_isSnapshot (hlatched _ hin)
    rcases hends with ⟨snapshot, data', htrailer, hes, -⟩ | ⟨-, hes, -⟩
    · -- the trailer is the last entry of its move
      obtain ⟨rfl, hlast, rfl⟩ := eq_last_of_not_mem (hmade.symm.trans hes) hunlatched
      obtain ⟨kept', hkept', hdata⟩ := Option.bind_eq_some_iff.mp htrailer
      obtain ⟨box, -, hpair⟩ := Option.map_eq_some_iff.mp hdata
      cases hlast
      cases hpair
      exact hkept.look hkeeping htaken
        (fun e he => isBoundary_of_isSnapshot (hlatched e he)) hkept'
    · rw [hes] at hmem
      simp [hunlatched] at hmem

/-! ## Files that are served already -/

/-- A file that keeps no snapshot when it is finished found none, or takes the first that waits. -/
theorem served_run (hs : s.Shaped) (hlanes : s.LanesSound) (hkeeping : s.keeping? = some none)
    {ms : List Move} (hes : ∀ e ∈ (s.run ms).2, e.isFileBegin = false)
    (hfinal : (s.run ms).1.keeping? = none) :
    snapshotsTaken (s.run ms).2 ≠ [] ∨ ∃ ms₁ m ms₂, ms = ms₁ ++ m :: ms₂ ∧
      (s.run ms₁).1.nextSnapshot? = none ∧ (∃ e ∈ ((s.run ms₁).1.move m).2, e.isClosing = true) ∧
      ∀ e ∈ ((s.run ms₁).1.move m).2, e.isSnapshot = true ∨ e.isClosing = true := by
  induction ms generalizing s with
  | nil => cases hkeeping.symm.trans hfinal
  | cons m ms ih =>
    have hstep := s.step_move m
    rw [run_cons, snapshotsTaken_append]
    have hlater (hkeeping' : (s.move m).1.keeping? = some none) :
        snapshotsTaken (s.move m).2 ++ snapshotsTaken ((s.move m).1.run ms).2 ≠ [] ∨
          ∃ ms₁ m' ms₂, m :: ms = ms₁ ++ m' :: ms₂ ∧ (s.run ms₁).1.nextSnapshot? = none ∧
            (∃ e ∈ ((s.run ms₁).1.move m').2, e.isClosing = true) ∧
            ∀ e ∈ ((s.run ms₁).1.move m').2, e.isSnapshot = true ∨ e.isClosing = true := by
      rcases ih (hstep.shaped hs) (hstep.buffers hlanes).1 hkeeping'
        (fun e he => hes e (List.mem_append_right _ he)) hfinal with htaken | ⟨ms₁, m', ms₂, rfl, h⟩
      · exact .inl (List.append_ne_nil_of_right_ne_nil _ htaken)
      · exact .inr ⟨m :: ms₁, m', ms₂, rfl, h⟩
    cases latches_move hs hlanes m with
    | apart _ _ hsame => exact hlater (hsame.trans hkeeping)
    | creates hbegins =>
      rw [run_cons, hbegins] at hes
      cases hes _ (List.mem_append_left _ (List.mem_singleton.mpr rfl))
    | collects _ _ hkept htaken hkeeping' =>
      cases hkeeping.symm.trans hkept
      cases hnext : s.nextSnapshot? with
      | none => exact hlater (by rw [hkeeping', hnext]; rfl)
      | some first =>
        rw [htaken, hnext]
        exact .inl (by simp)
    | @closes _ latched en next _ hkept _ hlatched htaken hends =>
      cases hkeeping.symm.trans hkept
      obtain ⟨last, hlast, hmade⟩ :
          ∃ last : Entry, last.isClosing = true ∧ (s.move m).2 = latched ++ [last] := by
        rcases hends with ⟨snapshot, data, -, hmade, -⟩ | ⟨-, hmade, -⟩
        · exact ⟨_, rfl, hmade⟩
        · exact ⟨_, rfl, hmade⟩
      cases hnext : s.nextSnapshot? with
      | none =>
        refine .inr ⟨[], m, ms, rfl, hnext, ⟨last, by simp [hmade], hlast⟩, fun e he => ?_⟩
        rw [run_nil, hmade] at he
        rcases List.mem_append.mp he with he | he
        · exact .inl (hlatched e he)
        · rw [List.mem_singleton.mp he]
          exact .inr hlast
      | some first =>
        rw [hmade, snapshotsTaken_append, htaken, hnext]
        exact .inl (by simp)
    | trailed _ hact => cases (keeping?_final (isFinal_awake hact)).symm.trans hkeeping

/-- What came in and is taken later waits until then. -/
theorem Fresh.mem_queue_of_taken_later (hs : s.Fresh) {ms : List Move} (ns : List Move)
    {kind : LaneKind}
    (hin : .accepted kind t ∈ (s.run ms).2) (hout : .taken kind t ∈ ((s.run ms).1.run ns).2) :
    t ∈ (s.run ms).1.queue kind := by
  have hcount := hs.conserves ms ⟨kind, t⟩
  have hwhole := hs.conserves (ms ++ ns) ⟨kind, t⟩
  have hone := List.nodup_iff_count_le_one.mp (hs.nodup_entrants (ms ++ ns)) ⟨kind, t⟩
  have hentered : 0 < (entrants (s.run ms).2).count ⟨kind, t⟩ :=
    List.count_pos_iff.mpr (mem_entrants.mpr hin)
  have hleft : 0 < (leavers .taken ((s.run ms).1.run ns).2).count ⟨kind, t⟩ :=
    List.count_pos_iff.mpr (mem_leavers_taken.mpr hout)
  rw [run_append] at hwhole hone
  simp only [leavers_append, entrants_append, List.count_append] at hwhole hone
  have hwaits : 0 < ((s.run ms).1.queue kind).count t := by
    simp only at hcount hwhole
    omega
  exact List.count_pos_iff.mp hwaits

/-! ## What is left over -/

/-- How a snapshot comes to be embedded in another file than the one that was open when it was
accepted. `filmed` is what happened in that file until then, and `ending` what happened until its
end; `waiting` is what came before the next file, and `filming` what happened in it until the
snapshot was taken; `kept` is what came before the trailer. -/
structure LeftOver (filmed ending waiting filming kept : List Entry) : Prop where
  /-- Nothing was handed over between the acceptance and the next file. -/
  unhanded : handedItems (ending ++ waiting) = []
  /-- The next file keeps it when its first frame was handed over. -/
  first : (handedItems filming).length = 1
  undrained : ∀ e ∈ ending ++ waiting ++ filming, e.isDrain = false
  /-- No file comes between the two. -/
  adjacent : ∀ e ∈ ending ++ waiting ++ filming ++ kept, e.isBoundary = false
  /-- Its own file took another snapshot, or was being finished when it was accepted. -/
  served : snapshotsTaken (filmed ++ ending) ≠ [] ∨ ∃ e ∈ filmed, e.isClosing = true

/-- The journal leads on from every entry. -/
theorem follow?_after (hs : s.Shaped) {ms : List Move} {pre post : List Entry}
    (h : (s.run ms).2 = pre ++ e :: post) :
    ∃ stage stage' last : FileStage, stage.next? e = some stage' ∧
      stage'.follow? post = some last := by
  have hfollows := follows_run hs ms
  rw [Follows, h, FileStage.follow?_append] at hfollows
  obtain ⟨stage, -, hfollows⟩ := Option.bind_eq_some_iff.mp hfollows
  obtain ⟨stage', hnext, hfollows⟩ := Option.bind_eq_some_iff.mp hfollows
  exact ⟨stage, stage', _, hnext, hfollows⟩

/-- A file that has begun ends before another begins. -/
theorem not_isFileBegin (hs : s.Shaped) {ms : List Move} {path : Path} {pre mid post : List Entry}
    (h : (s.run ms).2 = pre ++ .event (.fileBegin path) :: (mid ++ post))
    (hmid : ∀ e ∈ mid, e.isFileEnd = false) : ∀ e ∈ mid, e.isFileBegin = false := by
  obtain ⟨stage, stage', last, hnext, hfollows⟩ := follow?_after hs h
  have hbegun : stage' = .begun := by
    cases stage <;> cases hnext
    rfl
  subst hbegun
  rw [FileStage.follow?_append] at hfollows
  obtain ⟨stage', hfollows, -⟩ := Option.bind_eq_some_iff.mp hfollows
  have hcount := FileStage.countP_isFileEnd hfollows
  have hends : mid.countP Entry.isFileEnd = 0 :=
    List.countP_eq_zero.mpr fun e he => by simp [hmid e he]
  have hbegins : mid.countP Entry.isFileBegin = 0 := by
    cases stage' <;> simp only [FileStage.unended] at hcount <;> omega
  exact fun e he => Bool.eq_false_iff.mpr (List.countP_eq_zero.mp hbegins e he)

/-- From the end of a file to the trailer of a later one a file begins, and until then none ends. -/
theorem exists_next_file (hs : s.Shaped) {ms : List Move} {path : Path} {duration : Nat}
    {data : Bytes} (pre mid : List Entry) {post : List Entry}
    (h : (s.run ms).2
      = pre ++ .event (.fileEnd path duration) :: (mid ++ .trailer t data :: post)) :
    ∃ waiting path' rest, mid = waiting ++ .event (.fileBegin path') :: rest ∧
      ∀ e ∈ waiting, e.isBoundary = false := by
  obtain ⟨stage, stage', last, hnext, hfollows⟩ := follow?_after hs h
  -- the end of a file closes it, and a trailer is only appended to an open one
  have hclosed : stage' = .closed := by
    cases stage <;> cases hnext
    rfl
  subst hclosed
  rw [FileStage.follow?_append] at hfollows
  obtain ⟨stage', hmid, hfollows⟩ := Option.bind_eq_some_iff.mp hfollows
  obtain ⟨_, htrailer, -⟩ := Option.bind_eq_some_iff.mp hfollows
  have hbegun : stage' = .begun := by
    cases stage' <;> cases htrailer
    rfl
  subst hbegun
  have hends := FileStage.countP_isFileEnd hmid
  have hsome : (mid.find? Entry.isFileBegin).isSome = true := by
    rw [List.find?_isSome, ← List.countP_pos_iff]
    simp only [FileStage.unended] at hends
    omega
  obtain ⟨begun, hfind⟩ := Option.isSome_iff_exists.mp hsome
  obtain ⟨hbegun, waiting, rest, rfl, hwaiting⟩ := List.find?_eq_some_iff_append.mp hfind
  obtain ⟨path', rfl⟩ := Entry.eq_of_isFileBegin hbegun
  refine ⟨waiting, path', rest, rfl, fun e he => ?_⟩
  -- until it begins, no file is open that could end
  rw [FileStage.follow?_append] at hmid
  obtain ⟨stage', hwaits, -⟩ := Option.bind_eq_some_iff.mp hmid
  have hcount := FileStage.countP_isFileEnd hwaits
  have hbegins : waiting.countP Entry.isFileBegin = 0 :=
    List.countP_eq_zero.mpr fun e he => by simpa using hwaiting e he
  have hends : waiting.countP Entry.isFileEnd = 0 := by
    simp only [FileStage.unended] at hcount
    omega
  exact Bool.or_eq_false_iff.mpr ⟨by simpa using hwaiting e he,
    Bool.eq_false_iff.mpr (List.countP_eq_zero.mp hends e he)⟩

/-- A frame that is taken came in before. -/
theorem Fresh.not_taken_before (hs : s.Fresh) {ms : List Move} {kind : LaneKind}
    (pre : List Entry) {post : List Entry} (h : (s.run ms).2 = pre ++ .accepted kind t :: post) :
    .taken kind t ∉ pre := by
  intro htaken
  have hsteps := (buffers_run hs.lanes ms).2
  have hnodup := hs.nodup_entrants ms
  rw [h] at hsteps hnodup
  obtain ⟨b, hpre, -⟩ := hsteps.split
  rcases hpre.mem_of_taken htaken with hwaits | hin
  · rw [show s.buffers.queue kind = [] from hs.queue kind] at hwaits
    cases hwaits
  · rw [entrants_append] at hnodup
    exact (List.nodup_append.mp hnodup).2.2 ⟨kind, t⟩ (mem_entrants.mpr hin) ⟨kind, t⟩
      (mem_entrants.mpr (.head _)) rfl

/-- A file that does not take a snapshot that is taken later has taken another, or was being
finished when it came in. -/
theorem Fresh.served (hs : s.Fresh) {ms : List Move} {path path' : Path} {duration : Nat}
    {before filmed ending rest : List Entry}
    (h : (s.run ms).2 = before ++ .event (.fileBegin path) ::
      (filmed ++ .accepted .thumbnail t :: (ending ++ .event (.fileEnd path' duration) :: rest)))
    (hlater : .taken .thumbnail t ∈ rest)
    (hes : ∀ e ∈ filmed ++ .accepted .thumbnail t :: ending, e.isFileBegin = false) :
    snapshotsTaken (filmed ++ ending) ≠ [] ∨ ∃ e ∈ filmed, e.isClosing = true := by
  obtain ⟨ms₁, m, ms₂, rfl, rfl, hbegun, hrest⟩ := exists_lone_move
    (fun s m he => ((s.step_move m).due_of_filmed he (.inl rfl)).1) h
  have hmem : .event (.fileBegin path) ∈ ((s.run ms₁).1.move m).2 := by
    rw [hbegun]
    exact List.mem_singleton.mpr rfl
  have hshaped := shaped_run hs.shaped ms₁
  have hstep := (s.run ms₁).1.step_move m
  have hrest : (((s.run ms₁).1.move m).1.run ms₂).2
      = (filmed ++ .accepted .thumbnail t :: ending)
        ++ .event (.fileEnd path' duration) :: rest := by
    rw [← hrest]
    simp
  obtain ⟨ms₃, m', ms₄, rfl, hfile, hended, rfl⟩ := exists_lone_move
    (fun s m he => ((s.step_move m).of_fileEnd he rfl).1) hrest
  obtain ⟨-, en, next, hact⟩ := ((((s.run ms₁).1.move m).1.run ms₃).1.step_move m').of_fileEnd
    (e := .event (.fileEnd path' duration)) (by rw [hended]; exact List.mem_singleton.mpr rfl) rfl
  rcases served_run (hstep.shaped hshaped) (hstep.buffers (buffers_run hs.lanes ms₁).1).1
    (keeping?_of_fileBegin hshaped hmem) (hfile ▸ hes) (keeping?_final (isFinal_awake hact))
    with htaken | ⟨ms₅, m₁, ms₆, rfl, hnext, ⟨e, he, hclosing⟩, hall⟩
  · rw [← hfile, snapshotsTaken_append] at htaken
    rw [snapshotsTaken_append]
    exact .inl htaken
  · -- nothing waits when the file is closed, so the snapshot comes in later
    have hqueue : .accepted .thumbnail t ∉ (((s.run ms₁).1.move m).1.run ms₅).2 := by
      intro hin
      have hwaits : t ∈ (s.run (ms₁ ++ m :: ms₅)).1.queue .thumbnail := by
        refine hs.mem_queue_of_taken_later (m₁ :: (ms₆ ++ m' :: ms₄)) ?_ ?_
        · rw [run_append, run_cons]
          simp [hin]
        · rw [run_append, run_cons, run_cons, run_append, run_cons]
          rw [run_append, run_cons] at hlater
          simp [hlater]
      rw [run_append, run_cons] at hwaits
      rw [List.head?_eq_none_iff.mp hnext] at hwaits
      cases hwaits
    have hmade : .accepted .thumbnail t ∉ ((((s.run ms₁).1.move m).1.run ms₅).1.move m₁).2 :=
      fun hin => by rcases hall _ hin with h | h <;> cases h
    rw [run_append, run_cons, ← List.append_assoc] at hfile
    obtain ⟨mid, rfl, -⟩ := exists_of_not_mem hfile.symm fun hin =>
      (List.mem_append.mp hin).elim hqueue hmade
    exact .inr ⟨e, List.mem_append_left _ (List.mem_append_right _ he), hclosing⟩

/-- What is known of a snapshot that is accepted in one file and taken in the next, if the
snapshots that wait are not thrown out in between. -/
theorem Fresh.leftOver (hs : s.Fresh) {ms : List Move} {path path' next : Path} {duration : Nat}
    {before filmed ending waiting filming kept rest : List Entry}
    (h : (s.run ms).2 = before ++ .event (.fileBegin path) ::
      (filmed ++ .accepted .thumbnail t :: (ending ++ .event (.fileEnd path' duration) ::
        (waiting ++ .event (.fileBegin next) :: (filming ++ .taken .thumbnail t :: rest)))))
    (hopen : ∀ e ∈ filmed, e.isFileEnd = false) (hending : ∀ e ∈ ending, e.isFileEnd = false)
    (hwaiting : ∀ e ∈ waiting, e.isBoundary = false) (hkept : ∀ e ∈ kept, e.isBoundary = false)
    (hundrained : ∀ e ∈ ending ++ waiting ++ filming, e.isDrain = false) :
    LeftOver filmed ending waiting filming kept := by
  have hall := List.forall_mem_append.mp hundrained
  obtain ⟨hending', hwaiting'⟩ := List.forall_mem_append.mp hall.1
  have hended : ∀ e ∈ ending, e.isFileBegin = false ∧ e.hands? = none :=
    unfilmed_before hending'
      (before ++ .event (.fileBegin path) :: (filmed ++ [.accepted .thumbnail t]))
      (e := .event (.fileEnd path' duration)) (by rw [h]; simp; rfl) rfl
  have hbegun : ∀ e ∈ waiting, e.isFileBegin = false ∧ e.hands? = none :=
    unfilmed_before hwaiting' (before ++ .event (.fileBegin path) ::
        (filmed ++ .accepted .thumbnail t :: (ending ++ [.event (.fileEnd path' duration)])))
      (e := .event (.fileBegin next)) (by rw [h]; simp; rfl) rfl
  obtain ⟨earlier, hjournal⟩ : ∃ earlier, (s.run ms).2 = earlier ++ .event (.fileBegin next) ::
      (filming ++ .taken .thumbnail t :: rest) :=
    ⟨before ++ .event (.fileBegin path) :: (filmed ++ .accepted .thumbnail t ::
      (ending ++ .event (.fileEnd path' duration) :: waiting)), by rw [h]; simp⟩
  have hstart : (Entry.event (.fileBegin next)).isFileBegin = true := rfl
  have hbegins : ∀ e ∈ filmed, e.isFileBegin = false := not_isFileBegin hs.shaped h hopen
  refine ⟨?_, ?_, hundrained, ?_, ?_⟩
  · exact List.filterMap_eq_nil_iff.mpr
      (List.forall_mem_append.mpr ⟨fun e he => (hended e he).2, fun e he => (hbegun e he).2⟩)
  · have hone := (due_after earlier filming hjournal (.inl hstart) hall.2).2 rfl
    rwa [show handedItems [.event (.fileBegin next)] = [] from rfl, List.length_nil,
      Nat.zero_add] at hone
  · have hfilming : ∀ e ∈ filming, e.isBoundary = false := by
      intro e he
      obtain ⟨filming₁, filming₂, rfl⟩ := List.append_of_mem he
      rw [List.append_assoc, List.cons_append] at hjournal
      exact (due_after earlier filming₁ hjournal (.inl hstart) fun d hd =>
        hall.2 d (List.mem_append_left _ hd)).1
    refine List.forall_mem_append.mpr ⟨List.forall_mem_append.mpr
      ⟨List.forall_mem_append.mpr ⟨fun e he => ?_, hwaiting⟩, hfilming⟩, hkept⟩
    exact Bool.or_eq_false_iff.mpr ⟨(hended e he).1, hending e he⟩
  · refine hs.served h (by simp) fun e he => ?_
    rcases List.mem_append.mp he with he | he
    · exact hbegins e he
    · rcases List.mem_cons.mp he with rfl | he
      · rfl
      · exact (hended e he).1

/-- **A snapshot is left over for one file at most.** If a snapshot that was accepted while a file
was open is embedded in a later one, then that is the very next file, which keeps it when its first
frame was handed over; the file that was open was served already or being finished, and ended before
another frame was handed over. -/
theorem left_over (handle : StreamHandle) (config : StreamConfig) (ms : List Move) {path : Path}
    {snapshot : Ticket} {data : Bytes} {before filmed mid after : List Entry}
    (h : ((create handle config).run ms).2 = before ++ .event (.fileBegin path) ::
      (filmed ++ .accepted .thumbnail snapshot :: (mid ++ .trailer snapshot data :: after)))
    (hopen : ∀ e ∈ filmed, e.isFileEnd = false) (hlater : ∃ e ∈ mid, e.isFileEnd = true) :
    ∃ ending path' duration waiting next filming kept,
      mid = ending ++ .event (.fileEnd path' duration) :: (waiting ++ .event (.fileBegin next) ::
        (filming ++ .taken .thumbnail snapshot :: kept)) ∧
      LeftOver filmed ending waiting filming kept := by
  have hs := fresh_create handle config
  generalize create handle config = s at *
  -- the snapshot is taken after it was accepted, and no file begins or ends from then on
  obtain ⟨pre, kept, hpre, hkept⟩ := hs.taken_before_trailer (before ++
    .event (.fileBegin path) :: (filmed ++ .accepted .thumbnail snapshot :: mid)) (by simpa using h)
  have hearly := hs.not_taken_before (before ++ .event (.fileBegin path) :: filmed)
    (by simpa using h)
  have hpre : (before ++ .event (.fileBegin path) :: (filmed ++ [.accepted .thumbnail snapshot]))
      ++ mid = pre ++ .taken .thumbnail snapshot :: kept := by
    rw [← hpre]
    simp
  obtain ⟨late, rfl, rfl⟩ := exists_of_not_mem hpre (by simpa using hearly)
  -- nothing is thrown out in between
  have hundrained : ∀ e ∈ late, e.isDrain = false := by
    intro e he
    by_contra hdrain
    obtain ⟨tickets, rfl⟩ := Entry.eq_of_isDrain (Bool.eq_true_of_not_eq_false hdrain)
    obtain ⟨late₁, late₂, rfl⟩ := List.append_of_mem he
    have hsteps := (buffers_run hs.lanes ms).2
    rw [h] at hsteps
    refine Buffers.Steps.not_taken_of_discarded (t := snapshot) (before ++
      .event (.fileBegin path) :: (filmed ++ .accepted .thumbnail snapshot :: late₁))
      (by simpa using hsteps) (by simp) (by simp)
  -- the first end is that of the file that was open
  have hends : (late.find? Entry.isFileEnd).isSome = true := by
    obtain ⟨e, he, hend⟩ := hlater
    rw [List.find?_isSome]
    rcases List.mem_append.mp he with he | he
    · exact ⟨e, he, hend⟩
    · rcases List.mem_cons.mp he with rfl | he
      · cases hend
      · cases (Bool.or_eq_false_iff.mp (hkept e he)).2.symm.trans hend
  obtain ⟨ended, hfind⟩ := Option.isSome_iff_exists.mp hends
  obtain ⟨hended, ending, rest, rfl, hending⟩ := List.find?_eq_some_iff_append.mp hfind
  obtain ⟨path', duration, rfl⟩ := Entry.eq_of_isFileEnd hended
  obtain ⟨waiting, next, rest', hrest, hwaiting⟩ := exists_next_file hs.shaped
    (before ++ .event (.fileBegin path) :: (filmed ++ .accepted .thumbnail snapshot :: ending))
    (rest ++ .taken .thumbnail snapshot :: kept) (by simpa using h)
  obtain ⟨filming, rfl, -⟩ := exists_of_not_mem_right hrest fun hin => by
    rcases List.mem_cons.mp hin with hin | hin
    · cases hin
    · cases hkept _ hin
  refine ⟨ending, path', duration, waiting, next, filming, kept, by simp, ?_⟩
  have hjournal : (s.run ms).2 = before ++ .event (.fileBegin path) ::
      (filmed ++ .accepted .thumbnail snapshot :: (ending ++ .event (.fileEnd path' duration) ::
        (waiting ++ .event (.fileBegin next) :: (filming ++ .taken .thumbnail snapshot ::
          (kept ++ .trailer snapshot data :: after))))) := by
    rw [h]
    simp
  refine hs.leftOver hjournal hopen (fun e he => by simpa using hending e he) hwaiting hkept ?_
  intro e he
  apply hundrained
  simp only [List.mem_append, List.mem_cons] at he ⊢
  tauto

/-- Two snapshots come while a file is open, and then a key frame that splits it. The next file is
closed by a stop after its first frame. -/
def twoSnapshots : List Move :=
  recordedOnce ++ [.submit .thumbnail ⟨[8], 100, false⟩, .submit .thumbnail ⟨[7], 200, false⟩,
    .submit .video ⟨[2], 1000000, true⟩, .wake, .advance, .advance, .advance, .reply none,
    .reply none, .reply none, .reply none, .advance, .named none (.ok ⟨[2]⟩), .reply none,
    .reply none, .reply none, .reply none, .advance, .stop, .advance, .wake, .advance, .advance]

/-- The second snapshot is left over for the file after that. -/
theorem left_over_after_split :
    let es := ((create ⟨0, 0, 0⟩ secondLong).run twoSnapshots).2
    embedded es = [⟨0, [8], 100, false⟩, ⟨1, [7], 200, false⟩] ∧
      ∃ ending path' duration waiting next filming kept,
        (es.drop 13).take 18 = ending ++ .event (.fileEnd path' duration) ::
          (waiting ++ .event (.fileBegin next) ::
            (filming ++ .taken .thumbnail ⟨1, [7], 200, false⟩ :: kept)) ∧
        LeftOver ((es.drop 7).take 5) ending waiting filming kept := by
  intro es
  have hes : es = es.take 6 ++ .event (.fileBegin ⟨[1]⟩) :: ((es.drop 7).take 5 ++
      .accepted .thumbnail ⟨1, [7], 200, false⟩ :: ((es.drop 13).take 18 ++
        .trailer ⟨1, [7], 200, false⟩ (((trailers es).getLast?.map (·.2)).getD []) :: [])) := by
    decide
  exact ⟨by decide, left_over ⟨0, 0, 0⟩ secondLong twoSnapshots hes (by decide) (by decide)⟩

/-- So a file can be given a snapshot that was accepted while the file before it was open. -/
theorem stale_snapshot_embedded :
    ¬ ∀ (handle : StreamHandle) (config : StreamConfig) (ms : List Move) (path : Path)
        (snapshot : Ticket) (data : Bytes) (before filmed mid after : List Entry),
      ((create handle config).run ms).2 = before ++ .event (.fileBegin path) ::
        (filmed ++ .accepted .thumbnail snapshot :: (mid ++ .trailer snapshot data :: after)) →
      (∀ e ∈ filmed, e.isFileEnd = false) → ∀ e ∈ mid, e.isFileEnd = false := by
  intro hfresh
  let es := ((create ⟨0, 0, 0⟩ secondLong).run twoSnapshots).2
  have hnone := hfresh ⟨0, 0, 0⟩ secondLong twoSnapshots ⟨[1]⟩ ⟨1, [7], 200, false⟩
    (((trailers es).getLast?.map (·.2)).getD []) (es.take 6) ((es.drop 7).take 5)
    ((es.drop 13).take 18) [] (by decide) (by decide)
  revert hnone
  decide

end Stream

end CameraRecorder

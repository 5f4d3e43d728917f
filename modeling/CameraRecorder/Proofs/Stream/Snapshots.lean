import CameraRecorder.Proofs.Stream.Fates
import CameraRecorder.Proofs.Stream.Files
import CameraRecorder.Proofs.Stream.Latching

/-!
# The snapshot of a file

The snapshot of a file is asked for once, when the file holds the frames at which that is due. What
the file gets is another matter: at every collect point the snapshot lane is looked at, and the
first snapshot found in any of these looks (`Stream.found`) is the one that the trailer is made of.
No snapshot is found twice, because it leaves its lane when it is kept.
-/

namespace CameraRecorder

/-- Whether an entry tells what the worker itself did: frames it took or threw out, the calls it
made, and the wakes it was woken for. -/
def Entry.isWork : Entry → Bool
  | .accepted .. | .evicted _ | .enabled | .disabled | .shutDown | .names .. | .failed _
  | .event .streamStart | .event .streamStop => false
  | _ => true

/-- Whether an entry asks the writer for something. -/
def Entry.asksWriter : Entry → Bool
  | .init .. | .video _ | .audio _ | .trailer .. | .deinit => true
  | _ => false

theorem Entry.asksWriter_of_not_isWork {e : Entry} (h : e.isWork = false) :
    e.asksWriter = false := by
  cases e <;> first | rfl | cases h

/-- What stands in a list but not before its last place is the last. -/
theorem eq_last_of_not_mem {α : Type} {init pre post : List α} {last a : α}
    (h : pre ++ a :: post = init ++ [last]) (ha : a ∉ init) :
    pre = init ∧ a = last ∧ post = [] := by
  rcases List.eq_nil_or_concat post with rfl | ⟨post', b, rfl⟩
  · obtain ⟨rfl, hlast⟩ := List.append_inj' h rfl
    exact ⟨rfl, (List.cons.inj hlast).1, rfl⟩
  · rw [List.concat_eq_append, ← List.cons_append, ← List.append_assoc] at h
    rw [← (List.append_inj' h rfl).1] at ha
    simp at ha

namespace Stream

variable {s s' : Stream} {m : Move} {es before : List Entry} {first : Ticket}

/-! ## Waiting for a call -/

/-- While the worker waits for a call, it does nothing until the call returns. -/
theorem Step.waits (h : Step s m s' es) {en : Bool} {task : Task}
    (hact : s.activity = .awake en task) (hcall : task.isCall = true) :
    (s'.activity = s.activity ∧ ∀ e ∈ es, e.isWork = false) ∨ ∃ error, m = .reply error := by
  cases h with
  | idle | start | stop | shutDown => exact .inl ⟨rfl, by simp [Entry.isWork]⟩
  | misnamed => exact .inl ⟨rfl, forall_mem_optional _ fun _ => rfl⟩
  | accept | displace => exact .inl ⟨activity_setLane .., by simp [Entry.isWork]⟩
  | wake h _ | wakeInterrupted h _ _ => cases hact.symm.trans h
  | take h _ _ | takeInterrupted h _ _ | sleep h _ | closeLast h _ _ | turnIdle h _ _
  | split h _ _ | writeVideo h _ _ | tryOpen h _ | writeAudio h _ | loseAudio h _
  | loseDisabled h _ | askName h _ _ | askKeyFrame h _ _ _ | loseNonKey h _ _ _ | collect h
  | appendTrailer h _ | finishBare h _ | retire h | name h | nameless h =>
    cases hact.symm.trans h
    cases hcall
  | _ => exact .inr ⟨_, rfl⟩

/-! ## The request -/

/-- The frame whose writing the worker waits for was handed over, and nothing was done since. -/
def WaitsSince (s : Stream) (es : List Entry) : Prop :=
  ∀ t, s.writing? = some t → ∃ pre mid, es = pre ++ .video t :: mid ∧ ∀ e ∈ mid, e.isWork = false

theorem WaitsSince.move (hw : s.WaitsSince before) (hs : s.Shaped) (m : Move) :
    (s.move m).1.WaitsSince (before ++ (s.move m).2) := by
  intro t hwriting'
  have hstep := s.step_move m
  cases hstep.films hs with
  | apart hes hwriting =>
    rw [hwriting] at hwriting'
    obtain ⟨pre, mid, rfl, hmid⟩ := hw t hwriting'
    obtain ⟨en, hact⟩ := exists_writing hwriting'
    refine ⟨pre, mid ++ (s.move m).2, by simp, ?_⟩
    rcases hstep.waits hact rfl with ⟨-, hidle⟩ | ⟨error, rfl⟩
    · exact List.forall_mem_append.mpr ⟨hmid, hidle⟩
    · -- the call would have returned
      have hreply : s.videoReply? (.reply error) = some error.isNone := by
        rw [videoReply?, hwriting']
        rfl
      cases (writing?_of_videoReply hreply).symm.trans (hwriting.trans hwriting')
  | creates _ _ hact' => cases (writing?_awake hact').symm.trans hwriting'
  | hands _ hes hact' =>
    cases (writing?_awake hact').symm.trans hwriting'
    exact ⟨before, [], by rw [hes], List.forall_mem_nil _⟩
  | returns _ _ _ _ hnone => cases hnone.symm.trans hwriting'
  | @closes en next _ _ hact' =>
    rw [writing?_awake hact'] at hwriting'
    cases next <;> cases hwriting'

theorem waitsSince_run (hs : s.Shaped) (hw : s.WaitsSince before) (ms : List Move) :
    (s.run ms).1.WaitsSince (before ++ (s.run ms).2) :=
  (moves_induction (P := fun journal s => s.Shaped ∧ s.WaitsSince journal)
    (fun {_ s} m ⟨hs, hw⟩ => ⟨(s.step_move m).shaped hs, hw.move hs m⟩) ⟨hs, hw⟩ ms).2

/-- A snapshot is only asked for when the call for a video frame returns. -/
theorem Step.of_request (h : Step s m s' es) (hs : s.Shaped) {channel : UInt32}
    (he : .thumbnail channel ∈ es) :
    ∃ (t : Ticket) (file : OpenFile) (error : Option WriterError), s.writing? = some t ∧
      s.file = some file ∧ s.asksAfter file = true ∧
      es = (error.map Entry.failed).toList ++ [.thumbnail s.handle.channelId] := by
  cases h.films hs with
  | apart hes => cases hes _ he
  | creates _ hes | hands _ hes =>
    rw [hes] at he
    simp at he
  | @returns en t file error hact _ hopen hes =>
    cases hasks : s.asksAfter file with
    | true => exact ⟨t, file, error, writing?_awake hact, hopen, hasks, by rw [hes, hasks]; rfl⟩
    | false =>
      rw [hes, hasks] at he
      cases error <;> simp at he
  | closes _ hes =>
    rw [hes] at he
    cases he

/-- **Where the snapshot is asked for.** The file then has as many frames as that is due at, and the
last of them was handed over just before. -/
theorem request_run (hs : s.Shaped) (hf : Holds first [] s) (hwriting : s.writing? = none)
    {ms : List Move} (hes : ∀ e ∈ (s.run ms).2, e.isFileBegin = false) {channel : UInt32}
    {pre post : List Entry} (h : (s.run ms).2 = pre ++ .thumbnail channel :: post) :
    channel = s.handle.channelId ∧ (videos pre).length = s.policy.requestAt ∧
      ∃ pre' t mid, pre = pre' ++ .video t :: mid ∧ ∀ e ∈ mid, e.isWork = false := by
  obtain ⟨ms₁, m, ms₂, es₁, es₂, rfl, hmade, rfl, -⟩ := exists_move_of_entry h
  rw [run_append] at hes
  have hs₁ := shaped_run hs ms₁
  have hheld : Holds first ([] ++ (s.run ms₁).2) (s.run ms₁).1 :=
    holds_run hs hf fun e he => hes e (List.mem_append_left _ he)
  rw [List.nil_append] at hheld
  have hasked : .thumbnail channel ∈ ((s.run ms₁).1.move m).2 := by
    rw [hmade]
    simp
  obtain ⟨t, file, error, hwaits, hopen, hasks, hall⟩ :=
    ((s.run ms₁).1.step_move m).of_request hs₁ hasked
  have hsame := s.same_run ms₁
  -- the request is the last entry of its move
  obtain ⟨rfl, htail, -⟩ := eq_last_of_not_mem (hmade.symm.trans hall) fun hin => by
    cases error <;> simp at hin
  have hidle : s.WaitsSince [] := fun t ht => by cases hwriting.symm.trans ht
  obtain ⟨pre', mid, hpre, hmid⟩ := waitsSince_run hs hidle ms₁ t hwaits
  rw [List.nil_append] at hpre
  refine ⟨?_, ?_, pre', t, mid ++ (error.map Entry.failed).toList, by rw [hpre]; simp, ?_⟩
  · rw [← hsame.handle]
    exact Entry.thumbnail.inj htail
  · have hcount := (hheld.file file hopen).2.1
    rw [hwaits, Option.toList_some, List.length_singleton] at hcount
    rw [hheld.asksAfter hopen, hsame.policy] at hasks
    have hnone : videos (error.map Entry.failed).toList = [] := by cases error <;> rfl
    rw [videos_append, hnone, List.append_nil, ← hcount]
    simp only [Bool.and_eq_true, Bool.not_eq_true', decide_eq_false_iff_not, decide_eq_true_eq]
      at hasks
    omega
  · exact List.forall_mem_append.mpr ⟨hmid, forall_mem_optional _ fun _ => rfl⟩

/-! ## The trailer -/

/-- What waits in the snapshot lane each time that it is looked at for the open file, in order. -/
def found (s : Stream) : List Move → List (List Ticket)
  | [] => []
  | m :: ms => (if s.collects m then [s.queue .thumbnail] else []) ++ (s.move m).1.found ms

/-- The first snapshot that was found. -/
def firstFound? (s : Stream) (ms : List Move) : Option Ticket := (s.found ms).findSome? List.head?

theorem firstFound?_cons (s : Stream) (m : Move) (ms : List Move) :
    s.firstFound? (m :: ms)
      = (if s.collects m then s.nextSnapshot? else none).or ((s.move m).1.firstFound? ms) := by
  show ((if s.collects m then [s.queue .thumbnail] else []) ++ _).findSome? List.head? = _
  rw [List.findSome?_append]
  cases s.collects m with
  | true =>
    simp only [if_true, List.findSome?_cons, List.findSome?_nil, nextSnapshot?]
    cases (s.queue .thumbnail).head? <;> rfl
  | false => rfl

/-- The snapshots found at a look are in order. -/
theorem sorted_found (hlanes : s.LanesSound) (ms : List Move) :
    ∀ ts ∈ s.found ms, ts.Pairwise Ticket.Precedes := by
  induction ms generalizing s with
  | nil => nofun
  | cons m ms ih =>
    refine List.forall_mem_append.mpr ⟨fun ts hts => ?_, ih ((s.step_move m).buffers hlanes).1⟩
    cases hcollects : s.collects m with
    | false => simp [hcollects] at hts
    | true =>
      rw [hcollects, if_pos rfl, List.mem_singleton] at hts
      rw [hts]
      exact (hlanes .thumbnail s.thumbnails rfl).1.sorted

theorem trailerFor?_move (s : Stream) (m : Move) (kept : Option Ticket) :
    (s.move m).1.trailerFor? kept = s.trailerFor? kept := by
  unfold trailerFor? trailerOf?
  rw [(s.step_move m).same.config]

/-- When the file is being finished, or there is none, no snapshot is looked for until the next file
begins. -/
theorem done_run (hs : s.Shaped) (hlanes : s.LanesSound) (hdone : s.keeping? = none)
    {ms : List Move} (hes : ∀ e ∈ (s.run ms).2, e.isFileBegin = false) :
    (s.run ms).1.keeping? = none ∧ trailers (s.run ms).2 = [] ∧ s.firstFound? ms = none := by
  induction ms generalizing s with
  | nil => exact ⟨hdone, rfl, rfl⟩
  | cons m ms ih =>
    have hstep := s.step_move m
    have hfirst : (s.move m).1.keeping? = none ∧ trailers (s.move m).2 = [] ∧
        s.collects m = false := by
      cases latches_move hs hlanes m with
      | apart hclosing hcollects hkeeping =>
        exact ⟨hkeeping.trans hdone, trailers_eq_nil hclosing, hcollects⟩
      | creates hbegins =>
        rw [run_cons, hbegins] at hes
        cases hes _ (List.mem_append_left _ (List.mem_singleton.mpr rfl))
      | collects _ _ hkeeping | closes _ hkeeping => cases hdone.symm.trans hkeeping
      | @trailed en snapshot data next error hm hact hends hact' =>
        subst hm
        refine ⟨keeping?_final (isFinal_awake hact'), ?_, rfl⟩
        rw [hends]
        cases error <;> rfl
    obtain ⟨hlast, hnone, hunfound⟩ := ih (hstep.shaped hs) (hstep.buffers hlanes).1 hfirst.1
      fun e he => hes e (List.mem_append_right _ he)
    refine ⟨hlast, ?_, ?_⟩
    · rw [run_cons, trailers_append, hfirst.2.1, hnone, List.append_nil]
    · rw [firstFound?_cons, hfirst.2.2, hunfound]
      rfl

/-- **A file keeps the first snapshot that is found for it.** As long as it is not being finished,
it has no trailer; afterwards it has the one that this snapshot makes. -/
theorem kept_run (hs : s.Shaped) (hlanes : s.LanesSound) {kept : Option Ticket}
    (hkept : s.keeping? = some kept) {ms : List Move}
    (hes : ∀ e ∈ (s.run ms).2, e.isFileBegin = false) :
    (s.run ms).1.keeping? = some (kept.or (s.firstFound? ms)) ∧
        (∀ e ∈ (s.run ms).2, e.isClosing = false) ∨
      (s.run ms).1.keeping? = none ∧
        trailers (s.run ms).2 = (s.trailerFor? (kept.or (s.firstFound? ms))).toList := by
  induction ms generalizing s kept with
  | nil => exact .inl ⟨hkept.trans (by rw [firstFound?, found, List.findSome?_nil, Option.or_none]),
      nofun⟩
  | cons m ms ih =>
    have hstep := s.step_move m
    have hlater : ∀ e ∈ ((s.move m).1.run ms).2, e.isFileBegin = false := fun e he =>
      hes e (List.mem_append_right _ he)
    -- the file goes on, and what it keeps next is known
    have hgoes {kept' : Option Ticket} (hkept' : (s.move m).1.keeping? = some kept')
        (hsame : kept'.or ((s.move m).1.firstFound? ms) = kept.or (s.firstFound? (m :: ms)))
        (hclosing : ∀ e ∈ (s.move m).2, e.isClosing = false) :
        (s.run (m :: ms)).1.keeping? = some (kept.or (s.firstFound? (m :: ms))) ∧
            (∀ e ∈ (s.run (m :: ms)).2, e.isClosing = false) ∨
          (s.run (m :: ms)).1.keeping? = none ∧ trailers (s.run (m :: ms)).2
            = (s.trailerFor? (kept.or (s.firstFound? (m :: ms)))).toList := by
      have hrest := ih (hstep.shaped hs) (hstep.buffers hlanes).1 hkept' hlater
      rw [hsame, trailerFor?_move] at hrest
      rw [run_cons, trailers_append, trailers_eq_nil hclosing, List.nil_append]
      exact hrest.imp (And.imp_right fun hnone => List.forall_mem_append.mpr ⟨hclosing, hnone⟩) id
    cases latches_move hs hlanes m with
    | apart hclosing hcollects hkeeping =>
      refine hgoes (hkeeping.trans hkept) ?_ hclosing
      rw [firstFound?_cons, hcollects]
      rfl
    | creates hbegins =>
      rw [run_cons, hbegins] at hes
      cases hes _ (List.mem_append_left _ (List.mem_singleton.mpr rfl))
    | collects hclosing hcollects hkeeping _ hkeeping' =>
      cases hkept.symm.trans hkeeping
      refine hgoes hkeeping' ?_ hclosing
      rw [firstFound?_cons, hcollects, if_pos rfl, Option.or_assoc]
    | @closes kept₀ latched en next hcollects hkeeping hact hlatched _ hends =>
      cases hkept.symm.trans hkeeping
      have hfinal : (s.move m).1.keeping? = none := by
        rcases hends with ⟨snapshot, data, -, -, hact'⟩ | ⟨-, -, hact'⟩ <;>
        exact keeping?_final (isFinal_awake hact')
      obtain ⟨hdone, hnone, hunfound⟩ :=
        done_run (hstep.shaped hs) (hstep.buffers hlanes).1 hfinal hlater
      refine .inr ⟨hdone, ?_⟩
      have hempty : trailers latched = [] :=
        trailers_eq_nil fun e he => isClosing_of_isSnapshot (hlatched e he)
      rw [run_cons, trailers_append, hnone, List.append_nil, firstFound?_cons, hcollects,
        if_pos rfl, hunfound, Option.or_none]
      rcases hends with ⟨snapshot, data, htrailer, hmade, -⟩ | ⟨htrailer, hmade, -⟩
      · rw [hmade, htrailer, trailers_append, hempty]
        rfl
      · rw [hmade, htrailer, trailers_append, hempty]
        rfl
    | trailed _ hact =>
      cases (keeping?_final (isFinal_awake hact)).symm.trans hkept

/-- After the call for a trailer the writer is asked to finish the file. -/
theorem trailing_run {en : Bool} {snapshot : Ticket} {data : Bytes} {next : Resumption}
    (hact : s.activity = .awake en (.trailing snapshot data next)) (ms : List Move) :
    ((s.run ms).2.find? Entry.asksWriter).all (· = .deinit) = true := by
  induction ms generalizing s with
  | nil => rfl
  | cons m ms ih =>
    have hstep := s.step_move m
    rw [run_cons, List.find?_append]
    rcases hstep.waits hact rfl with ⟨hsame, hidle⟩ | ⟨error, rfl⟩
    · have hnone : (s.move m).2.find? Entry.asksWriter = none :=
        List.find?_eq_none.mpr fun e he => by simp [Entry.asksWriter_of_not_isWork (hidle e he)]
      rw [hnone, Option.none_or]
      exact ih (hsame.trans hact)
    · have hmade : (s.move (.reply error)).2 = (error.map Entry.failed).toList ++ [.deinit] := by
        simp [move, reply, hact, awaitsWriter, Activity.task?, Session.reachesWriter, turnTo,
          callEntry?]
      rw [hmade]
      cases error <;> rfl

/-- **A trailer comes just before its file is finished.** -/
theorem trailer_run (hs : s.Shaped) (hlanes : s.LanesSound) {ms : List Move} {snapshot : Ticket}
    {data : Bytes} {pre post : List Entry}
    (h : (s.run ms).2 = pre ++ .trailer snapshot data :: post) :
    (post.find? Entry.asksWriter).all (· = .deinit) = true := by
  obtain ⟨ms₁, m, ms₂, es₁, es₂, rfl, hmade, -, rfl⟩ := exists_move_of_entry h
  have hs₁ := shaped_run hs ms₁
  have hlanes₁ := (buffers_run hlanes ms₁).1
  have hstep := (s.run ms₁).1.step_move m
  have hmem : .trailer snapshot data ∈ ((s.run ms₁).1.move m).2 := by
    rw [hmade]
    simp
  cases latches_move hs₁ hlanes₁ m with
  | apart hes | collects hes => cases hes _ hmem
  | creates hes =>
    rw [hes] at hmem
    simp at hmem
  | @trailed _ _ _ _ error _ _ hes =>
    rw [hes] at hmem
    cases error <;> simp at hmem
  | @closes _ latched en next _ _ _ hlatched _ hends =>
    have hunlatched : .trailer snapshot data ∉ latched := fun hin => by
      cases isClosing_of_isSnapshot (hlatched _ hin)
    rcases hends with ⟨snapshot', data', -, hes, hact'⟩ | ⟨-, hes, -⟩
    · -- the trailer is the last entry of its move
      obtain ⟨-, -, rfl⟩ := eq_last_of_not_mem (hmade.symm.trans hes) hunlatched
      exact trailing_run hact' ms₂
    · rw [hes] at hmem
      simp [hunlatched] at hmem

/-! ## No snapshot twice -/

/-- The snapshots that were embedded, in order. -/
def embedded (es : List Entry) : List Ticket := (trailers es).map (·.1)

theorem embedded_append (es es' : List Entry) :
    embedded (es ++ es') = embedded es ++ embedded es' := by
  rw [embedded, trailers_append, List.map_append]
  rfl

theorem embedded_eq_nil (h : ∀ e ∈ es, e.isClosing = false) : embedded es = [] := by
  rw [embedded, trailers_eq_nil h]
  rfl

/-- The snapshot that the open file keeps. -/
def kept (s : Stream) : List Ticket := s.keeping?.join.toList

theorem kept_of_keeping {k : Option Ticket} (h : s.keeping? = some k) : s.kept = k.toList := by
  rw [kept, h]
  rfl

/-- What was embedded, and what the open file keeps, was taken, in this order. -/
def Embeds (s : Stream) (journal : List Entry) : Prop :=
  (embedded journal ++ s.kept).Sublist (snapshotsTaken journal)

/-- What is kept after a look is kept before it or taken by it. -/
theorem Embeds.look {journal taken : List Entry} {k : Option Ticket} (hs : s.Embeds journal)
    (hkeeping : s.keeping? = some k)
    (htaken : snapshotsTaken taken = if k.isSome then [] else s.nextSnapshot?.toList) :
    (embedded journal ++ (k.or s.nextSnapshot?).toList).Sublist
      (snapshotsTaken journal ++ snapshotsTaken taken) := by
  rw [Embeds, kept_of_keeping hkeeping] at hs
  rw [htaken]
  cases k with
  | some t => exact hs.trans (List.sublist_append_left ..)
  | none =>
    rw [Option.toList_none, List.append_nil] at hs
    exact hs.append_right _

theorem Embeds.move (hs : s.Shaped) (hlanes : s.LanesSound) {journal : List Entry}
    (hsub : s.Embeds journal) (m : Move) : (s.move m).1.Embeds (journal ++ (s.move m).2) := by
  have hbare : (embedded journal).Sublist (snapshotsTaken journal) :=
    (List.sublist_append_left ..).trans hsub
  rw [Embeds, embedded_append, snapshotsTaken_append]
  cases latches_move hs hlanes m with
  | apart hes _ hkeeping =>
    rw [embedded_eq_nil hes, List.append_nil, kept, hkeeping]
    exact List.Sublist.trans hsub (List.sublist_append_left ..)
  | creates hes _ hkeeping' =>
    rw [kept_of_keeping hkeeping', hes]
    show (embedded journal ++ [] ++ []).Sublist (snapshotsTaken journal ++ [])
    simpa using hbare
  | collects hes _ hkeeping htaken hkeeping' =>
    rw [embedded_eq_nil hes, List.append_nil, kept_of_keeping hkeeping']
    exact hsub.look hkeeping htaken
  | @closes k latched _ _ _ hkeeping _ hlatched htaken hends =>
    have hlook := hsub.look hkeeping htaken
    have hquiet : embedded latched = [] :=
      embedded_eq_nil fun e he => isClosing_of_isSnapshot (hlatched e he)
    rcases hends with ⟨snapshot, data, htrailer, hes, hact'⟩ | ⟨-, hes, hact'⟩
    · obtain ⟨t, ht, hdata⟩ := Option.bind_eq_some_iff.mp htrailer
      obtain ⟨data', -, hpair⟩ := Option.map_eq_some_iff.mp hdata
      cases hpair
      rw [ht] at hlook
      rw [hes, embedded_append, hquiet, snapshotsTaken_append, kept,
        keeping?_final (isFinal_awake hact')]
      show (embedded journal ++ ([] ++ [snapshot]) ++ []).Sublist
        (snapshotsTaken journal ++ (snapshotsTaken latched ++ []))
      simpa using hlook
    · rw [hes, embedded_append, hquiet, snapshotsTaken_append, kept,
        keeping?_final (isFinal_awake hact')]
      show (embedded journal ++ ([] ++ []) ++ []).Sublist
        (snapshotsTaken journal ++ (snapshotsTaken latched ++ []))
      simpa using (List.sublist_append_left ..).trans hlook
  | @trailed _ _ _ _ error _ _ hes hact' =>
    rw [hes, kept, keeping?_final (isFinal_awake hact')]
    have hnone : embedded ((error.map Entry.failed).toList ++ [.deinit]) = [] := by
      cases error <;> rfl
    simpa [hnone] using hbare.trans (List.sublist_append_left ..)

theorem embeds_run (hs : s.Shaped) (hlanes : s.LanesSound) {journal : List Entry}
    (hsub : s.Embeds journal) (ms : List Move) :
    (s.run ms).1.Embeds (journal ++ (s.run ms).2) :=
  (moves_induction (P := fun journal s => s.Shaped ∧ s.LanesSound ∧ s.Embeds journal)
    (fun {_ s} m ⟨hs, hlanes, hsub⟩ => ⟨(s.step_move m).shaped hs,
      ((s.step_move m).buffers hlanes).1, hsub.move hs hlanes m⟩) ⟨hs, hlanes, hsub⟩ ms).2.2

theorem snapshotsTaken_eq (es : List Entry) :
    snapshotsTaken es = (leavers .taken es).filterMap fun
      | ⟨.thumbnail, ticket⟩ => some ticket
      | _ => none := by
  induction es with
  | nil => rfl
  | cons e es ih =>
    rw [← List.singleton_append, snapshotsTaken_append, leavers_append, List.filterMap_append, ih]
    congr 1
    cases e with
    | taken kind ticket => cases kind <;> rfl
    | _ => rfl

/-- **No snapshot is embedded twice.** -/
theorem Fresh.nodup_embedded (hs : s.Fresh) (ms : List Move) : (embedded (s.run ms).2).Nodup := by
  have hfresh : s.Embeds [] := by
    rw [Embeds, kept, keeping?_open (isFinal_resting (by rw [hs.asleep]; rfl)), hs.bare]
    exact .slnil
  have hsub := embeds_run hs.shaped hs.lanes hfresh ms
  rw [List.nil_append] at hsub
  refine List.Nodup.sublist ((List.sublist_append_left ..).trans hsub) ?_
  rw [snapshotsTaken_eq]
  refine (hs.nodup_taken ms).filterMap fun x y t hx hy => ?_
  obtain ⟨lane, ticket⟩ := x
  obtain ⟨lane', ticket'⟩ := y
  cases lane <;> cases lane' <;> simp_all

/-! ## The snapshot of a file -/

/-- What becomes of the snapshot of a file of a stream with the given settings: `w` is the stream
when the file has begun, and `after` is what follows, at most until the next file begins. -/
structure SnapshotLatched (handle : StreamHandle) (config : StreamConfig) (w : Stream)
    (after : List Move) : Prop where
  /-- The snapshot is asked for once if the file got the frames at which that is due, whether they
  could be written or not, and else never. -/
  requests : (w.run after).2.countP Entry.isRequest
    = if (SplitPolicy.create config.splitDurationSecs config.video).requestAt
        ≤ (w.run after).1.returned (w.run after).2 then 1 else 0
  /-- When it is asked for, the file has just got these frames. -/
  request : ∀ pre channel post, (w.run after).2 = pre ++ .thumbnail channel :: post →
    channel = handle.channelId ∧
      (videos pre).length = (SplitPolicy.create config.splitDurationSecs config.video).requestAt ∧
      ∃ pre' t mid, pre = pre' ++ .video t :: mid ∧ ∀ e ∈ mid, e.isWork = false
  once : (trailers (w.run after).2).length ≤ 1
  /-- The next call to the writer after a trailer finishes the file. -/
  last : ∀ pre snapshot data post, (w.run after).2 = pre ++ .trailer snapshot data :: post →
    (post.find? Entry.asksWriter).all (· = .deinit) = true
  /-- When the file is finished, it has the trailer of the first snapshot that was found, unless
  there was none or it fits in no box. -/
  trailer : .deinit ∈ (w.run after).2 →
    trailers (w.run after).2
      = ((w.firstFound? after).bind fun snapshot =>
          (ThumbnailBox.mk config.thumbnail snapshot.frame.data).encode.toOption.map
            (snapshot, ·)).toList
  /-- Of the snapshots that wait, the first is the earliest. -/
  earliest : ∀ ts ∈ w.found after, ts.Pairwise Ticket.Precedes

theorem trailerFor?_eq (s : Stream) (kept : Option Ticket) :
    s.trailerFor? kept = kept.bind fun snapshot =>
      (ThumbnailBox.mk s.config.thumbnail snapshot.frame.data).encode.toOption.map
        (snapshot, ·) := by
  refine Option.bind_congr fun snapshot _ => ?_
  rw [trailerOf?]
  cases (ThumbnailBox.mk s.config.thumbnail snapshot.frame.data).encode <;> rfl

/-- A file that begins keeps no snapshot yet. -/
theorem keeping?_of_fileBegin (hs : s.Shaped) {path : Path}
    (he : .event (.fileBegin path) ∈ (s.move m).2) : (s.move m).1.keeping? = some none := by
  obtain ⟨en, first, generation, -, -, hact', hfile'⟩ := (s.step_move m).of_fileBegin hs he
  rw [keeping?_open (isFinal_awake hact'), hfile']
  rfl

/-- What is known of a file when it begins decides what becomes of its snapshot. -/
theorem Holds.snapshotLatched {w : Stream} (hheld : Holds first [] w) (hs : w.Shaped)
    (hlanes : w.LanesSound) (hkeeping : w.keeping? = some none) {after : List Move}
    (hafter : ∀ e ∈ (w.run after).2, e.isFileBegin = false) :
    SnapshotLatched w.handle w.config w after := by
  have hwriting : w.writing? = none := by
    rcases hheld.opens with ⟨-, en, hact⟩ | ⟨⟨rest, hrest, -⟩, -⟩
    · exact writing?_awake hact
    · cases hrest
  have hkept := kept_run hs hlanes hkeeping hafter
  rw [Option.none_or] at hkept
  refine ⟨?_, fun pre channel post h => request_run hs hheld hwriting hafter h, ?_,
    fun pre snapshot data post h => trailer_run hs hlanes h, fun hends => ?_,
    sorted_found hlanes after⟩
  · have hrequests := (holds_run hs hheld hafter).requests
    rw [List.nil_append, (w.same_run after).policy] at hrequests
    rw [hrequests]
    exact Bool.cond_decide ..
  · rcases hkept with ⟨-, hnone⟩ | ⟨-, htrailers⟩
    · rw [trailers_eq_nil hnone]
      exact Nat.zero_le _
    · rw [htrailers]
      exact Option.length_toList_le
  · rcases hkept with ⟨-, hnone⟩ | ⟨-, htrailers⟩
    · cases hnone _ hends
    · rw [htrailers, trailerFor?_eq]

/-- **The snapshot of a file.** In every run, each file that begins asks for its snapshot once if it
gets enough frames, right after the frame that makes them enough. It gets a trailer, one at most and
just before it is finished, exactly if a snapshot waited at some moment at which one was looked for
while the file was open, and then that of the earliest one at the first such moment. No snapshot is
embedded twice. -/
theorem snapshot_latched (handle : StreamHandle) (config : StreamConfig)
    (before after : List Move) {m : Move} {path : Path}
    (hbegin : .event (.fileBegin path) ∈ (((create handle config).run before).1.move m).2)
    (hafter : ∀ e ∈ ((((create handle config).run before).1.move m).1.run after).2,
      e.isFileBegin = false) :
    SnapshotLatched handle config (((create handle config).run before).1.move m).1 after ∧
      (embedded ((create handle config).run (before ++ m :: after)).2).Nodup := by
  refine ⟨?_, (fresh_create handle config).nodup_embedded _⟩
  have hshaped := shaped_run (shaped_create handle config) before
  have hlanes := (buffers_run (lanesSound_create handle config) before).1
  have hsame := (create handle config).same_run before
  generalize ((create handle config).run before).1 = s at *
  obtain ⟨first, -, -, -, -, hheld⟩ := exists_first hshaped hbegin
  have hstep := s.step_move m
  have hlatched := hheld.snapshotLatched (hstep.shaped hshaped) (hstep.buffers hlanes).1
    (keeping?_of_fileBegin hshaped hbegin) hafter
  rwa [(hsame.trans hstep.same).handle, (hsame.trans hstep.same).config] at hlatched

/-- A file begins, two snapshots come while the first is asked for, and the stream is stopped. -/
def snapshotsWhileOpen : List Move :=
  [.reply none, .reply none, .submit .thumbnail ⟨[8], 100, false⟩,
    .submit .thumbnail ⟨[7], 50, false⟩, .reply none, .advance, .advance, .stop, .wake, .advance,
    .advance, .reply none, .reply none]

/-- The snapshot is asked for once, and the earlier of the two is embedded. -/
theorem snapshot_latched_earliest :
    let s := ((create ⟨0, 0, 0⟩ secondLong).run (recordedOnce.take 7)).1
    let es := ((s.move (.reply none)).1.run snapshotsWhileOpen).2
    es.countP Entry.isRequest = 1 ∧ embedded es = [⟨1, [7], 50, false⟩] := by
  intro s es
  have hbegin : .event (.fileBegin ⟨[1]⟩) ∈ (s.move (.reply none)).2 := by decide
  have hafter : ∀ e ∈ es, e.isFileBegin = false := by decide
  obtain ⟨hlatched, -⟩ := snapshot_latched ⟨0, 0, 0⟩ secondLong (recordedOnce.take 7)
    snapshotsWhileOpen hbegin hafter
  refine ⟨hlatched.requests.trans (by decide), ?_⟩
  rw [embedded, hlatched.trailer (by decide)]
  decide

end Stream

end CameraRecorder

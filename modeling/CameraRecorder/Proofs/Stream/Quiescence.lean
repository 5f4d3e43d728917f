import CameraRecorder.Proofs.Stream.Draining
import CameraRecorder.Proofs.Stream.Generations
import CameraRecorder.Proofs.Stream.Teardown

/-!
# What a wake leaves behind

Whichever way a wake ends, it leaves the lanes empty: on an enabled stream the last frame was taken
and the snapshots were collected, on a disabled one the lanes are emptied at the very end. While the
stream is not stopped, a wake that began enabled only has a file of the present (`Stream.Current`),
so when it is over the next wake would close nothing (`Stream.Composed`). What is known of a wake
under way and of one that is over is `Stream.InWake`.

A worker that is woken on empty lanes with nothing to close does its tasks and leaves the stream as
it was.
-/

namespace CameraRecorder

/-- Whether a move is one that the application may make while a worker waits for a call. -/
def Stream.Move.isOutside : Stream.Move → Bool
  | .start | .stop | .submit .. => true
  | _ => false

/-- How many frames a move lets in for the writer, at most. -/
def Stream.Move.letsIn : Stream.Move → Nat
  | .submit .video _ | .submit .audio _ | .retry .video _ | .retry .audio _ => 1
  | _ => 0

namespace Stream

variable {s s' : Stream} {m : Move} {es : List Entry} {en : Bool} {task : Task}

/-! ## Empty lanes -/

theorem queue_eq_nil_iff (s : Stream) (kind : LaneKind) :
    s.queue kind = [] ↔ ∀ l, s.lane? kind = some l → l.tickets = [] := by
  unfold queue
  cases s.lane? kind <;> simp

/-- Collecting snapshots leaves none that waits. -/
theorem queue_collectThumbnail (hs : s.LanesSound) (hvideo : s.queue .video = [])
    (haudio : s.queue .audio = []) (kind : LaneKind) : s.collectThumbnail.1.queue kind = [] := by
  obtain ⟨waiting, kept, h⟩ := s.exists_collectThumbnail
  cases kind with
  | thumbnail => exact (hs.latchThumbnail.1 .thumbnail _ rfl).1.drain.2.2.1
  | video =>
    rw [h]
    exact hvideo
  | audio =>
    rw [h]
    exact haudio

/-- **How a wake ends.** It began enabled and there is no frame left, or it empties the lanes. -/
theorem Step.ends (h : Step s m s' es) (hact : s.activity = .awake en task)
    (hrest' : s'.activity.task? = none) :
    en = true ∧ task = .taking ∧ s.takeFrame? = none ∧
        s' = { s.collectThumbnail.1 with activity := .asleep } ∨
      task = .retiring ∧ s' = s.retire.1 := by
  cases h with
  | idle | start | stop | shutDown | misnamed =>
    rw [show s.activity = _ from hact] at hrest'
    cases hrest'
  | accept | displace =>
    rw [activity_setLane, hact] at hrest'
    cases hrest'
  | sleep h hnone =>
    cases hact.symm.trans h
    exact .inl ⟨rfl, rfl, hnone, rfl⟩
  | retire h =>
    cases hact.symm.trans h
    exact .inr ⟨rfl, rfl⟩
  | _ => cases hrest'

/-- **When a wake ends, every lane is empty.** -/
theorem Step.empties_lanes (h : Step s m s' es) (hs : s.LanesSound)
    (hact : s.activity = .awake en task) (hrest' : s'.activity.task? = none) (kind : LaneKind) :
    s'.queue kind = [] := by
  rcases h.ends hact hrest' with ⟨-, -, hnone, rfl⟩ | ⟨-, rfl⟩
  · exact queue_collectThumbnail hs (hs.queue_eq_nil hnone (by decide))
      (hs.queue_eq_nil hnone (by decide)) kind
  · exact queue_retire hs kind

/-! ## Wakes without a stop -/

/-- When the end of a file was told, there is none. -/
theorem Step.closed_of_ending (h : Step s m s' es) {next : Resumption}
    (hact : s.activity = .awake en (.ending next)) (hact' : s'.activity = .awake en next.task) :
    s'.file = none := by
  have hmoves (hsame : s'.activity = s.activity) : s'.file = none := by
    rw [hact', hact] at hsame
    cases next <;> cases hsame
  cases h with
  | idle | start | stop | shutDown | misnamed => exact hmoves rfl
  | accept | displace => exact hmoves (activity_setLane ..)
  | resume => rfl
  | asked h htask => rcases htask with rfl | rfl <;> cases hact.symm.trans h
  | wake h _ | wakeInterrupted h _ _ | take h _ _ | takeInterrupted h _ _ | sleep h _
  | closeLast h _ _ | turnIdle h _ _ | split h _ _ | writeVideo h _ _ | tryOpen h _
  | writeAudio h _ | loseAudio h _ | loseDisabled h _ | askName h _ _ | askKeyFrame h _ _ _
  | loseNonKey h _ _ _ | collect h | appendTrailer h _ | finishBare h _ | retire h | name h
  | nameless h | create h _ | fail h | begin h | videoWritten h _ _ | askThumbnail h _ _
  | videoStray h _ | audioWritten h | finish h | publish h | tellEnd h =>
    cases hact.symm.trans h

/-- A wake that began enabled is on an enabled stream, and the file that it has or attempts to open
is of the present, unless it is being closed. -/
def Current (s : Stream) : Prop :=
  ∀ task, s.activity = .awake true task → s.isEnabled = true ∧
    (task.resumption? = none → ∀ generation, s.generation? = some generation →
      generation = s.stops)

theorem current_of_rest (h : s.activity.task? = none) : s.Current := by
  intro task hact
  rw [hact] at h
  cases h

theorem isInterrupted_eq_false_iff (s : Stream) : s.isInterrupted = false ↔
    ∀ generation, s.file.map (·.generation) = some generation → generation = s.stops := by
  unfold isInterrupted
  cases s.file <;> simp

/-- **Without a stop a wake stays at the present.** -/
theorem Step.current (h : Step s m s' es) (hs : s.Shaped) (hes : ∀ e ∈ es, e.isStop = false)
    (hst : s.Current) : s'.Current := by
  intro task' hact'
  obtain ⟨hstops, hstays⟩ := h.stays_of_unstopped hes
  -- what dates a file afterwards dated it before, or is the present
  have hdates (hbefore : ∀ generation, s.generation? = some generation → generation = s.stops)
      (generation : Nat) (hg : s'.generation? = some generation) : generation = s'.stops := by
    rw [hstops]
    rcases h.generation hs with hsame | hnone | ⟨hnow, -⟩
    · exact hbefore generation (hsame.symm.trans hg)
    · cases hnone.symm.trans hg
    · exact (Option.some.inj (hnow.symm.trans hg)).symm
  rcases h.comes_from hact' with hsame | ⟨task, hact, hleads⟩ | ⟨hasleep, -, -, hen, rfl⟩
  · obtain ⟨hen, hbefore⟩ := hst task' hsame
    exact ⟨hstays hen, fun hopen => hdates (hbefore hopen)⟩
  · obtain ⟨hen, hbefore⟩ := hst task hact
    refine ⟨hstays hen, fun hopen => ?_⟩
    cases hnext : task.resumption? with
    | none => exact hdates (hbefore hnext)
    | some next =>
      rcases h.goes_on_closing hact hnext with ⟨task₁, hact₁, hnext₁⟩ | ⟨rfl, hended⟩
      · cases hact'.symm.trans hact₁
        cases hopen.symm.trans hnext₁
      · intro generation hg
        rw [generation?_awake hended, h.closed_of_ending hact hended] at hg
        cases next <;> cases hg
  · refine ⟨hstays hen, fun hopen => hdates ?_⟩
    have hcurrent : s.isInterrupted = false := by
      by_contra hi
      rw [Bool.not_eq_false] at hi
      rw [hen, hi] at hopen
      cases hopen
    rw [generation?_resting (by rw [hasleep]; rfl)]
    exact s.isInterrupted_eq_false_iff.mp hcurrent

/-- A worker that sleeps would close nothing if it were woken. -/
structure Composed (s : Stream) : Prop where
  running : s.activity = .asleep → s.shutdown = false
  current : s.activity = .asleep → s.isInterrupted = false
  closed : s.activity = .asleep → s.isEnabled = false → s.file = none

theorem composed_of_awake (hact : s.activity = .awake en task) : s.Composed := by
  constructor <;> intro hasleep <;> cases hact.symm.trans hasleep

/-- **A wake at the present leaves the worker composed.** -/
theorem Step.composed (h : Step s m s' es) (hs : s.Shaped) (hst : s.Current)
    (hact : s.activity = .awake en task) : s'.Composed := by
  cases hact' : s'.activity with
  | awake en' task' => exact composed_of_awake hact'
  | stopped | crashed =>
    constructor <;> intro hasleep <;> cases hact'.symm.trans hasleep
  | asleep =>
    rcases h.ends hact (by rw [hact']; rfl) with ⟨rfl, rfl, -, rfl⟩ | ⟨rfl, rfl⟩
    · obtain ⟨hen, hcurrent⟩ := hst _ hact
      obtain ⟨waiting, kept, hcollected⟩ := s.exists_collectThumbnail
      have hen' :
          ({ s.collectThumbnail.1 with activity := .asleep } : Stream).isEnabled = true := by
        rw [hcollected]
        exact hen
      refine ⟨fun _ => ?_, fun _ => ?_, fun _ hdisabled => ?_⟩
      · simpa using (Bool.and_eq_true_iff.mp hen').2
      · have hbirth := s.birth_withSnapshots waiting kept
        rw [← hcollected] at hbirth
        refine (isInterrupted_eq_false_iff _).mpr fun generation hg => ?_
        have hdate := congrArg (Option.map fun birth => birth.2.1) hbirth
        rw [Option.map_map, Option.map_map] at hdate
        have hstops : s.collectThumbnail.1.stops = s.stops := by
          rw [hcollected]
          rfl
        refine (hcurrent rfl generation ?_).trans hstops.symm
        rw [generation?_awake hact]
        exact hdate.symm.trans hg
      · cases hen'.symm.trans hdisabled
    · have hnone : s.retire.1.file = none := hs.file_eq_none hact rfl
      refine ⟨fun _ => ?_, fun _ => ?_, fun _ _ => hnone⟩
      · show s.shutdown = false
        cases hshut : s.shutdown with
        | false => rfl
        | true => simp [Stream.retire, hshut] at hact'
      · rw [isInterrupted, hnone]
        rfl

/-! ## A wake from its beginning to its end -/

/-- What is known of a stream whose worker was woken, `journal` being what happened since. -/
structure InWake (s : Stream) (journal : List Entry) : Prop where
  lawful : s.Lawful
  emptied : s.activity.task? = none → ∀ kind, s.queue kind = []
  unstopped : (∀ e ∈ journal, e.isStop = false) → s.Current ∧ s.Composed

/-- A worker that is woken was at rest. If it does not sleep, it has stopped for good. -/
theorem inWake_of_wake (hs : s.Lawful) (hrest : s.activity.task? = none) :
    (s.move .wake).1.InWake (s.move .wake).2 := by
  have hstep := s.step_move .wake
  cases hact : s.activity with
  | asleep =>
    have hact' : ∃ en task, (s.move .wake).1.activity = .awake en task := by
      simp [move, wake, hact, turnTo]
    obtain ⟨en, task, hact'⟩ := hact'
    refine ⟨hstep.lawful hs, fun hover => ?_, fun hes => ?_⟩
    · rw [hact'] at hover
      cases hover
    · exact ⟨hstep.current hs.shaped hes (current_of_rest hrest), composed_of_awake hact'⟩
  | stopped =>
    have hsame : s.move .wake = (s, []) := by simp [move, wake, hact]
    rw [hsame]
    refine ⟨hs, fun _ => (hs.settled hact).2, fun _ => ⟨current_of_rest hrest, ?_⟩⟩
    constructor <;> intro hasleep <;> cases hact.symm.trans hasleep
  | awake en task =>
    rw [hact] at hrest
    cases hrest
  | crashed => exact absurd hact hs.not_crashed

theorem Step.inWake (h : Step s m s' es) (hact : s.activity = .awake en task) {journal : List Entry}
    (hw : s.InWake journal) : s'.InWake (journal ++ es) where
  lawful := h.lawful hw.lawful
  emptied hrest' := h.empties_lanes hw.lawful.lanes hact hrest'
  unstopped hes := by
    obtain ⟨hbefore, hes⟩ := List.forall_mem_append.mp hes
    obtain ⟨hst, -⟩ := hw.unstopped hbefore
    exact ⟨h.current hw.lawful.shaped hes hst, h.composed hw.lawful.shaped hst hact⟩

/-- What the application does meanwhile changes nothing about the task at hand. -/
theorem Step.activity_of_outside (h : Step s m s' es) (hm : m.isOutside = true) :
    s'.activity = s.activity := by
  cases h with
  | idle | start | stop | shutDown | misnamed => rfl
  | accept | displace => exact activity_setLane ..
  | _ => cases hm

theorem activity_run_outside {ms : List Move} (hms : ∀ m ∈ ms, m.isOutside = true) :
    (s.run ms).1.activity = s.activity := by
  induction ms generalizing s with
  | nil => rfl
  | cons m ms ih =>
    have hfirst := (s.step_move m).activity_of_outside (hms m (.head _))
    exact (ih fun m' hm' => hms m' (.tail _ hm')).trans hfirst

theorem inWake_run_outside (hact : s.activity = .awake en task) {journal : List Entry}
    (hw : s.InWake journal) {ms : List Move} (hms : ∀ m ∈ ms, m.isOutside = true) :
    (s.run ms).1.InWake (journal ++ (s.run ms).2) := by
  induction ms generalizing s journal with
  | nil => simpa using hw
  | cons m ms ih =>
    have hstep := s.step_move m
    have hact' := (hstep.activity_of_outside (hms m (.head _))).trans hact
    rw [run_cons, ← List.append_assoc]
    exact ih hact' (hstep.inWake hact hw) fun m' hm' => hms m' (.tail _ hm')

/-- No wake begins by what the application does. -/
theorem isWoken_run_outside {ms : List Move} (hms : ∀ m ∈ ms, m.isOutside = true) :
    (s.run ms).2.countP Entry.isWoken = 0 := by
  induction ms generalizing s with
  | nil => rfl
  | cons m ms ih =>
    have hfirst : (s.move m).2.countP Entry.isWoken = 0 := by
      refine List.countP_eq_zero.mpr fun e he hwoken => ?_
      have hmakes := (s.step_move m).makes e he
      have hm := hms m (.head _)
      cases e with
      | woken => cases hmakes.1 ▸ hm
      | _ => cases hwoken
    rw [run_cons, List.countP_append, hfirst, ih fun m' hm' => hms m' (.tail _ hm')]

theorem Step.accepted_le (h : Step s m s' es) : (acceptedItems es).length ≤ m.letsIn := by
  have hnone (hes : ∀ e ∈ es, e.accepts? = none) : (acceptedItems es).length ≤ m.letsIn := by
    rw [show acceptedItems es = [] from List.filterMap_eq_nil_iff.mpr hes]
    exact Nat.zero_le _
  cases h with
  | accept hm _ _ _ => rcases hm with rfl | rfl <;> cases ‹LaneKind› <;> exact Nat.le_refl _
  | displace => cases ‹LaneKind› <;> exact Nat.le_refl _
  | idle | split | tryOpen | loseAudio | loseDisabled | askName | loseNonKey | asked | resume
  | start | stop | shutDown | wake | wakeInterrupted | take | takeInterrupted | writeVideo
  | writeAudio | askKeyFrame | create | fail | begin => exact Nat.zero_le _
  | sleep | closeLast | turnIdle | collect =>
    exact hnone (forall_mem_snapshots s.isSnapshot_collectThumbnail (fun _ => rfl) fun _ => rfl)
  | appendTrailer | finishBare =>
    exact hnone (List.forall_mem_append.mpr
      ⟨forall_mem_snapshots s.isSnapshot_latchThumbnail (fun _ => rfl) fun _ => rfl,
        List.forall_mem_singleton.mpr rfl⟩)
  | retire =>
    exact hnone (s.forall_mem_retire fun _ _ => rfl)
  | nameless | misnamed | videoWritten | videoStray | audioWritten | publish | tellEnd =>
    exact hnone (forall_mem_optional _ fun _ => rfl)
  | name | askThumbnail | finish =>
    exact hnone (List.forall_mem_append.mpr ⟨forall_mem_optional _ fun _ => rfl,
      List.forall_mem_singleton.mpr rfl⟩)

/-- The worker's own turns begin no wake and let no frame in. -/
theorem quiet_of_isTurn (hturn : s.isTurn m = true) :
    acceptedItems (s.move m).2 = [] ∧ (s.move m).2.countP Entry.isWoken = 0 := by
  constructor
  · have hle := (s.step_move m).accepted_le
    have hzero : m.letsIn = 0 := by
      cases m with
      | submit | retry => cases hturn
      | _ => rfl
    rw [hzero] at hle
    exact List.length_eq_zero_iff.mp (Nat.le_zero.mp hle)
  · refine List.countP_eq_zero.mpr fun e he hwoken => ?_
    have hmakes := (s.step_move m).makes e he
    cases e with
    | woken => cases hmakes.1 ▸ hturn
    | _ => cases hwoken

/-! ## A wake with nothing to do -/

theorem takeFrame?_of_empty (hs : s.LanesSound) (hempty : ∀ kind, s.queue kind = []) :
    s.takeFrame? = none := by
  have hvideo : s.video.peek? = none := by
    rw [(hs .video _ rfl).1.peek_eq, (s.queue_eq_nil_iff .video).mp (hempty _) _ rfl]
    rfl
  have haudio : s.audio.bind Lane.peek? = none := by
    refine Option.bind_eq_none_iff.mpr fun l hl => ?_
    rw [(hs .audio l hl).1.peek_eq, (s.queue_eq_nil_iff .audio).mp (hempty _) l hl]
    rfl
  unfold takeFrame?
  rw [hvideo, haudio]

theorem drain_of_empty (hs : s.LanesSound) (hempty : ∀ kind, s.queue kind = []) (kind : LaneKind)
    {l : Lane} (hl : s.lane? kind = some l) : l.drain = ([], l) :=
  (hs kind l hl).1.drain_of_empty ((s.queue_eq_nil_iff kind).mp (hempty kind) l hl)

theorem collectThumbnail_of_empty (hs : s.LanesSound) (hempty : ∀ kind, s.queue kind = []) :
    s.collectThumbnail = (s, [.discarded .thumbnail []]) := by
  have hpop : s.thumbnails.pop? = none := (hs .thumbnail _ rfl).1.pop_eq_none_iff.mpr
    ((s.queue_eq_nil_iff .thumbnail).mp (hempty _) _ rfl)
  have hlatch : s.latchThumbnail = (s, []) := by
    unfold latchThumbnail
    cases s.file with
    | none => rfl
    | some file => simp [hpop]
  unfold collectThumbnail
  simp only [hlatch, dropThumbnails, drain_of_empty hs hempty .thumbnail rfl,
    List.nil_append]

theorem retire_of_empty (hs : s.LanesSound) (hempty : ∀ kind, s.queue kind = []) :
    s.retire.1 = { s with activity := if s.shutdown then .stopped else .asleep } := by
  have haudio : (s.audio.map Lane.drain).map (·.2) = s.audio := by
    cases h : s.audio with
    | none => rfl
    | some l =>
      have hl : s.lane? .audio = some l := h
      simp [drain_of_empty hs hempty .audio hl]
  simp only [Stream.retire, drain_of_empty hs hempty .video rfl,
    drain_of_empty hs hempty .thumbnail rfl, haudio]

theorem isInternal_retire (s : Stream) : ∀ e ∈ s.retire.2, e.isInternal = true :=
  List.forall_mem_cons.mpr ⟨rfl, List.forall_mem_append.mpr
    ⟨forall_mem_optional _ fun _ => rfl, List.forall_mem_singleton.mpr rfl⟩⟩

/-- Does tasks that are no calls, one after the other. -/
inductive Advances : Nat → Stream → List Entry → Stream → Prop
  | nil {s : Stream} : Advances 0 s [] s
  | cons {n : Nat} {s s₁ s' : Stream} {es es' : List Entry} (h : s.advance? = some (s₁, es))
    (hs : Advances n s₁ es' s') : Advances (n + 1) s (es ++ es') s'

theorem advance?_enabled_of_empty (hact : s.activity = .awake true .taking) (hs : s.LanesSound)
    (hempty : ∀ kind, s.queue kind = []) :
    s.advance? = some ({ s with activity := .asleep }, [.discarded .thumbnail []]) := by
  simp [advance?, hact, takeNext, takeFrame?_of_empty hs hempty,
    collectThumbnail_of_empty hs hempty, finishWake]

theorem advance?_disabled_of_empty (hact : s.activity = .awake false .taking) (hs : s.LanesSound)
    (hempty : ∀ kind, s.queue kind = []) (hfile : s.file = none) :
    s.advance? =
      some ({ s with activity := .awake false .retiring }, [.discarded .thumbnail []]) := by
  simp [advance?, hact, takeNext, takeFrame?_of_empty hs hempty,
    collectThumbnail_of_empty hs hempty, finishWake, hfile, turnTo, callEntry?]

/-- **A worker that finds nothing to do leaves the stream as it is**, after at most two tasks. -/
theorem wake_of_composed (hs : s.Lawful) (hrest : s.activity.task? = none)
    (hempty : ∀ kind, s.queue kind = []) (hc : s.Composed) :
    ∃ n es, n ≤ 2 ∧ Advances n s.wake.1 es s ∧ ∀ e ∈ s.wake.2 ++ es, e.isInternal = true := by
  cases hact : s.activity with
  | awake en task =>
    rw [hact] at hrest
    cases hrest
  | crashed => exact absurd hact hs.not_crashed
  | stopped =>
    have hsame : s.wake = (s, []) := by simp [wake, hact]
    rw [hsame]
    exact ⟨0, [], Nat.zero_le _, .nil, List.forall_mem_nil _⟩
  | asleep =>
    have hself : { s with activity := .asleep } = s := by rw [← hact]
    let woken : Stream := { s with activity := .awake s.isEnabled .taking }
    have hwake : s.wake = (woken, [.woken s.isEnabled]) := by
      simp [wake, hact, hc.current hact, turnTo, callEntry?, woken]
    rw [hwake]
    cases hen : s.isEnabled with
    | true =>
      have hsleeps := advance?_enabled_of_empty (s := woken) (by simp [woken, hen]) hs.lanes hempty
      have hback : { woken with activity := .asleep } = s := hself
      rw [hback] at hsleeps
      exact ⟨1, _, by decide, .cons hsleeps .nil, by simp [Entry.isInternal]⟩
    | false =>
      have hturns := advance?_disabled_of_empty (s := woken) (by simp [woken, hen]) hs.lanes hempty
        (hc.closed hact hen)
      let retiring : Stream := { woken with activity := .awake false .retiring }
      have hback : retiring.retire.1 = s := by
        rw [retire_of_empty (s := retiring) hs.lanes hempty, ← hself]
        simp [retiring, woken, hc.running hact]
      have hretires : retiring.advance? = some (s, retiring.retire.2) :=
        congrArg some (Prod.ext hback rfl)
      refine ⟨2, _, Nat.le_refl _, .cons hturns (.cons hretires .nil), ?_⟩
      rw [List.append_nil]
      exact List.forall_mem_cons.mpr
        ⟨rfl, List.forall_mem_cons.mpr ⟨rfl, retiring.isInternal_retire⟩⟩

end Stream

end CameraRecorder

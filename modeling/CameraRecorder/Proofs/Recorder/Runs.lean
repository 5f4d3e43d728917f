import CameraRecorder.Proofs.Session.Runs
import CameraRecorder.Recorder.Film

/-!
# What a recorder does to its streams

A recorder acts for the application, wakes workers, answers their calls and films. All that it does
to a stream is a run of that stream, and the record tells what happened in it (`Recorder.Runs`), as
long as no call is scripted to crash its worker. So what holds of all runs of a stream holds of
every stream of a recorder.
-/

namespace CameraRecorder

/-- The entry that a line of the record makes about a stream. -/
def Line.entryOf? (i : Nat) : Line → Option Entry
  | entry j e => if j = i then some e else none
  | hook .. => none

namespace Recorder

variable {r r' r'' : Recorder} {i : Nat}

/-- What the record tells of a stream, in order. -/
def told (r : Recorder) (i : Nat) : List Entry := r.record.reverse.filterMap (Line.entryOf? i)

theorem told_note (r : Recorder) (es : Session.Entries) (i : Nat) :
    (r.note es).told i = r.told i ++ Session.entriesOf es i := by
  simp only [told, note, Session.entriesOf, List.reverse_append, List.reverse_reverse,
    List.filterMap_append, List.filterMap_map]
  rfl

theorem told_hook (r : Recorder) (action : String) (answer : Answer) (i : Nat) :
    { r with record := .hook action answer :: r.record }.told i = r.told i := by
  simp [told, Line.entryOf?]

/-- From one recorder to another each stream makes moves, and the record tells what happened. The
calls that are scripted to fail stay the same. -/
structure Runs (r r' : Recorder) : Prop where
  failures : r'.host.failures = r.host.failures
  streams : ∀ i stream, r.session.stream? i = some stream →
    ∃ ms, r'.session.stream? i = some (stream.run ms).1 ∧ r'.told i = r.told i ++ (stream.run ms).2

/-- Nothing that concerns the streams changes. -/
theorem Runs.of_quiet (hfailures : r'.host.failures = r.host.failures)
    (hsession : r'.session = r.session) (htold : ∀ i, r'.told i = r.told i) : r.Runs r' where
  failures := hfailures
  streams i stream hi := by
    refine ⟨[], ?_, ?_⟩
    · rw [hsession]
      exact hi
    · rw [htold]
      exact (List.append_nil _).symm

theorem Runs.refl (r : Recorder) : r.Runs r := .of_quiet rfl rfl fun _ => rfl

theorem Runs.trans (h : r.Runs r') (h' : r'.Runs r'') : r.Runs r'' where
  failures := h'.failures.trans h.failures
  streams i stream hi := by
    obtain ⟨ms, hr', htold⟩ := h.streams i stream hi
    obtain ⟨ms', hr'', htold'⟩ := h'.streams i _ hr'
    refine ⟨ms ++ ms', ?_, ?_⟩
    · rw [Stream.run_append]
      exact hr''
    · rw [Stream.run_append, htold', htold, List.append_assoc]

/-- What is done again and again, to a recorder with something else beside it. -/
theorem Runs.foldl {σ α : Type} (recorder : σ → Recorder) {f : σ → α → σ} {x : σ}
    (hf : ∀ y a, (recorder x).Runs (recorder y) → (recorder y).Runs (recorder (f y a)))
    (as : List α) : (recorder x).Runs (recorder (as.foldl f x)) := by
  refine List.foldlRecOn (motive := fun y => (recorder x).Runs (recorder y)) as f (.refl _) ?_
  intro y h a _
  exact h.trans (hf y a h)

theorem runs_update {change : Session × Session.Entries}
    (h : r.session.Runs change.2 change.1) : r.Runs (r.update change) where
  failures := rfl
  streams i stream hi := by
    obtain ⟨ms, hs', hes⟩ := h i stream hi
    refine ⟨ms, hs', ?_⟩
    rw [update, told_note, hes]
    rfl

theorem runs_submitted {change : Except SubmitError (Session × Session.Entries)}
    (h : ∀ made, change = .ok made → r.session.Runs made.2 made.1) :
    r.Runs (r.submitted change).2 := by
  cases change with
  | ok made => exact runs_update (h made rfl)
  | error cause => exact .refl r

theorem runs_act (r : Recorder) (action : Action) : r.Runs (r.act action).2 := by
  cases action with
  | start =>
    unfold act
    by_cases hlive : r.isLive = true
    · simp only [hlive, if_true]
      exact runs_update r.session.runs_start
    · simp only [hlive]
      exact .refl r
  | stop =>
    unfold act
    by_cases hlive : r.isLive = true
    · simp only [hlive, if_true]
      exact runs_update r.session.runs_stop
    · simp only [hlive]
      exact .refl r
  | video channel frame => exact runs_submitted fun made h => Session.runs_submitVideo h
  | audioTo stream frame | thumbnailTo stream frame =>
    exact runs_submitted fun made h => Session.runs_submit h
  | audio frame => exact runs_update (r.session.runs_broadcast .audio frame)
  | thumbnail frame => exact runs_update (r.session.runs_broadcast .thumbnail frame)

/-! ## Calls -/

theorem runs_runActions (r : Recorder) (actions : List Action) : r.Runs (r.runActions actions) := by
  refine Runs.foldl id (fun r action _ => ?_) actions
  exact (r.runs_act action).trans (.of_quiet rfl rfl fun i => told_hook ..)

theorem runs_runHooks (r : Recorder) (stream : Nat) (point : Point) (count : Nat) :
    r.Runs (r.runHooks stream point count) := by
  let later := r.host.hooks.filter fun hook => !hook.belongsTo stream point count
  have hquiet : r.Runs { r with host := { r.host with hooks := later } } :=
    .of_quiet rfl rfl fun _ => rfl
  unfold runHooks
  simp only [List.partition_eq_filter_filter]
  exact hquiet.trans (runs_runActions _ _)

theorem runs_askCamera (r : Recorder) (channel : UInt32) (point : Point) :
    r.Runs (r.askCamera channel point) := by
  cases point with
  | keyFrame => exact .of_quiet rfl rfl fun _ => rfl
  | thumbnail => exact Runs.foldl id (fun r data _ => r.runs_act _) _
  | _ => exact .refl r

/-- No call is scripted to end a worker. -/
def NeverCrashes (r : Recorder) : Prop := ∀ f ∈ r.host.failures, f.isCrash = false

theorem NeverCrashes.of_runs (h : r.NeverCrashes) (hruns : r.Runs r') : r'.NeverCrashes := by
  intro f hf
  rw [hruns.failures] at hf
  exact h f hf

theorem runs_serve (h : r.NeverCrashes) (i : Nat) (channel : UInt32) (point : Point) :
    r.Runs (r.serve i channel point) := by
  unfold serve
  let owner := r.ascribed i channel point
  let r₁ := r.askCamera channel point
  let r₂ := { r₁ with host := r₁.host.countCall owner point }
  let r₃ := r₂.runHooks owner point (r₂.host.callsOf owner point)
  -- before the call ends, the camera answers and the hooks act
  have hruns : r.Runs r₃ := by
    have h₁ : r.Runs r₁ := r.runs_askCamera channel point
    have h₂ : r₁.Runs r₂ := .of_quiet rfl rfl fun _ => rfl
    exact (h₁.trans h₂).trans (r₂.runs_runHooks _ _ _)
  dsimp only
  split
  · exact hruns.trans (runs_update (r₃.session.runs_replyTo i false))
  · rename_i failure hfind
    rw [h.of_runs hruns failure (List.mem_of_find?_eq_some hfind)]
    exact hruns.trans (runs_update (r₃.session.runs_replyTo i true))

theorem runs_nameFile (r : Recorder) (i : Nat) : r.Runs (r.nameFile i) := by
  let made := r.session.nameFile NameSource.request i r.host.names
  let r₁ := { r with host := { r.host with names := made.2.2 } }
  have hquiet : r.Runs r₁ := .of_quiet rfl rfl fun _ => rfl
  have hupdate : r₁.Runs (r₁.update (made.1, made.2.1)) :=
    runs_update (r.session.runs_nameFile NameSource.request i r.host.names)
  exact hquiet.trans hupdate

/-! ## Wakes -/

theorem runs_advance (h : r.NeverCrashes) (hadvance : r.advance? i = some r') : r.Runs r' := by
  unfold advance? at hadvance
  cases hi : r.session.stream? i with
  | none =>
    rw [hi] at hadvance
    cases hadvance
  | some stream =>
    cases hmade : stream.advance? with
    | some made =>
      simp only [hi, hmade] at hadvance
      cases hadvance
      have hruns := Session.runs_setStream hi [.advance]
      have hmove : stream.move .advance = made := by
        rw [Stream.move, hmade]
        rfl
      rw [Stream.run_single, hmove] at hruns
      exact runs_update hruns
    | none =>
      cases htask : stream.activity.task? with
      | none =>
        simp only [hi, hmade, htask] at hadvance
        cases hadvance
      | some task =>
        simp only [hi, hmade, htask] at hadvance
        split at hadvance
        · cases hadvance
        · cases hadvance
          exact r.runs_nameFile i
        · split at hadvance
          · cases hadvance
            exact runs_serve h i _ _
          · cases hadvance
            exact runs_update (r.session.runs_replyTo i false)

theorem runs_run (h : r.NeverCrashes) (fuel i : Nat) : r.Runs (run fuel r i) := by
  induction fuel generalizing r with
  | zero => exact .refl r
  | succ fuel ih =>
    unfold run
    cases hadvance : r.advance? i with
    | none => exact .refl r
    | some r' =>
      have hruns := runs_advance h hadvance
      exact hruns.trans (ih (h.of_runs hruns))

theorem runs_wake (h : r.NeverCrashes) (i : Nat) : r.Runs (r.wake i) := by
  have hruns : r.Runs (r.update (r.session.wake i)) := runs_update (r.session.runs_wake i)
  exact hruns.trans (runs_run (h.of_runs hruns) _ i)

theorem runs_wakeAll (h : r.NeverCrashes) : r.Runs r.wakeAll :=
  Runs.foldl id (fun _ i hruns => runs_wake (h.of_runs hruns) i) _

/-! ## Operations -/

theorem runs_endSession (h : r.NeverCrashes) : r.Runs r.endSession := by
  let r₁ := { r.update r.session.shutDown with isLive := false }
  have hruns : r.Runs r₁ :=
    (runs_update r.session.runs_shutDown).trans (.of_quiet rfl rfl fun _ => rfl)
  show r.Runs (if r₁.isSelfDriven then r₁.wakeAll else r₁)
  by_cases hdriven : r₁.isSelfDriven = true
  · rw [if_pos hdriven]
    exact hruns.trans (runs_wakeAll (h.of_runs hruns))
  · rw [if_neg hdriven]
    exact hruns

theorem runs_submitNumbered (channel : UInt32) (intervalUs gop : Int) (wakes : Bool)
    (state : Recorder × List (Int × SubmitError)) (number : Int) (h : state.1.NeverCrashes) :
    state.1.Runs (submitNumbered channel intervalUs gop wakes state number).1 := by
  obtain ⟨r, refusals⟩ := state
  unfold submitNumbered
  simp only
  split
  · exact (r.runs_act _).trans (runs_wake (h.of_runs (r.runs_act _)) _)
  · exact r.runs_act _

theorem runs_meanwhile (h : r.NeverCrashes) (i : Nat) (stops : Bool) :
    r.Runs (r.meanwhile i stops) := by
  cases stops with
  | true => exact r.runs_act .stop
  | false => exact runs_wake h i

theorem runs_submitWaiting (h : r.NeverCrashes) (channel : UInt32) (frame : Frame) (stops : Bool) :
    r.Runs (r.submitWaiting channel frame stops).2 := by
  unfold submitWaiting
  cases hi : r.session.indexOf? channel with
  | none => exact .refl r
  | some i =>
    have hact := r.runs_act (.video channel frame)
    simp only
    split
    · -- the frame is refused, and offered again after the other side has acted
      rename_i r₁ hrefused
      rw [hrefused] at hact
      have hwaits := hact.trans (runs_meanwhile (h.of_runs hact) i stops)
      let r₂ := r₁.meanwhile i stops
      have hoffers : r.Runs (r₂.submitted (r₂.session.submitTo i (·.offer .video frame false))).2 :=
        hwaits.trans (runs_submitted fun made h => Session.runs_retry h)
      exact hoffers.trans (runs_wake (h.of_runs hoffers) i)
    · rename_i answer r₁ _ hanswer
      rw [hanswer] at hact
      have hwaits := hact.trans (runs_meanwhile (h.of_runs hact) i stops)
      exact hwaits.trans (runs_wake (h.of_runs hwaits) i)

theorem runs_takeKeyFrameRequest (r : Recorder) (channel : UInt32) :
    r.Runs (r.takeKeyFrameRequest channel).2 := by
  unfold takeKeyFrameRequest
  cases r.host.camera with
  | none => exact .refl r
  | some camera => exact .of_quiet rfl rfl fun _ => rfl

theorem runs_produceVideoFrame (handle : StreamHandle) (video : VideoParams) (r : Recorder)
    (number : Nat) : r.Runs (produceVideoFrame handle video r number) := by
  unfold produceVideoFrame
  by_cases hgroup : SyntheticCamera.beginsGroup video number = true
  · simp only [hgroup, if_true]
    exact r.runs_act _
  · simp only [hgroup]
    exact (r.runs_takeKeyFrameRequest _).trans (runs_act _ _)

/-- **All that an operation does to a stream is a run of it.** -/
theorem runs_perform (h : r.NeverCrashes) (op : Operation) : r.Runs (r.perform op).2 := by
  cases op with
  | act action => exact r.runs_act action
  | wake stream => exact runs_wake h stream
  | wakeAll => exact runs_wakeAll h
  | stats => exact .refl r
  | destroy | drop =>
    by_cases hlive : r.isLive = true
    · simp only [perform, hlive, if_true]
      exact runs_endSession h
    · simp only [perform, hlive]
      exact .refl r
  | frames channel first last intervalUs gop wakes =>
    refine Runs.foldl (x := (r, [])) Prod.fst (fun state number hruns => ?_) _
    exact runs_submitNumbered _ _ _ _ state number (h.of_runs hruns)
  | wait channel frame stops => exact runs_submitWaiting h channel frame stops
  | produceVideo stream spanUs =>
    cases hs : r.session.stream? stream with
    | none =>
      simp only [perform, hs]
      exact .refl r
    | some s =>
      simp only [perform, hs]
      exact Runs.foldl id (fun r number _ => runs_produceVideoFrame _ _ r number) _
  | produceAudio stream spanUs =>
    cases haudio : (r.session.stream? stream).bind (·.config.audio) with
    | none =>
      simp only [perform, haudio]
      exact .refl r
    | some audio =>
      simp only [perform, haudio]
      exact Runs.foldl id (fun r number _ => r.runs_act _) _
  | takeKeyFrameRequest channel => exact r.runs_takeKeyFrameRequest channel

theorem runs_operate (h : r.NeverCrashes) (op : Operation) : r.Runs (r.operate op).2 := by
  have hruns := runs_perform h op
  unfold operate
  by_cases hdriven : (r.perform op).2.isSelfDriven = true
  · simp only [hdriven, if_true]
    have hwoken := hruns.trans (runs_wakeAll (h.of_runs hruns))
    exact hwoken.trans (runs_wakeAll (h.of_runs hwoken))
  · simp only [hdriven]
    exact hruns

/-- **Whatever is done to a recorder, each stream runs**, and the record tells what happened. -/
theorem runs_operations (h : r.NeverCrashes) (ops : List Operation) :
    r.Runs (ops.foldl (fun r op => (r.operate op).2) r) :=
  Runs.foldl id (fun _ op hruns => runs_operate (h.of_runs hruns) op) ops

/-! ## Filming -/

theorem runs_shoot (r : Recorder) (shot : Shot) : r.Runs (r.shoot shot) := by
  cases shot with
  | video stream number =>
    cases hs : r.session.stream? stream with
    | none =>
      simp only [shoot, hs]
      exact .refl r
    | some s =>
      simp only [shoot, hs]
      exact runs_produceVideoFrame _ _ r number
  | audio number =>
    cases haudio : r.audioTrack? with
    | none =>
      simp only [shoot, haudio]
      exact .refl r
    | some audio =>
      simp only [shoot, haudio]
      exact r.runs_act _

theorem runs_film (h : r.NeverCrashes) (spanUs : Nat) : r.Runs (r.film spanUs) := by
  refine Runs.foldl id (fun r' shot hruns => ?_) _
  have hshot := hruns.trans (runs_shoot r' shot)
  exact (runs_shoot r' shot).trans (runs_wakeAll (h.of_runs hshot))

end Recorder

end CameraRecorder

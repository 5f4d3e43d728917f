import CameraRecorder.Proofs.Recorder.Alike
import CameraRecorder.Proofs.Session.Channels

/-!
# Streams are independent

What is done with one stream of a session depends on nothing but the operations that concern it
(`Operation.concerns`) and the failures of its own calls: whatever else is submitted to the other
streams, however they are woken and fail, and however this is interleaved, the stream takes and
refuses the same frames, its writer is called in the same way, and the same events are told of it
(`Recorder.streams_independent`). Only the names of its files may differ.

The writers are silent, the application does nothing during calls, and there is a name for every
file. The proof is an unwinding: operations that concern the stream keep two recorders alike for it,
and any other operation leaves a recorder like itself.
-/

namespace CameraRecorder

namespace Operation

/-- An operation is for one stream alone, the one of a number, which reads a channel. -/
def isFor (channel : UInt32) (b : Nat) : Operation → Bool
  | .act (.video c _) | .frames c .. | .wait c .. => c = channel
  | .act (.audioTo i _) | .act (.thumbnailTo i _) | .wake i | .produceVideo i _ => i = b
  | _ => false

/-- An operation is for all streams at once. -/
def isShared : Operation → Bool
  | .act .start | .act .stop | .act (.audio _) | .act (.thumbnail _) => true
  | .wakeAll | .destroy | .drop | .produceAudio .. => true
  | .wait _ _ stops => stops
  | _ => false

/-- An operation concerns the stream of a number, which reads a channel. -/
def concerns (channel : UInt32) (b : Nat) (op : Operation) : Bool :=
  op.isFor channel b || op.isShared

end Operation

/-- What a producer is answered. -/
def Answer.ofSubmission {α : Type} : Except SubmitError α → Answer
  | .ok _ => .done
  | .error cause => .refused cause

theorem Answer.ofSubmission_map {α β : Type} (f : α → β) (made : Except SubmitError α) :
    ofSubmission (made.map f) = ofSubmission made := by
  cases made <;> rfl

/-- A session with silent writers was made with usable settings. -/
theorem Session.eq_assemble_of_create {config : SessionConfig} {disk : Disk} {session : Session}
    (h : create config (fun _ => .ok .silent) disk = .ok session) :
    config.validate = .ok () ∧ session = assemble config (fun _ => .silent) disk :=
  assembled_of_create h

theorem Session.cast_assemble (config : SessionConfig) (writer : StreamConfig → Writer)
    (disk : Disk) : (assemble config writer disk).cast = config.streams.mapIdx fun index stream =>
      (⟨config.cameraId, index, stream.channelId⟩, stream, writer stream) := by
  refine List.ext_getElem (by simp [cast, assemble]) fun i hlt hlt' => ?_
  simp only [cast, assemble, List.getElem_map, List.getElem_mapIdx]
  rfl

namespace Recorder

variable {r r₁ r₂ : Recorder} {cast : Session.Cast} {channel : UInt32} {i b : Nat}

/-! ## Submissions -/

theorem fst_submitted (r : Recorder) (change : Except SubmitError (Session × Session.Entries)) :
    (r.submitted change).1 = Answer.ofSubmission change := by
  cases change <;> rfl

/-- A frame for the stream is taken by both, or refused by both for the same cause. -/
theorem Alike.answer_offer (h : Alike cast b r₁ r₂) (kind : LaneKind) (frame : Frame)
    (mayDrop : Stream → Bool) (hdrop : ∀ s : Stream, mayDrop s.nameless = mayDrop s) :
    (r₁.submitted (r₁.session.submitTo b fun s => s.offer kind frame (mayDrop s))).1
      = (r₂.submitted (r₂.session.submitTo b fun s => s.offer kind frame (mayDrop s))).1 := by
  have hsame (s : Stream) : Answer.ofSubmission (s.offer kind frame (mayDrop s))
      = Answer.ofSubmission (s.nameless.offer kind frame (mayDrop s.nameless)) := by
    rw [hdrop, Stream.offer_nameless, Answer.ofSubmission_map]
  rw [fst_submitted, fst_submitted]
  cases hb : r₁.session.stream? b with
  | none => simp only [Session.submitTo, hb, h.stream?_eq_none hb]
  | some stream =>
    obtain ⟨stream', hb', hstream, -⟩ := h.exists_stream hb
    simp only [Session.submitTo, hb, hb', Answer.ofSubmission_map]
    rw [hsame stream, hstream, ← hsame stream']

theorem Alike.answer_submit (h : Alike cast b r₁ r₂) (kind : LaneKind) (frame : Frame) :
    (r₁.submitted (r₁.session.submitTo b (·.submit kind frame))).1
      = (r₂.submitted (r₂.session.submitTo b (·.submit kind frame))).1 :=
  h.answer_offer kind frame (·.config.pools.dropNonKeyOnOverflow) fun _ => rfl

theorem Alike.answer_video (h : Alike cast b r₁ r₂) (hown : cast.indexOf? channel = some b)
    (frame : Frame) : (r₁.act (.video channel frame)).1 = (r₂.act (.video channel frame)).1 := by
  simp only [act, Session.submitVideo, h.left.indexOf?_eq, h.right.indexOf?_eq, hown]
  exact h.answer_submit .video frame

theorem Alike.submitTo (h : Alike cast b r₁ r₂)
    {submit : Stream → Except SubmitError (Stream × List Entry)} {m : Stream.Move}
    (hmove : ∀ stream : Stream, stream.submitted (submit stream) = stream.move m) (i : Nat) :
    Alike cast b (r₁.submitted (r₁.session.submitTo i submit)).2
      (r₂.submitted (r₂.session.submitTo i submit)).2 :=
  h.does (h.left.does_submitTo hmove i b) (h.right.does_submitTo hmove i b)

/-! ## Series of frames -/

/-- The frame of a number in a series. -/
def frameOf (intervalUs gop number : Int) : Frame where
  data := bigEndian 4 (UInt32.ofInt number).toNat
  pts := .ofInt (number * intervalUs)
  isKey := number % gop = 0

/-- A refusal is noted in front of the earlier ones. -/
def noteRefusal (number : Int) (refusals : List (Int × SubmitError)) :
    Answer → List (Int × SubmitError)
  | .refused cause => (number, cause) :: refusals
  | _ => refusals

/-- The worker that reads a channel is woken, if that is wanted. -/
def wakeReader (r : Recorder) (channel : UInt32) (wakes : Bool) : Recorder :=
  (if wakes then r.session.indexOf? channel else none).elim r r.wake

theorem submitNumbered_eq (channel : UInt32) (intervalUs gop : Int) (wakes : Bool)
    (state : Recorder × List (Int × SubmitError)) (number : Int) :
    submitNumbered channel intervalUs gop wakes state number =
      let made := state.1.act (.video channel (frameOf intervalUs gop number))
      (made.2.wakeReader channel wakes, noteRefusal number state.2 made.1) := by
  unfold submitNumbered wakeReader
  simp only [frameOf]
  split
  · rename_i i hreader
    rw [hreader]
    rfl
  · rename_i hreader
    rw [hreader]
    rfl

theorem Alike.wakeReader (h : Alike cast b r₁ r₂) (channel : UInt32) (wakes : Bool) :
    Alike cast b (r₁.wakeReader channel wakes) (r₂.wakeReader channel wakes) := by
  unfold Recorder.wakeReader
  rw [h.left.indexOf?_eq, h.right.indexOf?_eq]
  cases (if wakes then cast.indexOf? channel else none) with
  | none => exact h
  | some i => exact h.wake i

/-- The next frame of a series leaves both alike. -/
theorem Alike.submitNumbered {x y : Recorder × List (Int × SubmitError)}
    (h : Alike cast b x.1 y.1) (channel : UInt32) (intervalUs gop : Int) (wakes : Bool)
    (number : Int) :
    Alike cast b (Recorder.submitNumbered channel intervalUs gop wakes x number).1
      (Recorder.submitNumbered channel intervalUs gop wakes y number).1 := by
  rw [submitNumbered_eq, submitNumbered_eq]
  exact (h.acted _).wakeReader channel wakes

/-- If the series is for the stream, the next frame is refused in both or in none. -/
theorem Alike.refusals_submitNumbered {x y : Recorder × List (Int × SubmitError)}
    (h : Alike cast b x.1 y.1) (hsame : x.2 = y.2) (hown : cast.indexOf? channel = some b)
    (intervalUs gop : Int) (wakes : Bool) (number : Int) :
    (Recorder.submitNumbered channel intervalUs gop wakes x number).2
      = (Recorder.submitNumbered channel intervalUs gop wakes y number).2 := by
  simp only [submitNumbered_eq, h.answer_video hown (frameOf intervalUs gop number), hsame]

/-- Of a series of frames for the stream, the same are refused in both. -/
theorem Alike.refusals (h : Alike cast b r₁ r₂) (hown : cast.indexOf? channel = some b)
    (intervalUs gop : Int) (wakes : Bool) (numbers : List Int) :
    (numbers.foldl (Recorder.submitNumbered channel intervalUs gop wakes) (r₁, [])).2
      = (numbers.foldl (Recorder.submitNumbered channel intervalUs gop wakes) (r₂, [])).2 := by
  let submit := Recorder.submitNumbered channel intervalUs gop wakes
  have hfolded : Alike cast b (numbers.foldl submit (r₁, [])).1 (numbers.foldl submit (r₂, [])).1 ∧
      (numbers.foldl submit (r₁, [])).2 = (numbers.foldl submit (r₂, [])).2 :=
    List.foldl_rel
      (r := fun x y : Recorder × List (Int × SubmitError) => Alike cast b x.1 y.1 ∧ x.2 = y.2)
      ⟨h, rfl⟩ fun number _ x y hxy =>
        ⟨hxy.1.submitNumbered channel intervalUs gop wakes number,
          hxy.1.refusals_submitNumbered hxy.2 hown intervalUs gop wakes number⟩
  exact hfolded.2

/-! ## Frames that may have to wait -/

theorem Alike.meanwhile (h : Alike cast b r₁ r₂) (i : Nat) (stops : Bool) :
    Alike cast b (r₁.meanwhile i stops) (r₂.meanwhile i stops) := by
  cases stops with
  | true => exact h.acted .stop
  | false => exact h.wake i

/-- A frame for the stream that may have to wait fares alike in both. -/
theorem Alike.submitWaiting (h : Alike cast b r₁ r₂) (hown : cast.indexOf? channel = some b)
    (frame : Frame) (stops : Bool) :
    (r₁.submitWaiting channel frame stops).1 = (r₂.submitWaiting channel frame stops).1 ∧
      Alike cast b (r₁.submitWaiting channel frame stops).2
        (r₂.submitWaiting channel frame stops).2 := by
  have hanswer := h.answer_video hown frame
  have hacted := h.acted (.video channel frame)
  unfold Recorder.submitWaiting
  rw [h.left.indexOf?_eq, h.right.indexOf?_eq, hown]
  generalize r₁.act (.video channel frame) = made₁ at hanswer hacted
  generalize r₂.act (.video channel frame) = made₂ at hanswer hacted
  obtain ⟨answer, r₁'⟩ := made₁
  obtain ⟨answer', r₂'⟩ := made₂
  obtain rfl : answer = answer' := hanswer
  have hwaited := hacted.meanwhile b stops
  cases answer with
  | refused cause =>
    cases cause with
    | poolExhausted =>
      have hoffered := hwaited.submitTo (m := .retry .video frame) (fun _ => rfl) b
      exact ⟨hwaited.answer_offer .video frame (fun _ => false) fun _ => rfl, hoffered.wake b⟩
    | _ => exact ⟨rfl, hwaited.wake b⟩
  | _ => exact ⟨rfl, hwaited.wake b⟩

/-! ## What is submitted to other streams -/

theorem Quiet.act_other (h : r.Quiet cast) {action : Action}
    (hother : done r.isLive cast b action = Stream.rest) : Alike cast b r (r.act action).2 := by
  have hdoes := h.does_act action b
  rw [hother] at hdoes
  exact hdoes.alike h

theorem Quiet.video_other (h : r.Quiet cast) (hother : cast.indexOf? channel ≠ some b)
    (frame : Frame) : Alike cast b r (r.act (.video channel frame)).2 :=
  h.act_other (if_neg hother)

theorem Quiet.submitTo_other (h : r.Quiet cast)
    {submit : Stream → Except SubmitError (Stream × List Entry)} {m : Stream.Move}
    (hmove : ∀ stream : Stream, stream.submitted (submit stream) = stream.move m) (hib : i ≠ b) :
    Alike cast b r (r.submitted (r.session.submitTo i submit)).2 := by
  have hdoes := h.does_submitTo hmove i b
  rw [if_neg hib] at hdoes
  exact hdoes.alike h

theorem Quiet.wakeReader_other (h : r.Quiet cast) (hother : cast.indexOf? channel ≠ some b)
    (wakes : Bool) : Alike cast b r (r.wakeReader channel wakes) := by
  unfold Recorder.wakeReader
  rw [h.indexOf?_eq]
  cases wakes with
  | false => exact h.alike b
  | true =>
    cases hi : cast.indexOf? channel with
    | none => exact h.alike b
    | some i => exact h.wake_other fun hib => hother (hi.trans (congrArg some hib))

/-- A frame for another stream that may have to wait is not seen, only the stop meanwhile. -/
theorem Quiet.submitWaiting_other (h : r.Quiet cast) (hi : cast.indexOf? channel = some i)
    (hib : i ≠ b) (frame : Frame) (stops : Bool) :
    Alike cast b (if stops then (r.act .stop).2 else r)
      (r.submitWaiting channel frame stops).2 := by
  have hother : cast.indexOf? channel ≠ some b := fun hb => hib (Option.some.inj (hi.symm.trans hb))
  have hacted := h.video_other hother frame
  unfold Recorder.submitWaiting
  rw [h.indexOf?_eq, hi]
  generalize r.act (.video channel frame) = made at hacted
  obtain ⟨answer, r'⟩ := made
  have hwaited : Alike cast b (if stops then (r.act .stop).2 else r) (r'.meanwhile i stops) := by
    cases stops with
    | true => exact hacted.acted .stop
    | false => exact hacted.trans (hacted.right.wake_other hib)
  have hwoken := hwaited.trans (hwaited.right.wake_other hib)
  cases answer with
  | refused cause =>
    cases cause with
    | poolExhausted =>
      have hoffered := hwaited.trans
        (hwaited.right.submitTo_other (m := .retry .video frame) (fun _ => rfl) hib)
      exact hoffered.trans (hoffered.right.wake_other hib)
    | _ => exact hwoken
  | _ => exact hwoken

theorem Alike.submitWaiting_any (h : Alike cast b r₁ r₂) (channel : UInt32) (frame : Frame)
    (stops : Bool) :
    Alike cast b (r₁.submitWaiting channel frame stops).2
      (r₂.submitWaiting channel frame stops).2 := by
  cases hi : cast.indexOf? channel with
  | none =>
    simp only [Recorder.submitWaiting, h.left.indexOf?_eq, h.right.indexOf?_eq, hi]
    exact h
  | some i =>
    by_cases hib : i = b
    · subst hib
      exact (h.submitWaiting hi frame stops).2
    · have hstopped : Alike cast b (if stops then (r₁.act .stop).2 else r₁)
          (if stops then (r₂.act .stop).2 else r₂) := by
        cases stops with
        | true => exact h.acted .stop
        | false => exact h
      exact hstopped.apart (h.left.submitWaiting_other hi hib frame stops)
        (h.right.submitWaiting_other hi hib frame stops)

/-! ## Frames of the camera -/

theorem Quiet.takeKeyFrameRequest_eq (h : r.Quiet cast) (channel : UInt32) :
    r.takeKeyFrameRequest channel = (false, r) := by
  simp only [Recorder.takeKeyFrameRequest, h.camera]

theorem Quiet.produceVideoFrame_eq (h : r.Quiet cast) (handle : StreamHandle)
    (video : VideoParams) (number : Nat) :
    produceVideoFrame handle video r number =
      (r.act (.video handle.channelId {
        data := SyntheticCamera.accessUnit number (SyntheticCamera.beginsGroup video number)
        pts := SyntheticCamera.ptsOf number video.frameIntervalUs
        isKey := SyntheticCamera.beginsGroup video number })).2 := by
  unfold produceVideoFrame
  rw [h.takeKeyFrameRequest_eq]
  cases SyntheticCamera.beginsGroup video number <;> rfl

theorem Quiet.audio (h : r.Quiet cast) (i : Nat) :
    (r.session.stream? i).bind (·.config.audio) = cast[i]?.bind (·.2.1.audio) := by
  have haudio := congrArg (Option.bind · (·.2.audio)) (h.member i)
  simpa only [Option.bind_map, Function.comp_def] using haudio

theorem Quiet.perform_produceVideo (h : r.Quiet cast) (i spanUs : Nat) :
    r.perform (.produceVideo i spanUs) =
      match cast[i]? with
      | none => (.count 0, r)
      | some (handle, config, _) =>
        let count := SyntheticCamera.framesWithin spanUs config.video.frameIntervalUs
        (.count count, (List.range count).foldl (produceVideoFrame handle config.video) r) := by
  have hmember := h.member i
  simp only [Recorder.perform]
  cases hi : r.session.stream? i <;> cases hcast : cast[i]? <;>
    simp only [hi, hcast, Option.map_some, Option.map_none, reduceCtorEq, Option.some.injEq,
      Prod.mk.injEq] at hmember ⊢
  obtain ⟨hhandle, hconfig⟩ := hmember
  rw [hhandle, hconfig]
  exact ⟨rfl, rfl⟩

/-! ## Operations -/

theorem Quiet.ended (h : r.Quiet cast) : ({ r with isLive := false } : Recorder).Quiet cast :=
  ⟨h.members, h.silent, h.channels, h.slots, h.names, h.camera, h.answers, h.hooks, h.selfDriven⟩

theorem Alike.endSession (h : Alike cast b r₁ r₂) : Alike cast b r₁.endSession r₂.endSession := by
  have hdoes (r : Recorder) (hr : r.Quiet cast) :
      r.Does cast b (·.move .shutDown) (r.update r.session.shutDown) :=
    hr.does_update (Session.does_move_onStreams r.session b .shutDown) (Stream.respects_move _)
  have hended (r : Recorder) (hr : r.Quiet cast) :
      r.endSession = { r.update r.session.shutDown with isLive := false } :=
    if_neg (by simpa [update, note] using hr.selfDriven)
  have hshut := h.does (hdoes r₁ h.left) (hdoes r₂ h.right)
  rw [hended r₁ h.left, hended r₂ h.right]
  exact ⟨hshut.left.ended, hshut.right.ended, rfl, hshut.view⟩

/-- **Two recorders stay alike under the same operation.** -/
theorem Alike.perform (h : Alike cast b r₁ r₂) (op : Operation) :
    Alike cast b (r₁.perform op).2 (r₂.perform op).2 := by
  cases op with
  | act action => exact h.acted action
  | wake i => exact h.wake i
  | wakeAll => exact h.wakeAll
  | stats => exact h
  | destroy | drop =>
    simp only [Recorder.perform, ← h.live]
    by_cases hlive : r₁.isLive = true
    · simp only [hlive, if_true]
      exact h.endSession
    · simp only [hlive]
      exact h
  | frames channel first last intervalUs gop wakes =>
    exact List.foldl_rel (r := fun x y : Recorder × _ => Alike cast b x.1 y.1) h
      fun number _ x y hxy => hxy.submitNumbered channel intervalUs gop wakes number
  | wait channel frame stops => exact h.submitWaiting_any channel frame stops
  | produceVideo i spanUs =>
    rw [h.left.perform_produceVideo, h.right.perform_produceVideo]
    cases cast[i]? with
    | none => exact h
    | some member =>
      refine List.foldl_rel h fun number _ x y hxy => ?_
      rw [hxy.left.produceVideoFrame_eq, hxy.right.produceVideoFrame_eq]
      exact hxy.acted _
  | produceAudio i spanUs =>
    simp only [Recorder.perform, h.left.audio, h.right.audio]
    cases cast[i]?.bind (·.2.1.audio) with
    | none => exact h
    | some audio => exact List.foldl_rel h fun number _ x y hxy => hxy.acted _
  | takeKeyFrameRequest channel =>
    simp only [Recorder.perform, h.left.takeKeyFrameRequest_eq, h.right.takeKeyFrameRequest_eq]
    exact h

/-- An operation for the stream alone is answered alike in both. -/
theorem Alike.answer_perform (h : Alike cast b r₁ r₂) (hown : cast.indexOf? channel = some b)
    {op : Operation} (hfor : op.isFor channel b = true) :
    (r₁.perform op).1 = (r₂.perform op).1 := by
  cases op with
  | act action =>
    cases action with
    | video channel' frame =>
      obtain rfl : channel' = channel := by simpa [Operation.isFor] using hfor
      exact h.answer_video hown frame
    | audioTo i frame | thumbnailTo i frame =>
      obtain rfl : i = b := by simpa [Operation.isFor] using hfor
      exact h.answer_submit _ frame
    | _ => cases hfor
  | wake i =>
    obtain rfl : i = b := by simpa [Operation.isFor] using hfor
    have hwoken := h.wake i
    simp only [Recorder.perform]
    cases hi : (r₁.wake i).session.stream? i with
    | none => rw [hwoken.stream?_eq_none hi]
    | some stream =>
      obtain ⟨stream', hi', hsame, -⟩ := hwoken.exists_stream hi
      simp only [hi']
      rw [← stream.phase_nameless, hsame, stream'.phase_nameless]
  | frames channel' first last intervalUs gop wakes =>
    obtain rfl : channel' = channel := by simpa [Operation.isFor] using hfor
    exact congrArg (fun refusals => Answer.refusals refusals.reverse)
      (h.refusals hown intervalUs gop wakes _)
  | wait channel' frame stops =>
    obtain rfl : channel' = channel := by simpa [Operation.isFor] using hfor
    exact (h.submitWaiting hown frame stops).1
  | produceVideo i spanUs =>
    rw [h.left.perform_produceVideo, h.right.perform_produceVideo]
    cases cast[i]? <;> rfl
  | _ => cases hfor

/-- **An operation that does not concern the stream is not seen.** -/
theorem Quiet.perform_other (h : r.Quiet cast) (hown : cast.indexOf? channel = some b)
    {op : Operation} (hother : op.concerns channel b = false) :
    Alike cast b r (r.perform op).2 := by
  obtain ⟨hfor, hshared⟩ := Bool.or_eq_false_iff.mp hother
  cases op with
  | act action =>
    cases action with
    | start | stop | audio | thumbnail => cases hshared
    | video channel' frame =>
      have hne : channel' ≠ channel := by simpa [Operation.isFor] using hfor
      exact h.video_other (Session.Cast.indexOf?_ne hown hne) frame
    | audioTo i frame | thumbnailTo i frame =>
      exact h.act_other (if_neg (by simpa [Operation.isFor] using hfor))
  | wake i => exact h.wake_other (by simpa [Operation.isFor] using hfor)
  | stats => exact h.alike b
  | wakeAll | destroy | drop | produceAudio => cases hshared
  | frames channel' first last intervalUs gop wakes =>
    have hne := Session.Cast.indexOf?_ne hown (by simpa [Operation.isFor] using hfor)
    refine List.foldlRecOn (motive := fun x : Recorder × _ => Alike cast b r x.1) _ _ (h.alike b)
      fun x hx number _ => ?_
    rw [submitNumbered_eq]
    have hacted := hx.trans (hx.right.video_other hne (frameOf intervalUs gop number))
    exact hacted.trans (hacted.right.wakeReader_other hne wakes)
  | wait channel' frame stops =>
    have hne := Session.Cast.indexOf?_ne hown (by simpa [Operation.isFor] using hfor)
    obtain rfl : stops = false := hshared
    cases hi : cast.indexOf? channel' with
    | none =>
      simp only [Recorder.perform, Recorder.submitWaiting, h.indexOf?_eq, hi]
      exact h.alike b
    | some i =>
      have hib : i ≠ b := fun hib => hne (hi.trans (congrArg some hib))
      exact h.submitWaiting_other hi hib frame false
  | produceVideo i spanUs =>
    have hib : i ≠ b := by simpa [Operation.isFor] using hfor
    rw [h.perform_produceVideo]
    cases hi : cast[i]? with
    | none => exact h.alike b
    | some member =>
      have hne : cast.indexOf? member.1.channelId ≠ some b := by
        rw [Session.Cast.indexOf?_eq_some h.channels hi]
        exact fun hb => hib (Option.some.inj hb)
      refine List.foldlRecOn (motive := fun x => Alike cast b r x) _ _ (h.alike b)
        fun x hx number _ => ?_
      rw [hx.right.produceVideoFrame_eq]
      exact hx.trans (hx.right.video_other hne _)
  | takeKeyFrameRequest channel' =>
    simp only [Recorder.perform, h.takeKeyFrameRequest_eq]
    exact h.alike b

/-! ## Series of operations -/

theorem Quiet.operate_eq (h : r.Quiet cast) (op : Operation) : r.operate op = r.perform op := by
  have hdriven : (r.perform op).2.isSelfDriven = false := ((h.alike 0).perform op).left.selfDriven
  simp only [operate, hdriven, Bool.false_eq_true, if_false]

/-- What is seen of a stream at a moment, names of files aside: what was answered last, if that was
for the stream alone; the stream with its lanes and its worker; its counts; and all that was told of
it so far, of its frames, the calls of its worker and its events. -/
structure Glimpse where
  answer : Option Answer
  stream : Option Stream
  stats : Option StreamStats
  told : List Entry
deriving DecidableEq, Repr

def glimpse (r : Recorder) (b : Nat) (answer : Option Answer) : Glimpse where
  answer := answer
  stream := (r.session.stream? b).map Stream.nameless
  stats := (r.session.stream? b).map Stream.stats
  told := (r.told b).filterMap Entry.nameless?

/-- What is seen of a stream in the course of a series of operations: after each one that concerns
it, and at the end. -/
def glimpses (channel : UInt32) (b : Nat) : Recorder → List Operation → List Glimpse
  | r, [] => [r.glimpse b none]
  | r, op :: ops =>
    let (answer, r) := r.operate op
    let seen :=
      if op.concerns channel b then
        [r.glimpse b (if op.isFor channel b then some answer else none)]
      else []
    seen ++ glimpses channel b r ops

theorem Alike.glimpse (h : Alike cast b r₁ r₂) (hown : cast.indexOf? channel = some b)
    (answer : Option Answer) : r₁.glimpse b answer = r₂.glimpse b answer := by
  have hmember := h.left.member b
  obtain ⟨hlt, -⟩ := List.findIdx?_eq_some_iff_getElem.mp hown
  rw [List.getElem?_eq_getElem hlt, Option.map_some] at hmember
  obtain ⟨stream, hb, -⟩ := Option.map_eq_some_iff.mp hmember
  obtain ⟨stream', hb', hsame, htold, -⟩ := h.exists_stream hb
  have hstats : stream.stats = stream'.stats :=
    show stream.nameless.stats = stream'.nameless.stats by rw [hsame]
  simp only [Recorder.glimpse, hb, hb', Option.map_some, hsame, hstats, htold]

/-- The operations that do not concern a stream can be left out. -/
theorem Alike.glimpses_filter (h : Alike cast b r₁ r₂) (hown : cast.indexOf? channel = some b)
    (ops : List Operation) :
    glimpses channel b r₁ ops = glimpses channel b r₂ (ops.filter (·.concerns channel b)) := by
  induction ops generalizing r₁ r₂ with
  | nil => exact congrArg (fun seen => [seen]) (h.glimpse hown none)
  | cons op ops ih =>
    cases hop : op.concerns channel b with
    | false =>
      rw [List.filter_cons_of_neg (by simp [hop])]
      simp only [glimpses, hop, h.left.operate_eq, Bool.false_eq_true, if_false, List.nil_append]
      exact ih ((h.left.perform_other hown hop).symm.trans h)
    | true =>
      have hperformed := h.perform op
      rw [List.filter_cons_of_pos hop]
      simp only [glimpses, hop, h.left.operate_eq, h.right.operate_eq, if_true, ih hperformed]
      congr 2
      cases hfor : op.isFor channel b with
      | false => exact hperformed.glimpse hown none
      | true =>
        simp only [if_true, h.answer_perform hown hfor]
        exact hperformed.glimpse hown _

/-! ## New recorders -/

/-- A source that names every file when it runs out of full batches names every file. -/
theorem supplies_script {s : NameScript} {cameraId : UInt32} {count : Nat}
    (hfull : ∀ batch ∈ s.batches, ∃ paths, batch = .ok paths ∧ count ≤ paths.length) (n : Nat) :
    Session.Supplies NameSource.request cameraId count n (.script s) := by
  induction n generalizing s with
  | zero => exact trivial
  | succ n ih =>
    obtain ⟨batches, asked⟩ := s
    cases batches with
    | nil => exact ⟨_, rfl, by simp [NameScript.numbered], ih hfull⟩
    | cons batch batches =>
      obtain ⟨paths, rfl, hlength⟩ := hfull batch List.mem_cons_self
      exact ⟨paths, rfl, hlength, ih fun other hmem => hfull other (List.mem_cons_of_mem _ hmem)⟩

/-- Nothing interferes at a new recorder with names for every file. -/
theorem quiet_of_create {config : SessionConfig} {disk : Disk} {session : Session}
    (hcreated : Session.create config (fun _ => .ok .silent) disk = .ok session)
    {names : NameSource} (failures : List Failure)
    (hnames : ∀ n, Session.Supplies NameSource.request config.cameraId config.streams.length n
      names) :
    ({ session, host := { names, failures } } : Recorder).Quiet session.cast := by
  obtain ⟨hvalid, rfl⟩ := Session.eq_assemble_of_create hcreated
  have hchannels : ((Session.assemble config (fun _ => .silent) disk).cast.map (·.1.channelId))
      = config.streams.map (·.channelId) := by
    rw [Session.cast_assemble]
    exact List.ext_getElem (by simp) (by simp)
  exact {
    members := rfl
    silent := by
      rw [Session.Silent, Session.cast_assemble]
      intro member hmember
      obtain ⟨index, _, rfl⟩ := List.mem_mapIdx.mp hmember
      rfl
    channels := by
      rw [hchannels]
      exact (SessionConfig.validate_eq_ok_iff.mp hvalid).channels
    slots := by simp [Session.assemble, NameCache.create, Session.cast]
    names := by simpa [Session.assemble, NameCache.create] using hnames
    camera := rfl
    answers := rfl
    hooks := rfl
    selfDriven := rfl }

/-- **Streams are independent.** In a session with usable settings and silent writers, what is seen
of one stream depends on nothing but the operations that concern it and the failures of its own
calls: the frames for it are taken or refused in the same way, its worker makes the same calls with
the same results, the same events and counts are told of it, and it is in the same state after each
of these operations and at the end. The other streams may be fed, woken and struck by failures in
any way and at any moment; and whoever gives names may give any, if they suffice. -/
theorem streams_independent {config : SessionConfig} {disk : Disk} {session : Session}
    (hcreated : Session.create config (fun _ => .ok .silent) disk = .ok session)
    {b : Nat} {stream : StreamConfig} (hb : config.streams[b]? = some stream)
    {names₁ names₂ : NameSource}
    (hnames₁ : ∀ n, Session.Supplies NameSource.request config.cameraId config.streams.length n
      names₁)
    (hnames₂ : ∀ n, Session.Supplies NameSource.request config.cameraId config.streams.length n
      names₂)
    {failures₁ failures₂ : List Failure}
    (hfailures : failures₁.filter (·.stream = b) = failures₂.filter (·.stream = b))
    {ops₁ ops₂ : List Operation}
    (hops : ops₁.filter (·.concerns stream.channelId b)
      = ops₂.filter (·.concerns stream.channelId b)) :
    glimpses stream.channelId b { session, host := { names := names₁, failures := failures₁ } } ops₁
      = glimpses stream.channelId b { session, host := { names := names₂, failures := failures₂ } }
          ops₂ := by
  have h₁ := quiet_of_create hcreated failures₁ hnames₁
  have h₂ := quiet_of_create hcreated failures₂ hnames₂
  have hown : session.cast.indexOf? stream.channelId = some b := by
    have hmember : session.cast[b]?
        = some (⟨config.cameraId, b, stream.channelId⟩, stream, .silent) := by
      obtain ⟨-, rfl⟩ := Session.eq_assemble_of_create hcreated
      rw [Session.cast_assemble, List.getElem?_mapIdx, hb]
      rfl
    exact Session.Cast.indexOf?_eq_some h₁.channels hmember
  have halike : Alike session.cast b
      { session, host := { names := names₁, failures := failures₁ } }
      { session, host := { names := names₂, failures := failures₂ } } :=
    ⟨h₁, h₂, rfl, by simp only [view, hfailures]; rfl⟩
  rw [halike.glimpses_filter hown, hops, ← (h₂.alike b).glimpses_filter hown]

/-- Two streams whose files are a second long. -/
def pairConfig : SessionConfig :=
  ⟨0, [Stream.secondLong, { Stream.secondLong with name := "b", channelId := 1 }]⟩

/-- A session of the two, with names without end. -/
def pairRecorder (failures : List Failure) : Recorder where
  session := .assemble pairConfig (fun _ => .silent) {}
  host := { names := .script { batches := [] }, failures }

/-- The first stream records a frame, and nothing is done with the other. -/
def aloneOps : List Operation :=
  [.act .start, .act (.video 0 ⟨[1], 0, true⟩), .wake 0, .destroy, .wakeAll]

/-- Meanwhile, frames are submitted to the other stream, and it is woken. -/
def besideOps : List Operation :=
  [.act .start, .act (.video 1 ⟨[2], 0, true⟩), .act (.video 0 ⟨[1], 0, true⟩), .wake 1,
    .act (.thumbnailTo 1 ⟨[3], 0, false⟩), .wake 0, .wait 1 ⟨[4], 5, false⟩ false, .destroy,
    .wakeAll]

/-- The first stream finishes its file, whether or not the writer of the other one crashes. -/
theorem streams_independent_of_crash :
    aloneOps ≠ besideOps ∧
    glimpses 0 0 (pairRecorder []) aloneOps
      = glimpses 0 0 (pairRecorder [⟨1, .init, 0, true⟩]) besideOps ∧
    (((glimpses 0 0 (pairRecorder []) aloneOps).getLast?.bind (·.stats)).map
      (·.filesCompleted)) = some 1 := by
  refine ⟨by decide, ?_, by decide +kernel⟩
  have hcreated : Session.create pairConfig (fun _ => .ok .silent) {}
      = .ok (.assemble pairConfig (fun _ => .silent) {}) := by decide +kernel
  have hfirst : pairConfig.streams[0]? = some Stream.secondLong := rfl
  have hnames (n : Nat) : Session.Supplies NameSource.request pairConfig.cameraId
      pairConfig.streams.length n (.script { batches := [] }) :=
    supplies_script (fun _ hmem => absurd hmem List.not_mem_nil) n
  have hfailures : ([] : List Failure).filter (·.stream = 0)
      = [⟨1, .init, 0, true⟩].filter (·.stream = 0) := by decide
  have hops : aloneOps.filter (·.concerns Stream.secondLong.channelId 0)
      = besideOps.filter (·.concerns Stream.secondLong.channelId 0) := by decide
  exact streams_independent hcreated hfirst hnames hnames hfailures hops

end Recorder

end CameraRecorder

import CameraRecorder.Recorder.Basic

/-!
# Operations on a recorder

What can be done with a recorder from outside: everything that the application may do at any
moment, waking workers, ending the session, and feeding it series of frames.
-/

namespace CameraRecorder

/-- Something done with a recorder. -/
inductive Operation where
  | act (action : Action)
  | wake (stream : Nat)
  | wakeAll
  | stats
  /-- End the session and say how it ended. -/
  | destroy
  /-- End the session without a word. -/
  | drop
  /-- Submit the video frames numbered from `first` up to, but not including, `last`, at a fixed
  interval, with a key frame at each multiple of `gop`. -/
  | frames (channel : UInt32) (first last intervalUs gop : Int) (wakes : Bool)
  /-- Submit a video frame and wait for a free cell, while the stream is stopped or its worker is
  woken. -/
  | wait (channel : UInt32) (frame : Frame) (stops : Bool)
  /-- Submit the video frames that a stream's camera produces within a span. -/
  | produceVideo (stream : Nat) (spanUs : Nat)
  /-- Submit the audio frames that a stream's camera produces within a span. -/
  | produceAudio (stream : Nat) (spanUs : Nat)
  | takeKeyFrameRequest (channel : UInt32)
deriving DecidableEq, Repr

namespace Recorder

/-- Where every worker is. -/
def phases (r : Recorder) : List Phase := r.session.tracks.map (·.stream.phase)

/-- How many workers have crashed. -/
def crashed (r : Recorder) : Nat :=
  r.session.tracks.countP (·.stream.activity = .crashed)

/-- Ends the session: every stream is shut down, and workers that run by themselves finish. -/
def endSession (r : Recorder) : Recorder :=
  let r := { r.update r.session.shutDown with isLive := false }
  if r.isSelfDriven then r.wakeAll else r

/-- How an ended session ended. -/
def verdict (r : Recorder) : Answer :=
  if r.crashed = 0 then .done else .failed (.workersCrashed r.crashed)

/-- Submits one frame of a series and notes a refusal in front of the earlier ones. -/
def submitNumbered (channel : UInt32) (intervalUs gop : Int) (wakes : Bool)
    (state : Recorder × List (Int × SubmitError)) (number : Int) :
    Recorder × List (Int × SubmitError) :=
  let (r, refusals) := state
  let frame : Frame := {
    data := bigEndian 4 (UInt32.ofInt number).toNat
    pts := .ofInt (number * intervalUs)
    isKey := number % gop = 0 }
  let (answer, r) := r.act (.video channel frame)
  let refusals := match answer with
    | .refused cause => (number, cause) :: refusals
    | _ => refusals
  match if wakes then r.session.indexOf? channel else none with
  | some i => (r.wake i, refusals)
  | none => (r, refusals)

/-- Lets the other side act while a producer may be waiting. -/
def meanwhile (r : Recorder) (i : Nat) (stops : Bool) : Recorder :=
  if stops then (r.act .stop).2 else r.wake i

/-- Submits a frame that may have to wait for a cell. A frame that waits is offered again after the
other side has acted, and then drops no other frame. -/
def submitWaiting (r : Recorder) (channel : UInt32) (frame : Frame) (stops : Bool) :
    Answer × Recorder :=
  match r.session.indexOf? channel with
  | none => (.refused (.unknownStream channel), r)
  | some i =>
    match r.act (.video channel frame) with
    | (.refused (.poolExhausted _), r) =>
      let r := r.meanwhile i stops
      let (answer, r) := r.submitted (r.session.submitTo i (·.offer .video frame false))
      (answer, r.wake i)
    | (answer, r) => (answer, (r.meanwhile i stops).wake i)

/-- Takes a request for a key frame from the camera. -/
def takeKeyFrameRequest (r : Recorder) (channel : UInt32) : Bool × Recorder :=
  match r.host.camera with
  | none => (false, r)
  | some camera =>
    let (asked, camera) := camera.takeKeyFrameRequest channel
    (asked, { r with host := { r.host with camera := some camera } })

/-- Submits a video frame of the camera: a key frame where a group of pictures begins, or if one was
asked for. -/
def produceVideoFrame (handle : StreamHandle) (video : VideoParams) (r : Recorder) (number : Nat) :
    Recorder :=
  let (isKey, r) :=
    if SyntheticCamera.beginsGroup video number then (true, r)
    else r.takeKeyFrameRequest handle.channelId
  let frame : Frame := {
    data := SyntheticCamera.accessUnit number isKey
    pts := SyntheticCamera.ptsOf number video.frameIntervalUs
    isKey }
  (r.act (.video handle.channelId frame)).2

/-- Submits an audio frame of the camera. -/
def produceAudioFrame (audio : AudioParams) (r : Recorder) (number : Nat) : Recorder :=
  let frame : Frame := {
    data := SyntheticCamera.audioFrame audio
    pts := SyntheticCamera.ptsOf number (SyntheticCamera.audioIntervalUs audio) }
  (r.act (.audio frame)).2

def perform (r : Recorder) : Operation → Answer × Recorder
  | .act action => r.act action
  | .wake stream =>
    let r := r.wake stream
    (match r.session.stream? stream with
      | some s => .phase s.phase
      | none => .nothing, r)
  | .wakeAll =>
    let r := r.wakeAll
    (.phases r.phases, r)
  | .stats =>
    (.stats (if r.isLive then some r.session.cameraId else none) r.session.stats, r)
  | .destroy =>
    if r.isLive then
      let r := r.endSession
      (r.verdict, r)
    else (.nothing, r)
  | .drop => (.nothing, if r.isLive then r.endSession else r)
  | .frames channel first last intervalUs gop wakes =>
    let numbers := (List.range (last - first).toNat).map fun i : Nat => first + i
    let (r, refusals) := numbers.foldl (submitNumbered channel intervalUs gop wakes) (r, [])
    (.refusals refusals.reverse, r)
  | .wait channel frame stops => r.submitWaiting channel frame stops
  | .produceVideo stream spanUs =>
    match r.session.stream? stream with
    | none => (.count 0, r)
    | some s =>
      let count := SyntheticCamera.framesWithin spanUs s.config.video.frameIntervalUs
      (.count count, (List.range count).foldl (produceVideoFrame s.handle s.config.video) r)
  | .produceAudio stream spanUs =>
    match (r.session.stream? stream).bind (·.config.audio) with
    | none => (.count 0, r)
    | some audio =>
      let count := SyntheticCamera.framesWithin spanUs (SyntheticCamera.audioIntervalUs audio)
      (.count count, (List.range count).foldl (produceAudioFrame audio) r)
  | .takeKeyFrameRequest channel =>
    let (asked, r) := r.takeKeyFrameRequest channel
    (.flag asked, r)

/-- Does an operation, and lets workers that run by themselves do all there is to do. -/
def operate (r : Recorder) (op : Operation) : Answer × Recorder :=
  let (answer, r) := r.perform op
  (answer, if r.isSelfDriven then r.wakeAll.wakeAll else r)

/-- The disk after everything is let go. Workers that run by themselves end their files first. -/
def finalDisk (r : Recorder) : Disk :=
  let r := if r.isSelfDriven && r.isLive then r.endSession else r
  ((List.range r.session.tracks.length).foldl Session.closeWriter r.session).disk

end Recorder

end CameraRecorder

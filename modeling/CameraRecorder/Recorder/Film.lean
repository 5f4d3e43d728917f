import CameraRecorder.Recorder.Operation

/-!
# Filming

The synthetic camera films for a span: each stream's video at its own frame rate, and one audio
track for all streams. Frames are submitted in the order in which they are due, and no time passes
between them.
-/

namespace CameraRecorder

/-- A frame that the camera produces, by its number. -/
inductive Shot where
  | video (stream number : Nat)
  | audio (number : Nat)
deriving DecidableEq, Repr

namespace Recorder

/-- Shots at a fixed interval, each with the time at which it is due. -/
def shotsEvery (intervalUs spanUs : Nat) (shot : Nat → Shot) : List (Nat × Shot) :=
  (List.range (SyntheticCamera.framesWithin spanUs intervalUs)).map fun number =>
    (number * intervalUs, shot number)

/-- The audio track that the camera records: that of the first stream which has one. -/
def audioTrack? (r : Recorder) : Option AudioParams :=
  r.session.tracks.findSome? (·.stream.config.audio)

/-- All shots within a span, in the order in which they are due. -/
def shotsWithin (r : Recorder) (spanUs : Nat) : List Shot :=
  let video := r.session.tracks.flatMap fun track =>
    shotsEvery track.stream.config.video.frameIntervalUs spanUs (.video track.stream.handle.index)
  let audio := r.audioTrack?.toList.flatMap fun audio =>
    shotsEvery (SyntheticCamera.audioIntervalUs audio) spanUs .audio
  ((video ++ audio).mergeSort fun a b => a.1 ≤ b.1).map (·.2)

/-- Submits the frame of a shot. -/
def shoot (r : Recorder) : Shot → Recorder
  | .video stream number =>
    match r.session.stream? stream with
    | some s => r.produceVideoFrame s.handle s.config.video number
    | none => r
  | .audio number =>
    match r.audioTrack? with
    | some audio => r.produceAudioFrame audio number
    | none => r

/-- Films for a span, and lets every worker run after each shot. -/
def film (r : Recorder) (spanUs : Nat) : Recorder :=
  (r.shotsWithin spanUs).foldl (fun r shot => (r.shoot shot).wakeAll) r

end Recorder

end CameraRecorder

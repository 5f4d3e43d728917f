import CameraRecorder.DirectoryNamer
import CameraRecorder.Stream.Task
import CameraRecorder.SyntheticCamera

/-!
# The application around a session

A host names the files of a session, answers for the camera, and may be scripted: certain calls of
the workers fail or never return, and while a worker waits for a call the host may act on the
session.
-/

namespace CameraRecorder

/-- The kind of a call that a worker makes. -/
inductive Point where
  | init
  | video
  | audio
  | trailer
  | deinit
  | fileBegin
  | fileEnd
  | keyFrame
  | thumbnail
deriving DecidableEq, Repr

/-- The kind of call that a task is. The call for a name and the renaming have none. -/
def Task.point? : Task → Option Point
  | .creating .. => some .init
  | .writingVideo _ => some .video
  | .writingAudio _ => some .audio
  | .trailing .. => some .trailer
  | .finishing _ => some .deinit
  | .beginning _ => some .fileBegin
  | .ending _ => some .fileEnd
  | .askingKeyFrame => some .keyFrame
  | .askingThumbnail => some .thumbnail
  | _ => none

/-- What the application may do at any moment. -/
inductive Action where
  | start
  | stop
  /-- Submit a video frame to the stream that reads a channel. -/
  | video (channel : UInt32) (frame : Frame)
  /-- Submit an audio frame to every stream. -/
  | audio (frame : Frame)
  /-- Submit an audio frame to one stream. -/
  | audioTo (stream : Nat) (frame : Frame)
  /-- Submit a snapshot to every stream. -/
  | thumbnail (frame : Frame)
  /-- Submit a snapshot to one stream. -/
  | thumbnailTo (stream : Nat) (frame : Frame)
deriving DecidableEq, Repr

def Action.tag : Action → String
  | start => "start"
  | stop => "stop"
  | video .. => "video"
  | audio _ => "audio"
  | audioTo .. => "audio"
  | thumbnail _ => "thumb"
  | thumbnailTo .. => "thumb"

/-- A call that fails: the call of a kind, counted for each stream from one, or each of them if the
count is zero. -/
structure Failure where
  stream : Nat
  point : Point
  count : Nat
  /-- Whether the call never returns. -/
  isCrash : Bool := false
deriving DecidableEq, Repr

/-- Whether a call is to fail. -/
def Failure.strikes (f : Failure) (stream : Nat) (point : Point) (count : Nat) : Bool :=
  f.stream = stream && f.point = point && (f.count = 0 || f.count = count)

/-- What the application does during a call. -/
structure Hook where
  stream : Nat
  point : Point
  count : Nat
  actions : List Action
deriving DecidableEq, Repr

/-- Whether a hook belongs to a call. -/
def Hook.belongsTo (h : Hook) (stream : Nat) (point : Point) (count : Nat) : Bool :=
  h.stream = stream && h.point = point && h.count = count

/-- Batches of names that are given out one request after the other, and the number of requests
made. -/
structure NameScript where
  batches : List (Except NameError (List Path))
  asked : Nat := 0

namespace NameScript

/-- The next batch. When all are used up, `otherwise` gives one for the number of earlier
requests. -/
def request (otherwise : UInt32 → Nat → Nat → List Path) (cameraId : UInt32) (count : Nat)
    (s : NameScript) : Except NameError (List Path) × NameScript :=
  match s.batches with
  | batch :: batches => (batch, { batches, asked := s.asked + 1 })
  | [] => (.ok (otherwise cameraId count s.asked), { s with asked := s.asked + 1 })

/-- Names after the camera, the stream and the number of earlier requests. -/
def numbered (cameraId : UInt32) (count asked : Nat) : List Path :=
  (List.range count).map fun i =>
    .ofString ("cam" ++ toString cameraId ++ "_" ++ toString i ++ "_" ++ fourDigits asked ++ ".mp4")

end NameScript

/-- Where the names of files come from. -/
inductive NameSource where
  | script (script : NameScript)
  | directory (namer : DirectoryNamer)

def NameSource.request (cameraId : UInt32) (count : Nat) :
    NameSource → Except NameError (List Path) × NameSource
  | script s =>
    let (batch, s) := s.request NameScript.numbered cameraId count
    (batch, script s)
  | directory n =>
    let (batch, n) := n.request cameraId count
    (batch, directory n)

/-- The application around a session. -/
structure Host where
  names : NameSource
  camera : Option SyntheticCamera := none
  /-- How many snapshots the application sends at once for each request. -/
  answers : Nat := 0
  failures : List Failure := []
  hooks : List Hook := []
  /-- How many calls of each kind the streams have made. -/
  calls : List ((Nat × Point) × Nat) := []

namespace Host

/-- How many calls of a kind a stream has made. -/
def callsOf (h : Host) (stream : Nat) (point : Point) : Nat :=
  (h.calls.lookup (stream, point)).getD 0

def countCall (h : Host) (stream : Nat) (point : Point) : Host :=
  { h with
    calls := ((stream, point), h.callsOf stream point + 1) ::
      h.calls.filter (·.1 ≠ (stream, point)) }

/-- How many actions are still to come from hooks. -/
def actionsLeft (h : Host) : Nat := (h.hooks.flatMap (·.actions)).length

end Host

end CameraRecorder

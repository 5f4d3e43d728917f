import CameraRecorder.Lane.Basic
import CameraRecorder.SplitPolicy
import CameraRecorder.Stream.Task

/-!
# Streams

A stream is one output of a session: the lanes that producers fill, the switches that the session
turns, and the worker that empties the lanes into files. Producers and the session act on a stream
through the operations of this module; each gives the stream as it is then and what happened.
-/

namespace CameraRecorder

/-- Why a submitted frame is refused. -/
inductive SubmitError where
  | unknownStream (channel : UInt32)
  | streamDisabled
  | noAudioTrack
  | poolExhausted (lane : LaneKind)
  | thumbnailPoolFull
deriving DecidableEq, Repr

def SubmitError.message : SubmitError → String
  | unknownStream channel => s!"No stream reads from channel {channel}"
  | streamDisabled => "Stream is not recording"
  | noAudioTrack => "Stream has no audio track"
  | poolExhausted lane => s!"No free {lane.tag} cell"
  | thumbnailPoolFull => "Thumbnail pool is full"

/-- One output of a session. -/
structure Stream where
  handle : StreamHandle
  config : StreamConfig
  video : Lane
  /-- Present if the stream has audio. -/
  audio : Option Lane
  thumbnails : Lane
  enabled : Bool := false
  shutdown : Bool := false
  /-- How often the stream was stopped, so that a stop is noticed even after the next start. -/
  stops : Nat := 0
  filesCompleted : Nat := 0
  framesWritten : Nat := 0
  activity : Activity := .asleep
  file : Option OpenFile := none
  /-- The timestamp for which a key frame was asked last, until a file is opened. -/
  keyFrameAskedAt : Option Timestamp := none
deriving DecidableEq, Repr

/-- The counts reported for a stream. -/
structure StreamStats where
  name : String
  channelId : UInt32
  enabled : Bool
  video : PoolStats
  audio : Option PoolStats
  thumbnail : PoolStats
  filesCompleted : Nat
  framesWritten : Nat
deriving DecidableEq, Repr

namespace Stream

/-- A new stream: its lanes are empty, it is disabled, and its worker sleeps. -/
def create (handle : StreamHandle) (config : StreamConfig) : Stream where
  handle := handle
  config := config
  video := .create .video config.pools.videoCells.toNat
  audio := config.audio.map fun _ => .create .audio config.pools.audioCells.toNat
  thumbnails := .create .thumbnail config.pools.thumbnailCells.toNat

/-- Where the files of the stream end. -/
def policy (s : Stream) : SplitPolicy := .create s.config.splitDurationSecs s.config.video

/-- Whether the stream takes frames. -/
def isEnabled (s : Stream) : Bool := s.enabled && !s.shutdown

/-- The lane of a kind. -/
def lane? (s : Stream) : LaneKind → Option Lane
  | .video => some s.video
  | .audio => s.audio
  | .thumbnail => some s.thumbnails

/-- The stream with another lane. -/
def setLane (s : Stream) (lane : Lane) : LaneKind → Stream
  | .video => { s with video := lane }
  | .audio => { s with audio := some lane }
  | .thumbnail => { s with thumbnails := lane }

def stats (s : Stream) : StreamStats where
  name := s.config.name
  channelId := s.handle.channelId
  enabled := s.isEnabled
  video := s.video.stats
  audio := s.audio.map Lane.stats
  thumbnail := s.thumbnails.stats
  filesCompleted := s.filesCompleted
  framesWritten := s.framesWritten

/-! ## Switches -/

def enable (s : Stream) : Stream × List Entry :=
  ({ s with enabled := true }, [.enabled])

def disable (s : Stream) : Stream × List Entry :=
  ({ s with enabled := false, stops := s.stops + 1 }, [.disabled])

def shutDown (s : Stream) : Stream × List Entry :=
  ({ s with enabled := false, shutdown := true, stops := s.stops + 1 }, [.shutDown])

/-! ## Submission -/

/-- Offers a frame to a lane. When the lane is full and `mayDrop` holds, a queued video frame that
is no key frame makes room. -/
def offer (s : Stream) (kind : LaneKind) (frame : Frame) (mayDrop : Bool) :
    Except SubmitError (Stream × List Entry) :=
  match s.lane? kind with
  | none => .error .noAudioTrack
  | some lane =>
    if !s.isEnabled then .error .streamDisabled
    else match lane.push? frame with
      | some (ticket, lane) => .ok (s.setLane lane kind, [.accepted kind ticket])
      | none =>
        if kind = .thumbnail then .error .thumbnailPoolFull
        else match if mayDrop then lane.dropNonKey? else none with
          | none => .error (.poolExhausted kind)
          | some (old, lane) =>
            match lane.push? frame with
            | some (ticket, lane) =>
              .ok (s.setLane lane kind, [.evicted old, .accepted kind ticket])
            | none => .error (.poolExhausted kind)

/-- Submits a frame as the stream's settings say. -/
def submit (s : Stream) (kind : LaneKind) (frame : Frame) :
    Except SubmitError (Stream × List Entry) :=
  s.offer kind frame s.config.pools.dropNonKeyOnOverflow

end Stream

end CameraRecorder

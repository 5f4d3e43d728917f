import CameraRecorder.Config.Basic
import CameraRecorder.Disk.FileWriter
import CameraRecorder.Lane.Frame

/-!
# The journal of a stream

Everything that happens to a stream is an entry of its journal: what becomes of the frames that
are submitted to it, when it is enabled and disabled, and every call its worker makes to the
application and to its writer.
-/

namespace CameraRecorder

/-- Which stream of which session an event is about. -/
structure StreamHandle where
  cameraId : UInt32
  index : Nat
  channelId : UInt32
deriving DecidableEq, Repr

/-- What the application is told about a stream. -/
inductive Event where
  | streamStart
  | streamStop
  | fileBegin (path : Path)
  | fileEnd (path : Path) (durationMs : Nat)
deriving DecidableEq, Repr

/-- One thing that happened to a stream. -/
inductive Entry where
  /-- A lane took a submitted frame. -/
  | accepted (lane : LaneKind) (ticket : Ticket)
  /-- A queued video frame made room for a later one. -/
  | evicted (ticket : Ticket)
  /-- Frames left a lane unused. -/
  | discarded (lane : LaneKind) (tickets : List Ticket)
  /-- The worker took a frame out of its lane. -/
  | taken (lane : LaneKind) (ticket : Ticket)
  | enabled
  | disabled
  | shutDown
  /-- A wake began, on an enabled or a disabled stream. -/
  | woken (enabled : Bool)
  /-- File names were requested. -/
  | names (cameraId : UInt32) (count : Nat)
  /-- The writer was asked to open a file. -/
  | init (format : ContainerFormat) (path : Path) (video : VideoParams)
      (audio : Option AudioParams)
  /-- The writer was handed a video frame. -/
  | video (ticket : Ticket)
  /-- The writer was handed an audio frame. -/
  | audio (ticket : Ticket)
  /-- The writer was asked to append the trailer that a snapshot makes. -/
  | trailer (snapshot : Ticket) (data : Bytes)
  /-- The writer was asked to finish its file. -/
  | deinit
  /-- The call to the writer that was made last failed. -/
  | failed (cause : WriterError)
  | event (event : Event)
  /-- The camera was asked for a key frame. -/
  | keyFrame (channel : UInt32)
  /-- The camera was asked for a snapshot. -/
  | thumbnail (channel : UInt32)
deriving DecidableEq, Repr

/-- Whether an entry is about the stream's own buffers and switches, which no one is told of. -/
def Entry.isInternal : Entry → Bool
  | accepted .. | evicted _ | discarded .. | taken .. | enabled | disabled | shutDown | woken _ =>
    true
  | _ => false

end CameraRecorder

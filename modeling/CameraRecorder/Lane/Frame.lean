import CameraRecorder.Bytes
import CameraRecorder.Timestamp

/-!
# Frames and tickets

A frame is what a producer submits. A lane that takes a frame gives it the next arrival number;
the two together are a ticket, which names the frame for as long as it is followed.
-/

namespace CameraRecorder

/-- What a lane carries. -/
inductive LaneKind where
  | video
  | audio
  | thumbnail
deriving DecidableEq, Repr

/-- The name of the kind. -/
def LaneKind.tag : LaneKind → String
  | video => "video"
  | audio => "audio"
  | thumbnail => "thumbnail"

/-- An encoded payload with its presentation time. -/
structure Frame where
  data : Bytes
  pts : Timestamp
  isKey : Bool := false
deriving DecidableEq, Repr

/-- A frame that a lane has taken, with its place in the order of arrival. -/
structure Ticket where
  arrival : Nat
  frame : Frame
deriving DecidableEq, Repr

end CameraRecorder

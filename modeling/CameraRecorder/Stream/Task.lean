import CameraRecorder.Journal

/-!
# What a worker is doing

A worker sleeps until it is woken, and then does one task after the other. Some tasks are calls:
the worker has asked someone else to do something and waits for the reply. Everything the
application does at that moment happens between two tasks.
-/

namespace CameraRecorder

/-- The file that a stream is writing. -/
structure OpenFile where
  /-- The name of the finished file. -/
  path : Path
  /-- The name it has while it is written. -/
  writePath : Path
  /-- How often the stream had been stopped when the file was opened. -/
  generation : Nat
  /-- The timestamp of the first frame. -/
  startedAt : Timestamp
  /-- The timestamp of the last video frame handed over. -/
  lastPts : Timestamp
  /-- How many video frames were handed over. -/
  frameCount : Nat := 0
  thumbnailAsked : Bool := false
  /-- The snapshot to be embedded. -/
  thumbnail : Option Ticket := none
deriving DecidableEq, Repr

/-- A frame that was taken out of its lane. -/
inductive Pending where
  | video (ticket : Ticket)
  | audio (ticket : Ticket)
deriving DecidableEq, Repr

/-- The lane a frame was taken out of. -/
def Pending.lane : Pending → LaneKind
  | video _ => .video
  | audio _ => .audio

/-- The frame with its arrival number. -/
def Pending.ticket : Pending → Ticket
  | video ticket => ticket
  | audio ticket => ticket

/-- What a worker goes on with after it has closed its file. -/
inductive Resumption where
  /-- Take the next frame. -/
  | take
  /-- Handle a frame taken before. -/
  | handle (pending : Pending)
  /-- Open the next file with the key frame that ended the last one. -/
  | reopen (ticket : Ticket)
  /-- End a wake on a disabled stream. -/
  | retire
deriving DecidableEq, Repr

/-- One task of a wake. -/
inductive Task where
  /-- Take the earliest frame, or end the wake. -/
  | taking
  | handling (pending : Pending)
  /-- See whether a frame may open a file. -/
  | opening (ticket : Ticket)
  /-- Look for a snapshot, then take the next frame. -/
  | collecting
  /-- Look for a last snapshot and close the file. -/
  | closing (next : Resumption)
  /-- Throw out what a disabled stream still holds, and end the wake. -/
  | retiring
  /-- Call for the name of a file. -/
  | naming (ticket : Ticket) (generation : Nat)
  /-- Call on the writer to open a file. -/
  | creating (ticket : Ticket) (generation : Nat) (path : Path)
  /-- Call to tell that a file began. -/
  | beginning (ticket : Ticket)
  /-- Call on the writer to write a video frame. -/
  | writingVideo (ticket : Ticket)
  /-- Call on the writer to write an audio frame. -/
  | writingAudio (ticket : Ticket)
  /-- Call for a key frame. -/
  | askingKeyFrame
  /-- Call for a snapshot. -/
  | askingThumbnail
  /-- Call on the writer to append the trailer that a snapshot makes. -/
  | trailing (snapshot : Ticket) (data : Bytes) (next : Resumption)
  /-- Call on the writer to finish its file. -/
  | finishing (next : Resumption)
  /-- Call to give the file its final name. -/
  | publishing (next : Resumption)
  /-- Call to tell that a file ended. -/
  | ending (next : Resumption)
deriving DecidableEq, Repr

/-- What a worker is doing. `awake` tells whether the stream was enabled when the wake began. -/
inductive Activity where
  | asleep
  | awake (enabled : Bool) (task : Task)
  | stopped
  | crashed
deriving DecidableEq, Repr

/-- Where a worker is between two wakes: without a file, with one, or stopped for good. -/
inductive Phase where
  | idle
  | recording
  | stopped
deriving DecidableEq, Repr

/-- The task of a worker that is awake. -/
def Activity.task? : Activity → Option Task
  | awake _ task => some task
  | _ => none

end CameraRecorder

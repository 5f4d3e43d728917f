import CameraRecorder.NameCache
import CameraRecorder.Stream.Basic
import CameraRecorder.ThumbnailBox

/-!
# Workers

The worker of a stream empties its lanes. It is woken, does its tasks and sleeps again:

* frames are taken in order of presentation, video first where timestamps are equal;
* a key frame opens a file if there is none, and splits the file if the split is due;
* a stop is noticed before each frame, and the file it interrupted is closed, even if the stream
  was started again;
* a wake on a disabled stream writes what was queued before the stop, closes the file, and throws
  out what is left.

`advance?` does a task that is no call, `named` and `reply` end a call. Each gives the stream and
what happened; the entry for a call is made when the call is.
-/

namespace CameraRecorder

namespace Stream

/-- The name under which a file is written. Only the first stream marks its file until it is
finished. -/
def writePath (s : Stream) (path : Path) : Path :=
  if s.handle.index = 0 then path.inProgress else path

def durationMs (s : Stream) (f : OpenFile) : Nat :=
  s.policy.fileDurationMs f.startedAt f.lastPts f.frameCount

/-- Whether the stream was stopped since its file was opened. -/
def isInterrupted (s : Stream) : Bool := s.file.any (·.generation ≠ s.stops)

/-- The entry that a call makes. -/
def callEntry? (s : Stream) : Task → Option Entry
  | .creating _ _ path =>
    some (.init s.config.format (s.writePath path) s.config.video s.config.audio)
  | .beginning _ => s.file.map fun f => .event (.fileBegin f.path)
  | .writingVideo ticket => some (.video ticket)
  | .writingAudio ticket => some (.audio ticket)
  | .askingKeyFrame => some (.keyFrame s.handle.channelId)
  | .askingThumbnail => some (.thumbnail s.handle.channelId)
  | .trailing snapshot data _ => some (.trailer snapshot data)
  | .finishing _ => some .deinit
  | .ending _ => s.file.map fun f => .event (.fileEnd f.path (s.durationMs f))
  | _ => none

def turnTo (s : Stream) (enabled : Bool) (task : Task) : Stream × List Entry :=
  ({ s with activity := .awake enabled task }, (s.callEntry? task).toList)

/-! ## Taking frames -/

def takeVideo? (s : Stream) : Option (Pending × Stream) :=
  s.video.pop?.map fun (ticket, lane) => (.video ticket, { s with video := lane })

def takeAudio? (s : Stream) : Option (Pending × Stream) :=
  (s.audio.bind Lane.pop?).map fun (ticket, lane) =>
    (.audio ticket, { s with audio := some lane })

/-- Takes the earlier of the first frames of both lanes, the video frame if neither is. -/
def takeFrame? (s : Stream) : Option (Pending × Stream) :=
  match s.video.peek?, s.audio.bind Lane.peek? with
  | some video, some audio => if audio < video then s.takeAudio? else s.takeVideo?
  | some _, none => s.takeVideo?
  | none, some _ => s.takeAudio?
  | none, none => none

/-! ## Snapshots -/

/-- Lets the open file keep the earliest snapshot, if it has none yet. -/
def latchThumbnail (s : Stream) : Stream × List Entry :=
  match s.file with
  | some file =>
    if file.thumbnail.isSome then (s, [])
    else match s.thumbnails.pop? with
      | some (ticket, lane) =>
        ({ s with
            thumbnails := lane
            file := some { file with thumbnail := some ticket } },
          [.taken .thumbnail ticket])
      | none => (s, [])
  | none => (s, [])

/-- Throws out every snapshot that waits. -/
def dropThumbnails (s : Stream) : Stream × List Entry :=
  let (tickets, lane) := s.thumbnails.drain
  ({ s with thumbnails := lane }, [.discarded .thumbnail tickets])

/-- Lets the open file keep a snapshot, and throws out the others. -/
def collectThumbnail (s : Stream) : Stream × List Entry :=
  let (s, latched) := s.latchThumbnail
  let (s, dropped) := s.dropThumbnails
  (s, latched ++ dropped)

/-! ## Tasks -/

/-- Begins a wake. A worker that is not asleep is not woken. -/
def wake (s : Stream) : Stream × List Entry :=
  match s.activity with
  | .asleep =>
    let enabled := s.isEnabled
    let (s, entries) :=
      s.turnTo enabled (if enabled && s.isInterrupted then .closing .take else .taking)
    (s, .woken enabled :: entries)
  | _ => (s, [])

/-- Ends a wake after the last frame. On a disabled stream the file is closed first. -/
def finishWake (s : Stream) (enabled : Bool) : Stream × List Entry :=
  if enabled then ({ s with activity := .asleep }, [])
  else s.turnTo enabled (if s.file.isSome then .closing .retire else .retiring)

/-- Takes the next frame. If a stop was noticed meanwhile, the file is closed before the frame is
handled. -/
def takeNext (s : Stream) (enabled : Bool) : Stream × List Entry :=
  match s.takeFrame? with
  | some (pending, s) =>
    let (s, entries) := s.turnTo enabled
      (if enabled && s.isInterrupted then .closing (.handle pending) else .handling pending)
    (s, .taken pending.lane pending.ticket :: entries)
  | none =>
    let (s, collected) := s.collectThumbnail
    let (s, entries) := s.finishWake enabled
    (s, collected ++ entries)

/-- Whether a key frame ends the open file. -/
def splits (s : Stream) (file : OpenFile) (frame : Frame) : Bool :=
  frame.isKey && s.policy.splitDue (frame.pts.since file.startedAt)

/-- Handles a frame. Audio without a file is lost. -/
def handlePending (s : Stream) (enabled : Bool) (pending : Pending) : Stream × List Entry :=
  s.turnTo enabled <| match pending, s.file with
    | .video ticket, some file =>
      if s.splits file ticket.frame then .closing (.reopen ticket) else .writingVideo ticket
    | .video ticket, none => .opening ticket
    | .audio ticket, some _ => .writingAudio ticket
    | .audio _, none => .collecting

/-- The distance between two requests for a key frame, in microseconds. -/
def keyFrameRetryUs : Int := 1000000

/-- Whether a key frame should be asked for. -/
def keyFrameDue (s : Stream) (pts : Timestamp) : Bool :=
  s.keyFrameAskedAt.all fun asked => pts < asked || keyFrameRetryUs ≤ pts.since asked

/-- Sees whether a frame may open a file: the stream has to be enabled, now and when the wake
began, and the frame has to be a key frame. -/
def tryOpen (s : Stream) (enabled : Bool) (ticket : Ticket) : Stream × List Entry :=
  let pts := ticket.frame.pts
  if !enabled || !s.isEnabled then s.turnTo enabled .collecting
  else if ticket.frame.isKey then s.turnTo enabled (.naming ticket s.stops)
  else if s.keyFrameDue pts then
    { s with keyFrameAskedAt := some pts }.turnTo enabled .askingKeyFrame
  else s.turnTo enabled .collecting

/-- Collects a snapshot and goes on to the next frame. -/
def collect (s : Stream) (enabled : Bool) : Stream × List Entry :=
  let (s, collected) := s.collectThumbnail
  let (s, entries) := s.turnTo enabled .taking
  (s, collected ++ entries)

/-- The trailer that a snapshot makes, if it fits in a box. -/
def trailerOf? (s : Stream) (snapshot : Ticket) : Option Bytes :=
  match (ThumbnailBox.mk s.config.thumbnail snapshot.frame.data).encode with
  | .ok data => some data
  | .error _ => none

/-- The snapshot that the open file keeps, with its trailer. -/
def trailer? (s : Stream) : Option (Ticket × Bytes) := do
  let snapshot ← s.file.bind (·.thumbnail)
  return (snapshot, ← s.trailerOf? snapshot)

/-- Begins to close the open file. -/
def close (s : Stream) (enabled : Bool) (next : Resumption) : Stream × List Entry :=
  let (s, latched) := s.latchThumbnail
  let (s, entries) := s.turnTo enabled <| match s.trailer? with
    | some (snapshot, data) => .trailing snapshot data next
    | none => .finishing next
  (s, latched ++ entries)

/-- Throws out what the lanes hold and ends the wake, for good if the stream was shut down. -/
def retire (s : Stream) : Stream × List Entry :=
  let (video, videoLane) := s.video.drain
  let audio := s.audio.map Lane.drain
  let (thumbnails, thumbnailLane) := s.thumbnails.drain
  ({ s with
      video := videoLane
      audio := audio.map (·.2)
      thumbnails := thumbnailLane
      activity := if s.shutdown then .stopped else .asleep },
    .discarded .video video ::
      (audio.map fun a => Entry.discarded .audio a.1).toList ++ [.discarded .thumbnail thumbnails])

/-- Does the task at hand, unless it is a call or there is none. -/
def advance? (s : Stream) : Option (Stream × List Entry) :=
  match s.activity with
  | .awake enabled .taking => some (s.takeNext enabled)
  | .awake enabled (.handling pending) => some (s.handlePending enabled pending)
  | .awake enabled (.opening ticket) => some (s.tryOpen enabled ticket)
  | .awake enabled .collecting => some (s.collect enabled)
  | .awake enabled (.closing next) => some (s.close enabled next)
  | .awake _ .retiring => some s.retire
  | _ => none

/-! ## Replies -/

/-- Goes on with the name of a file, or without one. -/
def named (s : Stream) (result : Except NameError Path) : Stream × List Entry :=
  match s.activity with
  | .awake enabled (.naming ticket generation) =>
    s.turnTo enabled <| match result with
      | .ok path => .creating ticket generation path
      | .error _ => .collecting
  | _ => (s, [])

/-- Goes on after the writer was asked to open a file. -/
def created (s : Stream) (enabled : Bool) (ticket : Ticket) (generation : Nat) (path : Path)
    (isOpen : Bool) : Stream × List Entry :=
  if isOpen then
    { s with
      keyFrameAskedAt := none
      file := some {
        path
        writePath := s.writePath path
        generation
        startedAt := ticket.frame.pts
        lastPts := ticket.frame.pts } }.turnTo enabled (.beginning ticket)
  else s.turnTo enabled .collecting

/-- Goes on after a video frame was handed over. The frame counts for its file even if it could not
be written; the snapshot is asked for once. -/
def videoWritten (s : Stream) (enabled : Bool) (ticket : Ticket) (isWritten : Bool) :
    Stream × List Entry :=
  let s := { s with framesWritten := s.framesWritten + if isWritten then 1 else 0 }
  match s.file with
  | none => s.turnTo enabled .collecting
  | some file =>
    let file := { file with frameCount := file.frameCount + 1, lastPts := ticket.frame.pts }
    if !file.thumbnailAsked && s.policy.thumbnailDue file.frameCount then
      { s with file := some { file with thumbnailAsked := true } }.turnTo enabled .askingThumbnail
    else { s with file := some file }.turnTo enabled .collecting

/-- Goes on after a file was closed. -/
def resume (s : Stream) (enabled : Bool) (next : Resumption) : Stream × List Entry :=
  { s with file := none }.turnTo enabled <| match next with
    | .take => .taking
    | .handle pending => .handling pending
    | .reopen ticket => .opening ticket
    | .retire => .retiring

/-- Goes on after the call at hand, which failed if there is an error. Failures of the writer end
nothing but the opening of a file. -/
def reply (s : Stream) (error : Option WriterError) : Stream × List Entry :=
  match s.activity with
  | .awake enabled task =>
    let (s, entries) := match task with
      | .creating ticket generation path => s.created enabled ticket generation path error.isNone
      | .beginning ticket => s.turnTo enabled (.writingVideo ticket)
      | .writingVideo ticket => s.videoWritten enabled ticket error.isNone
      | .writingAudio _ | .askingKeyFrame | .askingThumbnail => s.turnTo enabled .collecting
      | .trailing _ _ next => s.turnTo enabled (.finishing next)
      | .finishing next => s.turnTo enabled (.publishing next)
      | .publishing next =>
        { s with filesCompleted := s.filesCompleted + 1 }.turnTo enabled (.ending next)
      | .ending next => s.resume enabled next
      | _ => (s, [])
    (s, (error.map Entry.failed).toList ++ entries)
  | _ => (s, [])

/-- Ends the worker in the middle of its task. What it held is lost. -/
def crash (s : Stream) : Stream := { s with activity := .crashed }

/-- Where the worker is between two wakes. -/
def phase (s : Stream) : Phase :=
  if s.activity = .stopped then .stopped
  else if s.file.isSome then .recording
  else .idle

end Stream

end CameraRecorder

import CameraRecorder.NameCache
import CameraRecorder.Session.Writer
import CameraRecorder.Stream.Worker

/-!
# Sessions

A session is the streams of one camera with their writers, the names they share and the disk they
write to. Producers submit frames to the session, which hands them to the streams they are for.
What happens is told as entries, each with the number of its stream.
-/

namespace CameraRecorder

/-- Why there is no session, or none that ended well. -/
inductive SessionError where
  | config (cause : ConfigError)
  | writer (stream : String) (cause : WriterError)
  | workersCrashed (count : Nat)
deriving DecidableEq, Repr

def SessionError.message : SessionError → String
  | config cause => s!"Config/{cause.message}"
  | writer stream cause => s!"Stream '{stream}': failed to create writer: {cause.message}"
  | workersCrashed count => s!"{count} muxer thread(s) panicked"

/-- A stream and the writer of its worker. -/
structure Track where
  stream : Stream
  writer : Writer
deriving DecidableEq, Repr

/-- The streams of one camera. -/
structure Session where
  cameraId : UInt32
  tracks : List Track
  names : NameCache
  disk : Disk
deriving DecidableEq, Repr

namespace Session

/-- What happened, with the number of the stream it happened to. -/
abbrev Entries := List (Nat × Entry)

/-- A session as the settings say, usable or not. -/
def assemble (config : SessionConfig) (writer : StreamConfig → Writer) (disk : Disk) :
    Session where
  cameraId := config.cameraId
  tracks := config.streams.mapIdx fun index stream =>
    { stream := .create ⟨config.cameraId, index, stream.channelId⟩ stream, writer := writer stream }
  names := .create config.cameraId config.streams.length
  disk := disk

/-- A session with usable settings. Making the writer of any stream may fail. -/
def create (config : SessionConfig) (writer : StreamConfig → Except WriterError Writer)
    (disk : Disk) : Except SessionError Session := do
  config.validate.mapError .config
  config.streams.forM fun stream =>
    (writer stream).map (fun _ => ()) |>.mapError (.writer stream.name)
  return assemble config (fun stream => (writer stream).toOption.getD .silent) disk

/-- The stream of a number. -/
def stream? (s : Session) (i : Nat) : Option Stream := s.tracks[i]?.map (·.stream)

/-- The number of the first stream that reads a channel. -/
def indexOf? (s : Session) (channel : UInt32) : Option Nat :=
  s.tracks.findIdx? (·.stream.handle.channelId = channel)

/-- The session with another stream of a number. -/
def setStream (s : Session) (i : Nat) (stream : Stream) : Session :=
  { s with tracks := s.tracks.modify i fun track => { track with stream } }

/-- Lets a stream do something. -/
def onStream (s : Session) (i : Nat) (act : Stream → Stream × List Entry) : Session × Entries :=
  match s.stream? i with
  | none => (s, [])
  | some stream =>
    let (stream, entries) := act stream
    (s.setStream i stream, entries.map (i, ·))

/-- Lets every stream do something, in order. -/
def onStreams (s : Session) (act : Stream → Stream × List Entry) : Session × Entries :=
  (List.range s.tracks.length).foldl
    (fun (s, entries) i =>
      let (s, more) := s.onStream i act
      (s, entries ++ more))
    (s, [])

def stats (s : Session) : List StreamStats := s.tracks.map (·.stream.stats)

/-! ## Switches -/

def start (s : Session) : Session × Entries :=
  s.onStreams fun stream =>
    let (stream, entries) := stream.enable
    (stream, entries ++ [.event .streamStart])

def stop (s : Session) : Session × Entries :=
  s.onStreams fun stream =>
    let (stream, entries) := stream.disable
    (stream, entries ++ [.event .streamStop])

def shutDown (s : Session) : Session × Entries := s.onStreams Stream.shutDown

/-! ## Submission -/

/-- Submits a frame to one stream. A stream that does not exist takes none. -/
def submitTo (s : Session) (i : Nat) (submit : Stream → Except SubmitError (Stream × List Entry)) :
    Except SubmitError (Session × Entries) :=
  match s.stream? i with
  | none => .error .streamDisabled
  | some stream => (submit stream).map fun (stream, entries) =>
    (s.setStream i stream, entries.map (i, ·))

/-- Submits a video frame to the stream that reads a channel. -/
def submitVideo (s : Session) (channel : UInt32) (frame : Frame) :
    Except SubmitError (Session × Entries) :=
  match s.indexOf? channel with
  | none => .error (.unknownStream channel)
  | some i => s.submitTo i (·.submit .video frame)

/-- Submits a frame to every stream that takes it. The last result is their number. -/
def broadcast (s : Session) (kind : LaneKind) (frame : Frame) : Session × Entries × Nat :=
  (List.range s.tracks.length).foldl
    (fun (s, entries, count) i =>
      match s.submitTo i (·.submit kind frame) with
      | .ok (s, more) => (s, entries ++ more, count + 1)
      | .error _ => (s, entries, count))
    (s, [], 0)

/-- Submits an audio frame to every stream that records audio. -/
def submitAudio (s : Session) (frame : Frame) : Session × Entries × Nat := s.broadcast .audio frame

def submitThumbnail (s : Session) (frame : Frame) : Session × Entries × Nat :=
  s.broadcast .thumbnail frame

/-! ## Calls of the workers -/

def wake (s : Session) (i : Nat) : Session × Entries := s.onStream i Stream.wake

/-- Finds a name for the file that a worker wants to open. Names are requested from `source` if
there is none left for the stream. -/
def nameFile {σ : Type} (request : UInt32 → Nat → σ → Except NameError (List Path) × σ)
    (s : Session) (i : Nat) (source : σ) : Session × Entries × σ :=
  let asked : Entries :=
    if (s.names.take? i).isSome then [] else [(i, .names s.names.cameraId s.names.slots.length)]
  let (result, names, source) := s.names.next request i source
  let (s, entries) := { s with names }.onStream i (·.named result)
  (s, asked ++ entries, source)

/-- Carries out the call for a task on the writer and the disk. An operation on a file may fail. -/
def callOut (track : Track) (task : Task) (disk : Disk) (fault : Option Fault := none) :
    Writer.Outcome :=
  match task with
  | .creating _ _ path =>
    track.writer.init (track.stream.writePath path) track.stream.config.audio disk fault
  | .writingVideo ticket => track.writer.writeVideo ticket.frame.data disk fault
  | .writingAudio ticket => track.writer.writeAudio ticket.frame.data disk fault
  | .trailing _ data _ => track.writer.appendTrailer data disk fault
  | .finishing _ => track.writer.deinit disk fault
  | .publishing _ =>
    match track.stream.file with
    | some file =>
      if file.writePath ≠ file.path ∧ disk.contains file.writePath then
        (track.writer, (disk.rename? file.writePath file.path).getD disk, none)
      else (track.writer, disk, none)
    | none => (track.writer, disk, none)
  | _ => (track.writer, disk, none)

/-- Whether a call goes to the writer, and so may fail before it gets there. -/
def reachesWriter : Task → Bool
  | .creating .. | .writingVideo _ | .writingAudio _ | .trailing .. | .finishing _ => true
  | _ => false

/-- Replies to the call that a worker waits for. A faulty call to the writer fails before it gets
there. -/
def replyTo (s : Session) (i : Nat) (faulty : Bool) : Session × Entries :=
  match s.tracks[i]? with
  | none => (s, [])
  | some track =>
    match track.stream.activity.task? with
    | none => (s, [])
    | some task =>
      if faulty && reachesWriter task then s.onStream i (·.reply (some .io))
      else
        let (writer, disk, error) := callOut track task s.disk
        let s := { s with
          disk
          tracks := s.tracks.modify i fun track => { track with writer } }
        s.onStream i (·.reply error)

/-- Lets the writer of a stream go of its file. -/
def closeWriter (s : Session) (i : Nat) : Session :=
  match s.tracks[i]? with
  | none => s
  | some track =>
    let (writer, disk) := track.writer.close s.disk
    { s with disk, tracks := s.tracks.modify i fun track => { track with writer } }

/-- Ends a worker in the middle of its task. -/
def crash (s : Session) (i : Nat) : Session :=
  ((s.onStream i fun stream => (stream.crash, [])).1).closeWriter i

end Session

end CameraRecorder

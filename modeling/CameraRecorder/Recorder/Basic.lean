import CameraRecorder.Recorder.Host
import CameraRecorder.Session.Basic

/-!
# Recorders

A recorder is a session together with its host, and the record of what happened. It lets one
worker run at a time: a wake goes on, call after call, until the worker sleeps again.
-/

namespace CameraRecorder

/-- What an action or an operation is answered. -/
inductive Answer where
  | nothing
  | done
  | refused (cause : SubmitError)
  | failed (cause : SessionError)
  | count (n : Nat)
  | flag (b : Bool)
  | phase (phase : Phase)
  | phases (phases : List Phase)
  /-- The counts of the streams, with the camera if the session is live. -/
  | stats (camera : Option UInt32) (stats : List StreamStats)
  /-- The frames that were refused, by number. -/
  | refusals (refusals : List (Int × SubmitError))
deriving DecidableEq, Repr

/-- A line of the record: what happened to a stream, or an action of a hook. -/
inductive Line where
  | entry (stream : Nat) (entry : Entry)
  | hook (action : String) (answer : Answer)
deriving DecidableEq, Repr

/-- A session and its host. -/
structure Recorder where
  session : Session
  host : Host
  /-- Whether the session can still be started and stopped. -/
  isLive : Bool := true
  /-- Whether the workers run by themselves after every operation. -/
  isSelfDriven : Bool := false
  /-- What happened, the latest line first. -/
  record : List Line := []

namespace Recorder

/-- Adds what happened to the record. -/
def note (r : Recorder) (entries : Session.Entries) : Recorder :=
  { r with record := (entries.map fun (i, entry) => Line.entry i entry).reverse ++ r.record }

def update (r : Recorder) (change : Session × Session.Entries) : Recorder :=
  { r with session := change.1 }.note change.2

/-- Changes the session if a submission succeeds. -/
def submitted (r : Recorder) (change : Except SubmitError (Session × Session.Entries)) :
    Answer × Recorder :=
  match change with
  | .ok change => (.done, r.update change)
  | .error cause => (.refused cause, r)

/-- Changes the session by a submission to every stream. -/
def broadcast (r : Recorder) (change : Session × Session.Entries × Nat) : Answer × Recorder :=
  (.count change.2.2, r.update (change.1, change.2.1))

/-- Does what the application wants. -/
def act (r : Recorder) : Action → Answer × Recorder
  | .start => (.nothing, if r.isLive then r.update r.session.start else r)
  | .stop => (.nothing, if r.isLive then r.update r.session.stop else r)
  | .video channel frame => r.submitted (r.session.submitVideo channel frame)
  | .audio frame => r.broadcast (r.session.submitAudio frame)
  | .audioTo stream frame => r.submitted (r.session.submitTo stream (·.submit .audio frame))
  | .thumbnail frame => r.broadcast (r.session.submitThumbnail frame)
  | .thumbnailTo stream frame =>
    r.submitted (r.session.submitTo stream (·.submit .thumbnail frame))

/-! ## Calls -/

/-- Does the actions of hooks, in order. -/
def runActions (r : Recorder) (actions : List Action) : Recorder :=
  actions.foldl
    (fun r action =>
      let (answer, r) := r.act action
      { r with record := .hook action.tag answer :: r.record })
    r

/-- Uses up the hooks that belong to a call. -/
def runHooks (r : Recorder) (stream : Nat) (point : Point) (count : Nat) : Recorder :=
  let (now, later) := r.host.hooks.partition (·.belongsTo stream point count)
  let r := { r with host := { r.host with hooks := later } }
  r.runActions (now.flatMap fun hook : Hook => hook.actions)

/-- The text that an application sends for a snapshot. -/
def snapshotText (channel : UInt32) (i : Nat) : Bytes :=
  Bytes.ofString ("snap-" ++ toString channel ++ "-" ++ toString i)

def sendSnapshot (r : Recorder) (data : Bytes) : Recorder :=
  (r.act (.thumbnail { data, pts := 0 })).2

/-- Lets the camera answer a request of a worker. -/
def askCamera (r : Recorder) (channel : UInt32) (point : Point) : Recorder :=
  match point with
  | .keyFrame =>
    { r with host := { r.host with camera := r.host.camera.map (·.askKeyFrame channel) } }
  | .thumbnail =>
    let snapshots :=
      (r.host.camera.bind (·.snapshot? channel)).toList ++
        (List.range r.host.answers).map (snapshotText channel)
    snapshots.foldl sendSnapshot r
  | _ => r

/-- The stream to which a call is ascribed. A request to the camera belongs to the first stream
that reads the channel. -/
def ascribed (r : Recorder) (i : Nat) (channel : UInt32) : Point → Nat
  | .keyFrame | .thumbnail => (r.session.indexOf? channel).getD i
  | _ => i

/-- Lets the host have its say in a call, and then ends the call. -/
def serve (r : Recorder) (i : Nat) (channel : UInt32) (point : Point) : Recorder :=
  let owner := r.ascribed i channel point
  let r := r.askCamera channel point
  let r := { r with host := r.host.countCall owner point }
  let count := r.host.callsOf owner point
  let r := r.runHooks owner point count
  match r.host.failures.find? (·.strikes owner point count) with
  | none => r.update (r.session.replyTo i false)
  | some failure =>
    if failure.isCrash then { r with session := r.session.crash i }
    else r.update (r.session.replyTo i true)

/-- Finds a name for the file that a worker wants to open. -/
def nameFile (r : Recorder) (i : Nat) : Recorder :=
  let (session, entries, names) := r.session.nameFile NameSource.request i r.host.names
  { r with session, host := { r.host with names } }.note entries

/-- Does one task of a worker that is awake. -/
def advance? (r : Recorder) (i : Nat) : Option Recorder :=
  match r.session.stream? i with
  | none => none
  | some stream =>
    match stream.advance? with
    | some (stream, entries) =>
      some (r.update (r.session.setStream i stream, entries.map (i, ·)))
    | none =>
      match stream.activity.task? with
      | none => none
      | some (.naming ..) => some (r.nameFile i)
      | some task =>
        match task.point? with
        | some point => some (r.serve i stream.handle.channelId point)
        | none => some (r.update (r.session.replyTo i false))

/-- Lets a worker do at most `fuel` tasks. -/
def run : Nat → Recorder → Nat → Recorder
  | 0, r, _ => r
  | fuel + 1, r, i =>
    match r.advance? i with
    | none => r
    | some r => run fuel r i

/-- A bound on the tasks of a wake: a frame takes no more than twenty, and frames are queued or
still to come from hooks. -/
def tasksAhead (r : Recorder) (i : Nat) : Nat :=
  let queued := match r.session.stream? i with
    | none => 0
    | some s => s.video.stats.inFlight + (s.audio.map (·.stats.inFlight)).getD 0
  20 * (queued + r.host.actionsLeft) + 20

/-- Wakes a worker and lets it run until it sleeps again. -/
def wake (r : Recorder) (i : Nat) : Recorder :=
  let r := r.update (r.session.wake i)
  run (r.tasksAhead i) r i

def wakeAll (r : Recorder) : Recorder :=
  (List.range r.session.tracks.length).foldl wake r

end Recorder

end CameraRecorder

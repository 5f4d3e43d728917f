import CameraRecorder.CommandLine.Command
import CameraRecorder.Recorder.Film
import CameraRecorder.Recorder.Report
import CameraRecorder.Recorder.Text

/-!
# What a command line comes to

A command line on a disk comes to a printed text, a way to exit, and a changed disk. What is printed
for events, files and counts is structured text; members are in ascending order except in settings
and counts.
-/

namespace CameraRecorder.CommandLine

/-- Why a command fails. -/
inductive CommandError where
  | unreadable (file : String)
  | unusableConfig (file : String) (cause : LoadError)
  | unusableOutput (directory : String)
  | session (cause : SessionError)
deriving DecidableEq, Repr

def CommandError.message : CommandError → String
  | unreadable file => s!"Failed to read '{file}'"
  | unusableConfig file _ => s!"Failed to load config '{file}'"
  | unusableOutput directory => s!"Failed to create '{directory}'"
  | session cause => cause.message

/-- How the program exits. -/
inductive Exit where
  | success
  | failure (cause : CommandError)
  | misuse (cause : UsageError)
deriving DecidableEq, Repr

/-- The number with which the program exits. -/
def Exit.code : Exit → UInt32
  | success => 0
  | failure _ => 1
  | misuse _ => 2

/-- What the program complains of. -/
def Exit.complaint? : Exit → Option String
  | success => none
  | failure cause => some s!"Error: {cause.message}"
  | misuse cause => some s!"error: {cause.message}"

/-- What a command line comes to. -/
structure Outcome where
  printed : String := ""
  exit : Exit := .success
  disk : Disk
deriving DecidableEq, Repr

def lineOf (cs : List Char) : String := String.ofList (cs ++ ['\n'])

/-! ## Settings -/

/-- Prints sample settings. -/
def sampleConfig (cameraId : UInt32) (d : Disk) : Outcome :=
  { printed := lineOf (SessionConfig.sample cameraId).toJson.pretty, disk := d }

/-! ## Inspection -/

/-- What is shown of the last snapshot in a file. -/
def snapshotSummary : Nat × ThumbnailBox → Json
  | (offset, box) =>
    .object [
      ("offset", .ofNat offset),
      ("params", box.params.toJson),
      ("payloadBytes", .ofNat box.payload.length)]

/-- What is shown of a file. -/
def fileSummary (file : String) (content : Bytes) : Json :=
  .object [
    ("path", .text file),
    ("size", .ofNat content.length),
    ("thumbnail", .ofOption snapshotSummary (ThumbnailBox.findLast content))]

/-- Shows what a file holds. -/
def inspect (file : String) (d : Disk) : Outcome :=
  match d.read? (.ofString file) with
  | none => { exit := .failure (.unreadable file), disk := d }
  | some content => { printed := lineOf (fileSummary file content).sorted.pretty, disk := d }

/-! ## Recording -/

/-- The settings to record with. -/
def settings (config : Option String) (d : Disk) : Except CommandError SessionConfig :=
  match config with
  | none => .ok (.sample 0)
  | some file =>
    (SessionConfig.load (d.read? (.ofString file))).mapError (.unusableConfig file)

/-- The recorder of a camera that writes its streams into a directory. -/
def recorderInto (directory : Path) (config : SessionConfig) (session : Session) : Recorder where
  session := session
  host := {
    names := .directory (.create directory config)
    camera := some (.create config) }
  isSelfDriven := true

/-- What is told of an event. -/
def eventSummary (handle : StreamHandle) (event : Event) : Json :=
  .object [("stream", handle.toJson), ("event", event.toJson)]

/-- The line that tells of an event. -/
def eventLine? (s : Session) : Line → Option String
  | .entry i (.event event) =>
    (s.stream? i).map fun stream => lineOf (eventSummary stream.handle event).sorted.compact
  | _ => none

/-- The counts of all streams. -/
def statsText (s : Session) : String :=
  lineOf (Json.list (s.stats.map StreamStats.toJson)).pretty

/-- Records for a time, and ends the session. -/
def recordWith (r : Recorder) (seconds : Nat) : Answer × Recorder :=
  let (_, r) := r.operate (.act .start)
  let r := r.film (seconds * microsPerSecond)
  let (_, r) := r.operate (.act .stop)
  r.operate .destroy

/-- Records the synthetic camera into a directory. -/
def record (config : Option String) (output : String) (seconds : Nat) (d : Disk) : Outcome :=
  match settings config d with
  | .error cause => { exit := .failure cause, disk := d }
  | .ok config =>
    let directory := Path.ofString output
    let (d, isReady) := d.createDirectories directory
    if !isReady then { exit := .failure (.unusableOutput output), disk := d }
    else match Session.create config (fun _ => .ok .toFiles) d with
      | .error cause => { exit := .failure (.session cause), disk := d }
      | .ok session =>
        let (answer, r) := recordWith (recorderInto directory config session) seconds
        let (lines, r) := r.takeReport
        let events := String.join (lines.filterMap (eventLine? r.session))
        match answer with
        | .failed cause =>
          { printed := events, exit := .failure (.session cause), disk := r.finalDisk }
        | _ => { printed := events ++ statsText r.session, disk := r.finalDisk }

/-! ## Command lines -/

def Command.run (command : Command) (d : Disk) : Outcome :=
  match command with
  | record config output seconds => CommandLine.record config output seconds d
  | inspect file => CommandLine.inspect file d
  | sampleConfig cameraId => CommandLine.sampleConfig cameraId d
  | help topic => { printed := topic.page, disk := d }

/-- Does what a command line asks for. -/
def run (arguments : List String) (d : Disk) : Outcome :=
  match Command.parse arguments with
  | .ok command => command.run d
  | .error cause => { exit := .misuse cause, disk := d }

end CameraRecorder.CommandLine

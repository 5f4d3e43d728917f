import CameraRecorder.Recorder.Operation

/-!
# Reports

The record of a recorder holds more than the application is told. A report shows the calls, the
events and the actions of hooks.
-/

namespace CameraRecorder

namespace Line

/-- Whether the application is told of a line. -/
def isReported : Line → Bool
  | entry _ e => !e.isInternal
  | hook .. => true

/-- Whether a line is about the session as a whole: names are requested for every stream at once,
and streams are started and stopped together. -/
def isCommon : Line → Bool
  | entry _ (.names ..) => true
  | entry _ (.event .streamStart) => true
  | entry _ (.event .streamStop) => true
  | _ => false

/-- Whether a line is about a stream. -/
def isAbout (stream : Nat) : Line → Bool
  | entry i _ => i = stream
  | hook .. => false

/-- The lines without those about the frames that writers were handed. `handed` are the streams
whose writer was called last for a frame. -/
def withoutFrames (handed : List Nat) : List Line → List Line
  | [] => []
  | entry i e :: rest =>
    match e with
    | .video _ | .audio _ => withoutFrames (i :: handed) rest
    | .failed _ =>
      if i ∈ handed then withoutFrames handed rest else entry i e :: withoutFrames handed rest
    | .init .. | .trailer .. | .deinit =>
      entry i e :: withoutFrames (handed.filter (· ≠ i)) rest
    | _ => entry i e :: withoutFrames handed rest
  | line :: rest => line :: withoutFrames handed rest

end Line

namespace Recorder

/-- Takes the reported lines, in order, out of the record. -/
def takeReport (r : Recorder) : List Line × Recorder :=
  (r.record.reverse.filter (·.isReported), { r with record := [] })

end Recorder

end CameraRecorder

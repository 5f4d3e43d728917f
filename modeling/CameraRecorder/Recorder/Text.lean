import CameraRecorder.Config.Text
import CameraRecorder.Session.Basic

/-!
# Events and counts as text

The values that are written for events and for the counts of streams.
-/

namespace CameraRecorder

/-- The value written for a path. Bytes that encode no text are replaced. -/
def Path.toJson (p : Path) : Json :=
  .text (p.toString?.getD (String.ofList (p.bytes.map fun b => Char.ofNat b.toNat)))

def StreamHandle.toJson (h : StreamHandle) : Json :=
  .object [
    ("cameraId", .ofNat h.cameraId.toNat),
    ("index", .ofNat h.index),
    ("channelId", .ofNat h.channelId.toNat)]

def Event.toJson : Event → Json
  | streamStart => .object [("kind", .text "streamStart")]
  | streamStop => .object [("kind", .text "streamStop")]
  | fileBegin path => .object [("kind", .text "fileBegin"), ("path", path.toJson)]
  | fileEnd path durationMs =>
    .object [("kind", .text "fileEnd"), ("path", path.toJson), ("duration_ms", .ofNat durationMs)]

def PoolStats.toJson (s : PoolStats) : Json :=
  .object [
    ("capacity", .ofNat s.capacity),
    ("free", .ofNat s.free),
    ("inFlight", .ofNat s.inFlight)]

def StreamStats.toJson (s : StreamStats) : Json :=
  .object [
    ("name", .text s.name),
    ("channelId", .ofNat s.channelId.toNat),
    ("enabled", .flag s.enabled),
    ("video", s.video.toJson),
    ("audio", .ofOption PoolStats.toJson s.audio),
    ("thumbnail", s.thumbnail.toJson),
    ("filesCompleted", .ofNat s.filesCompleted),
    ("framesWritten", .ofNat s.framesWritten)]

end CameraRecorder

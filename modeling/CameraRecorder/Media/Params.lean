import CameraRecorder.Media.Format
import CameraRecorder.Timestamp

/-!
# Track parameters

What a stream declares about its video, its audio and its snapshots, and which of these
declarations are usable.
-/

namespace CameraRecorder

/-- Why track parameters are unusable, or a name unknown. -/
inductive MediaError where
  | channelCount (channels : UInt16)
  | frameRate
  | gop
  | dimensions (width height : UInt32)
  | sampleRate
  | unknownContainer (name : String)
deriving DecidableEq, Repr

def MediaError.message : MediaError → String
  | channelCount channels => s!"Unsupported number of channels: {channels}"
  | frameRate => "Frame rate must be non-zero"
  | gop => "GOP length must be non-zero"
  | dimensions width height => s!"Invalid dimensions {width}x{height}"
  | sampleRate => "Sample rate must be non-zero"
  | unknownContainer name => s!"Unknown container tag '{name}'"

/-- The format a text names, or the reason why it names none. -/
def ContainerFormat.parse (name : String) : Except MediaError ContainerFormat :=
  match ContainerFormat.ofName? name with
  | some format => .ok format
  | none => .error (.unknownContainer name)

/-- The video track of a stream. A key frame is expected every `gop` frames. -/
structure VideoParams where
  codec : VideoCodec
  width : UInt32
  height : UInt32
  frameRate : UInt32
  gop : UInt32
  bitrateKbps : UInt32
deriving DecidableEq, Repr

namespace VideoParams

/-- Refuses a track without a frame rate, a key frame distance or an area. -/
def validate (p : VideoParams) : Except MediaError Unit :=
  if p.frameRate = 0 then .error .frameRate
  else if p.gop = 0 then .error .gop
  else if p.width = 0 ∨ p.height = 0 then .error (.dimensions p.width p.height)
  else .ok ()

/-- The frame rate that divisions use: a rate of zero counts as one. -/
def divisorRate (p : VideoParams) : Nat := max p.frameRate.toNat 1

/-- Length of one frame in whole microseconds. -/
def frameIntervalUs (p : VideoParams) : Nat := microsPerSecond / p.divisorRate

/-- Length of one frame in whole milliseconds. -/
def frameIntervalMs (p : VideoParams) : Nat := 1000 / p.divisorRate

end VideoParams

/-- The audio track of a stream. -/
structure AudioParams where
  codec : AudioCodec
  sampleRate : UInt32
  channels : UInt16
  bitrateKbps : UInt32
deriving DecidableEq, Repr

namespace AudioParams

/-- The most channels an audio track may have. -/
def maxChannels : UInt16 := 8

/-- Refuses a track with no channel, too many channels or no sample rate. -/
def validate (p : AudioParams) : Except MediaError Unit :=
  if p.channels = 0 ∨ maxChannels < p.channels then .error (.channelCount p.channels)
  else if p.sampleRate = 0 then .error .sampleRate
  else .ok ()

/-- A usable track of unstated bit rate. -/
def create (codec : AudioCodec) (sampleRate : UInt32) (channels : UInt16) :
    Except MediaError AudioParams :=
  let params : AudioParams := ⟨codec, sampleRate, channels, 0⟩
  params.validate.map fun _ => params

end AudioParams

/-- The geometry of the snapshots embedded in a stream's files. The virtual size is that of the
buffer, which may be padded beyond the visible picture. -/
structure ThumbnailParams where
  kind : ThumbnailKind := .jpeg
  width : UInt32 := 320
  height : UInt32 := 180
  virtualWidth : UInt32 := 320
  virtualHeight : UInt32 := 192
deriving DecidableEq, Repr

end CameraRecorder

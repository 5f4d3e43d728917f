import CameraRecorder.Config.Basic
import CameraRecorder.Lane.Frame

/-!
# A synthetic camera

Stands in for a camera: it produces frames and snapshots by rule, honours requests for key frames,
and answers requests for snapshots.
-/

namespace CameraRecorder

/-- A picture of the given geometry: for a photograph a comment with its size between the first and
last marks of one, for a raw picture a grey plane. Its area is a word of 32 bits, so the plane is
short if it has more pixels than that can count. -/
def ThumbnailParams.snapshot (p : ThumbnailParams) : Bytes :=
  match p.kind with
  | .jpeg =>
    let comment := Bytes.ofString s!"{p.width}x{p.height}"
    [0xff, 0xd8, 0xff, 0xfe, 0x00, UInt8.ofNat (comment.length + 2)] ++ comment ++ [0xff, 0xd9]
  | .nv12 =>
    let luma := (p.width * p.height).toNat
    List.replicate luma 0x10 ++ List.replicate (luma / 2) 0x80

/-- The camera: the channels it was asked for a key frame on, and the geometry of the snapshots of
each channel. -/
structure SyntheticCamera where
  asked : List UInt32 := []
  thumbnails : List (UInt32 × ThumbnailParams)
deriving DecidableEq, Repr

namespace SyntheticCamera

/-- The camera of a session. Of two streams on one channel, the last one counts. -/
def create (config : SessionConfig) : SyntheticCamera where
  thumbnails := (config.streams.map fun s => (s.channelId, s.thumbnail)).reverse

/-- The snapshot of a channel. -/
def snapshot? (c : SyntheticCamera) (channel : UInt32) : Option Bytes :=
  (c.thumbnails.lookup channel).map (·.snapshot)

/-- Notes a request for a key frame on a channel the camera has. -/
def askKeyFrame (c : SyntheticCamera) (channel : UInt32) : SyntheticCamera :=
  if (c.thumbnails.lookup channel).isSome then
    { c with asked := channel :: c.asked.filter (· ≠ channel) }
  else c

/-- Takes a request for a key frame. -/
def takeKeyFrameRequest (c : SyntheticCamera) (channel : UInt32) : Bool × SyntheticCamera :=
  (channel ∈ c.asked, { c with asked := c.asked.filter (· ≠ channel) })

/-- How many frames begin within a span, one each interval. -/
def framesWithin (spanUs intervalUs : Nat) : Nat := (spanUs + intervalUs - 1) / intervalUs

/-- The timestamp of a frame. -/
def ptsOf (number intervalUs : Nat) : Timestamp := .ofNat (number * intervalUs)

/-- An access unit: a start code, the header byte of a key frame or another one, and the number of
the frame. -/
def accessUnit (number : Nat) (isKey : Bool) : Bytes :=
  [0, 0, 0, 1, if isKey then 0x65 else 0x41] ++ bigEndian 8 number

/-- Whether a frame begins a group of pictures. -/
def beginsGroup (video : VideoParams) (number : Nat) : Bool :=
  number % max video.gop.toNat 1 = 0

/-- Samples in one frame of layer II audio. -/
def samplesPerAudioFrame : Nat := 1152

/-- Length of one audio frame in whole microseconds. -/
def audioIntervalUs (audio : AudioParams) : Nat :=
  samplesPerAudioFrame * microsPerSecond / audio.sampleRate.toNat

/-- An audio frame: a synchronisation word and silence, as long as the bit rate makes it. -/
def audioFrame (audio : AudioParams) : Bytes :=
  let length :=
    audio.bitrateKbps.toNat * 1000 / 8 * samplesPerAudioFrame / audio.sampleRate.toNat
  [0xff, 0xfd] ++ List.replicate (max length 4 - 2) 0

end SyntheticCamera

end CameraRecorder

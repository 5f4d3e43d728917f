import CameraRecorder.Media.Params

/-!
# Session settings

A session records one camera into one to eight streams. Each stream reads a channel of its own
and has its own container, tracks, file duration and buffers.
-/

namespace CameraRecorder

/-- The sizes of a stream's buffers, and what happens when one is full: the producer waits for a
cell as long as the timeout says, unless a queued frame that is no key frame may be thrown out. -/
structure PoolConfig where
  videoCells : UInt64 := 20
  audioCells : UInt64 := 20
  thumbnailCells : UInt64 := 2
  acquireTimeoutMs : UInt64 := 5000
  dropNonKeyOnOverflow : Bool := false
deriving DecidableEq, Repr

/-- One output of a session. -/
structure StreamConfig where
  name : String
  channelId : UInt32
  format : ContainerFormat := .mp4
  video : VideoParams
  audio : Option AudioParams := none
  thumbnail : ThumbnailParams := {}
  splitDurationSecs : UInt32 := 60
  pools : PoolConfig := {}
deriving DecidableEq, Repr

/-- One camera and its outputs. -/
structure SessionConfig where
  cameraId : UInt32
  streams : List StreamConfig
deriving DecidableEq, Repr

/-- Why settings are unusable. -/
inductive ConfigError where
  | streamCount (count : Nat)
  | media (stream : String) (cause : MediaError)
  | splitDuration (stream : String)
  | poolSize (stream : String) (pool : String)
  | duplicateChannel (channel : UInt32)
deriving DecidableEq, Repr

/-- The most streams a session may have. -/
def SessionConfig.maxStreams : Nat := 8

def ConfigError.message : ConfigError → String
  | streamCount count => s!"Stream count {count} outside 1..={SessionConfig.maxStreams}"
  | media stream cause => s!"Stream '{stream}': {cause.message}"
  | splitDuration stream => s!"Stream '{stream}': split duration must be non-zero"
  | poolSize stream pool => s!"Stream '{stream}': {pool} pool must have at least one cell"
  | duplicateChannel channel => s!"Channel {channel} is used by more than one stream"

namespace StreamConfig

/-- Refuses unusable tracks, files of no duration and buffers without a cell. The audio buffer only
matters if there is audio. -/
def validate (c : StreamConfig) : Except ConfigError Unit := do
  c.video.validate.mapError (.media c.name)
  match c.audio with
  | some audio => audio.validate.mapError (.media c.name)
  | none => .ok ()
  if c.splitDurationSecs = 0 then throw (.splitDuration c.name)
  if c.pools.videoCells = 0 then throw (.poolSize c.name "video")
  if c.pools.thumbnailCells = 0 then throw (.poolSize c.name "thumbnail")
  if c.audio.isSome ∧ c.pools.audioCells = 0 then throw (.poolSize c.name "audio")

/-- The duration of a file in milliseconds. -/
def splitDurationMs (c : StreamConfig) : Nat := c.splitDurationSecs.toNat * 1000

end StreamConfig

namespace SessionConfig

/-- Refuses the first stream that is unusable or reads one of the channels in `used`. -/
def validateStreams (used : List UInt32) : List StreamConfig → Except ConfigError Unit
  | [] => .ok ()
  | stream :: rest => do
    stream.validate
    if stream.channelId ∈ used then throw (.duplicateChannel stream.channelId)
    validateStreams (stream.channelId :: used) rest

/-- Refuses too few or too many streams, an unusable stream, and two streams on one channel. -/
def validate (c : SessionConfig) : Except ConfigError Unit :=
  if c.streams.isEmpty ∨ maxStreams < c.streams.length then
    .error (.streamCount c.streams.length)
  else validateStreams [] c.streams

/-- Main, sub and live outputs of a single camera. -/
def sample (cameraId : UInt32) : SessionConfig :=
  let audio : AudioParams := ⟨.mp2, 48000, 1, 128⟩
  { cameraId
    streams := [
      { name := "main", channelId := 0, video := ⟨.h265, 1920, 1080, 30, 30, 0⟩, audio },
      { name := "sub", channelId := 1, video := ⟨.h264, 640, 360, 30, 30, 0⟩, audio },
      { name := "live", channelId := 2, video := ⟨.h264, 1280, 720, 30, 60, 0⟩,
        format := .mpegTs, splitDurationSecs := 10 }] }

end SessionConfig

end CameraRecorder

import CameraRecorder.Bytes
import CameraRecorder.Config.Basic
import CameraRecorder.Json.Printer
import CameraRecorder.Json.Reader

/-!
# Settings as text

Settings are written as structured text. Each type has three parts: the value that is written for
it, the shape that is read, and the way back from a value of that shape.
-/

namespace CameraRecorder

open Json (Field Reader)

namespace ContainerFormat

def toJson (f : ContainerFormat) : Json := .text f.tag

def reader : Reader := .choice [mp4.tag, mpegTs.tag, flv.tag]

def ofJson? (j : Json) : Option ContainerFormat := j.text?.bind ofTag?

end ContainerFormat

namespace VideoCodec

def toJson (c : VideoCodec) : Json := .text c.tag

def reader : Reader := .choice [h264.tag, h265.tag]

def ofJson? (j : Json) : Option VideoCodec := j.text?.bind ofTag?

end VideoCodec

namespace AudioCodec

def toJson (c : AudioCodec) : Json := .text c.tag

def reader : Reader := .choice [mp3.tag, mp2.tag]

def ofJson? (j : Json) : Option AudioCodec := j.text?.bind ofTag?

end AudioCodec

namespace ThumbnailKind

def toJson (k : ThumbnailKind) : Json := .text k.tag

def reader : Reader := .choice [jpeg.tag, nv12.tag]

def ofJson? (j : Json) : Option ThumbnailKind := j.text?.bind ofTag?

end ThumbnailKind

def Json.Reader.word16 : Reader := .below UInt16.size

def Json.Reader.word32 : Reader := .below UInt32.size

def Json.Reader.word64 : Reader := .below UInt64.size

/-- The number of a member. -/
def Json.natMember? (j : Json) (name : String) : Option Nat := (j.member? name).bind Json.nat?

namespace VideoParams

def toJson (p : VideoParams) : Json :=
  .object [
    ("codec", p.codec.toJson),
    ("width", .ofNat p.width.toNat),
    ("height", .ofNat p.height.toNat),
    ("frameRate", .ofNat p.frameRate.toNat),
    ("gop", .ofNat p.gop.toNat),
    ("bitrateKbps", .ofNat p.bitrateKbps.toNat)]

def reader : Reader :=
  .object [
    ⟨"codec", VideoCodec.reader, none⟩,
    ⟨"width", .word32, none⟩,
    ⟨"height", .word32, none⟩,
    ⟨"frameRate", .word32, none⟩,
    ⟨"gop", .word32, none⟩,
    ⟨"bitrateKbps", .word32, some (.ofNat 0)⟩]

def ofJson? (j : Json) : Option VideoParams := do
  return {
    codec := ← (j.member? "codec").bind VideoCodec.ofJson?
    width := .ofNat (← j.natMember? "width")
    height := .ofNat (← j.natMember? "height")
    frameRate := .ofNat (← j.natMember? "frameRate")
    gop := .ofNat (← j.natMember? "gop")
    bitrateKbps := .ofNat (← j.natMember? "bitrateKbps") }

end VideoParams

namespace AudioParams

def toJson (p : AudioParams) : Json :=
  .object [
    ("codec", p.codec.toJson),
    ("sampleRate", .ofNat p.sampleRate.toNat),
    ("channels", .ofNat p.channels.toNat),
    ("bitrateKbps", .ofNat p.bitrateKbps.toNat)]

def reader : Reader :=
  .object [
    ⟨"codec", AudioCodec.reader, none⟩,
    ⟨"sampleRate", .word32, none⟩,
    ⟨"channels", .word16, none⟩,
    ⟨"bitrateKbps", .word32, some (.ofNat 0)⟩]

def ofJson? (j : Json) : Option AudioParams := do
  return {
    codec := ← (j.member? "codec").bind AudioCodec.ofJson?
    sampleRate := .ofNat (← j.natMember? "sampleRate")
    channels := .ofNat (← j.natMember? "channels")
    bitrateKbps := .ofNat (← j.natMember? "bitrateKbps") }

end AudioParams

namespace ThumbnailParams

def toJson (p : ThumbnailParams) : Json :=
  .object [
    ("kind", p.kind.toJson),
    ("width", .ofNat p.width.toNat),
    ("height", .ofNat p.height.toNat),
    ("virtualWidth", .ofNat p.virtualWidth.toNat),
    ("virtualHeight", .ofNat p.virtualHeight.toNat)]

def reader : Reader :=
  .object [
    ⟨"kind", ThumbnailKind.reader, some ThumbnailKind.jpeg.toJson⟩,
    ⟨"width", .word32, none⟩,
    ⟨"height", .word32, none⟩,
    ⟨"virtualWidth", .word32, none⟩,
    ⟨"virtualHeight", .word32, none⟩]

def ofJson? (j : Json) : Option ThumbnailParams := do
  return {
    kind := ← (j.member? "kind").bind ThumbnailKind.ofJson?
    width := .ofNat (← j.natMember? "width")
    height := .ofNat (← j.natMember? "height")
    virtualWidth := .ofNat (← j.natMember? "virtualWidth")
    virtualHeight := .ofNat (← j.natMember? "virtualHeight") }

end ThumbnailParams

namespace PoolConfig

def toJson (p : PoolConfig) : Json :=
  .object [
    ("videoCells", .ofNat p.videoCells.toNat),
    ("audioCells", .ofNat p.audioCells.toNat),
    ("thumbnailCells", .ofNat p.thumbnailCells.toNat),
    ("acquireTimeoutMs", .ofNat p.acquireTimeoutMs.toNat),
    ("dropNonKeyOnOverflow", .flag p.dropNonKeyOnOverflow)]

/-- The shape of buffer settings. Each of them has a default. -/
def reader : Reader :=
  let usual : PoolConfig := {}
  .object [
    ⟨"videoCells", .word64, some (.ofNat usual.videoCells.toNat)⟩,
    ⟨"audioCells", .word64, some (.ofNat usual.audioCells.toNat)⟩,
    ⟨"thumbnailCells", .word64, some (.ofNat usual.thumbnailCells.toNat)⟩,
    ⟨"acquireTimeoutMs", .word64, some (.ofNat usual.acquireTimeoutMs.toNat)⟩,
    ⟨"dropNonKeyOnOverflow", .flag, some (.flag usual.dropNonKeyOnOverflow)⟩]

def ofJson? (j : Json) : Option PoolConfig := do
  return {
    videoCells := .ofNat (← j.natMember? "videoCells")
    audioCells := .ofNat (← j.natMember? "audioCells")
    thumbnailCells := .ofNat (← j.natMember? "thumbnailCells")
    acquireTimeoutMs := .ofNat (← j.natMember? "acquireTimeoutMs")
    dropNonKeyOnOverflow := ← (j.member? "dropNonKeyOnOverflow").bind Json.flag? }

end PoolConfig

namespace StreamConfig

def toJson (c : StreamConfig) : Json :=
  .object [
    ("name", .text c.name),
    ("channelId", .ofNat c.channelId.toNat),
    ("format", c.format.toJson),
    ("video", c.video.toJson),
    ("audio", .ofOption AudioParams.toJson c.audio),
    ("thumbnail", c.thumbnail.toJson),
    ("splitDurationSecs", .ofNat c.splitDurationSecs.toNat),
    ("pools", c.pools.toJson)]

def reader : Reader :=
  .object [
    ⟨"name", .text, none⟩,
    ⟨"channelId", .word32, none⟩,
    ⟨"format", ContainerFormat.reader, some ContainerFormat.mp4.toJson⟩,
    ⟨"video", VideoParams.reader, none⟩,
    ⟨"audio", .nullable AudioParams.reader, some .null⟩,
    ⟨"thumbnail", ThumbnailParams.reader, some (ThumbnailParams.toJson {})⟩,
    ⟨"splitDurationSecs", .word32, some (.ofNat 60)⟩,
    ⟨"pools", PoolConfig.reader, some (PoolConfig.toJson {})⟩]

/-- The audio parameters a value stands for, if it is not `null`. -/
def audioOfJson? : Json → Option (Option AudioParams)
  | .null => some none
  | j => (AudioParams.ofJson? j).map some

def ofJson? (j : Json) : Option StreamConfig := do
  return {
    name := ← (j.member? "name").bind Json.text?
    channelId := .ofNat (← j.natMember? "channelId")
    format := ← (j.member? "format").bind ContainerFormat.ofJson?
    video := ← (j.member? "video").bind VideoParams.ofJson?
    audio := ← (j.member? "audio").bind audioOfJson?
    thumbnail := ← (j.member? "thumbnail").bind ThumbnailParams.ofJson?
    splitDurationSecs := .ofNat (← j.natMember? "splitDurationSecs")
    pools := ← (j.member? "pools").bind PoolConfig.ofJson? }

end StreamConfig

namespace SessionConfig

def toJson (c : SessionConfig) : Json :=
  .object [
    ("cameraId", .ofNat c.cameraId.toNat),
    ("streams", .list (c.streams.map StreamConfig.toJson))]

def reader : Reader :=
  .object [
    ⟨"cameraId", .word32, none⟩,
    ⟨"streams", .list StreamConfig.reader, none⟩]

def ofJson? (j : Json) : Option SessionConfig := do
  return {
    cameraId := .ofNat (← j.natMember? "cameraId")
    streams := ← ((j.member? "streams").bind Json.items?).bind (·.mapM StreamConfig.ofJson?) }

/-- Reads a session from text. It may still be unusable. -/
def parse (text : String) : Except Json.Fault SessionConfig := do
  let value ← SessionConfig.reader.document text.toList
  match ofJson? value with
  | some config => return config
  | none => throw .mismatch

end SessionConfig

/-- Why settings could not be loaded: there is no readable text, the text is no session, or the
session is unusable. -/
inductive LoadError where
  | unreadable
  | text (fault : Json.Fault)
  | config (cause : ConfigError)
deriving DecidableEq, Repr

/-- Loads a usable session from the content of a file. -/
def SessionConfig.load (content : Option Bytes) : Except LoadError SessionConfig := do
  match content.bind Bytes.toString? with
  | none => throw .unreadable
  | some text =>
    let config ← (SessionConfig.parse text).mapError .text
    config.validate.mapError .config
    return config

end CameraRecorder

/-!
# Media formats

The closed sets of containers, codecs and snapshot kinds, with the tags that name them in
settings and the codes that name them inside files.
-/

namespace CameraRecorder

/-- The container a stream's files are written in. -/
inductive ContainerFormat where
  | mp4
  | mpegTs
  | flv
deriving DecidableEq, Repr

namespace ContainerFormat

/-- The name of the format in settings. -/
def tag : ContainerFormat → String
  | mp4 => "mp4"
  | mpegTs => "mpegts"
  | flv => "flv"

/-- The file name extension of the format. -/
def fileExtension : ContainerFormat → String
  | mp4 => "mp4"
  | mpegTs => "ts"
  | flv => "flv"

/-- The format a text names. A transport stream may also be named by its extension. -/
def ofName? : String → Option ContainerFormat
  | "mp4" => some mp4
  | "mpegts" => some mpegTs
  | "ts" => some mpegTs
  | "flv" => some flv
  | _ => none

def ofTag? : String → Option ContainerFormat
  | "mp4" => some mp4
  | "mpegts" => some mpegTs
  | "flv" => some flv
  | _ => none

@[simp] theorem ofTag?_tag (f : ContainerFormat) : ofTag? f.tag = some f := by
  cases f <;> rfl

end ContainerFormat

/-- The codec of a video track. -/
inductive VideoCodec where
  | h264
  | h265
deriving DecidableEq, Repr

namespace VideoCodec

/-- The name of the codec in settings. -/
def tag : VideoCodec → String
  | h264 => "h264"
  | h265 => "h265"

def ofTag? : String → Option VideoCodec
  | "h264" => some h264
  | "h265" => some h265
  | _ => none

@[simp] theorem ofTag?_tag (c : VideoCodec) : ofTag? c.tag = some c := by
  cases c <;> rfl

end VideoCodec

/-- The codec of an audio track. -/
inductive AudioCodec where
  | mp3
  | mp2
deriving DecidableEq, Repr

namespace AudioCodec

/-- The name of the codec in settings, and the extension of its raw files. -/
def tag : AudioCodec → String
  | mp3 => "mp3"
  | mp2 => "mp2"

/-- The name a container is given for the codec: both are declared as layer II. -/
def containerTag (_ : AudioCodec) : String := "mp2"

def ofTag? : String → Option AudioCodec
  | "mp3" => some mp3
  | "mp2" => some mp2
  | _ => none

@[simp] theorem ofTag?_tag (c : AudioCodec) : ofTag? c.tag = some c := by
  cases c <;> rfl

end AudioCodec

/-- How the pixels of a snapshot are stored. -/
inductive ThumbnailKind where
  | jpeg
  | nv12
deriving DecidableEq, Repr

namespace ThumbnailKind

/-- The name of the kind in settings. -/
def tag : ThumbnailKind → String
  | jpeg => "jpeg"
  | nv12 => "nv12"

def ofTag? : String → Option ThumbnailKind
  | "jpeg" => some jpeg
  | "nv12" => some nv12
  | _ => none

/-- The byte that names the kind inside a thumbnail box. -/
def code : ThumbnailKind → UInt8
  | jpeg => 1
  | nv12 => 2

/-- The kind a byte names. -/
def ofCode? (code : UInt8) : Option ThumbnailKind :=
  if code = 1 then some jpeg else if code = 2 then some nv12 else none

@[simp] theorem ofTag?_tag (k : ThumbnailKind) : ofTag? k.tag = some k := by
  cases k <;> rfl

theorem ofCode?_eq_some_iff {c : UInt8} {k : ThumbnailKind} :
    ofCode? c = some k ↔ c = k.code := by
  cases k <;> grind [ofCode?, code]

end ThumbnailKind

end CameraRecorder

import CameraRecorder.Config.Basic
import CameraRecorder.NameCache

/-!
# Names in one directory

The recorder names its files after the camera, the stream and a running number that is common to
all streams: `<camera>_<stream>_<number>.<extension>`, the number with at least four digits.
-/

namespace CameraRecorder

/-- A number in decimal with at least four digits. -/
def fourDigits (n : Nat) : String :=
  let digits := Nat.toDigits 10 n
  String.ofList (List.replicate (4 - digits.length) '0' ++ digits)

/-- A source of names in one directory. -/
structure DirectoryNamer where
  directory : Path
  streams : List (String × ContainerFormat)
  sequence : UInt32 := 0
deriving DecidableEq, Repr

namespace DirectoryNamer

/-- The namer of a session. -/
def create (directory : Path) (config : SessionConfig) : DirectoryNamer where
  directory := directory
  streams := config.streams.map fun s => (s.name, s.format)

/-- The name of one stream's file. -/
def nameOf (cameraId sequence : UInt32) (stream : String × ContainerFormat) : String :=
  toString cameraId ++ "_" ++ stream.1 ++ "_" ++ fourDigits sequence.toNat ++ "." ++
    stream.2.fileExtension

/-- One path for each stream. A request for another number of streams is refused and uses no
number up. -/
def request (cameraId : UInt32) (count : Nat) (n : DirectoryNamer) :
    Except NameError (List Path) × DirectoryNamer :=
  if count ≠ n.streams.length then
    (.error (.other s!"Asked for {count} names, configured {n.streams.length}"), n)
  else
    (.ok (n.streams.map fun s => n.directory.join (.ofString (nameOf cameraId n.sequence s))),
      { n with sequence := n.sequence + 1 })

end DirectoryNamer

end CameraRecorder

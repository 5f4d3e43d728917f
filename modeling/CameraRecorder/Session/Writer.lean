import CameraRecorder.Disk.FileWriter

/-!
# Writers

Every worker has a writer of its own, which either puts the recording into files or takes every
call without leaving anything behind.
-/

namespace CameraRecorder

/-- The writer of one worker. -/
inductive Writer where
  | silent
  | files (writer : FileWriter)
deriving DecidableEq, Repr

namespace Writer

/-- A writer that has put nothing into files yet. -/
def toFiles : Writer := .files {}

/-- What a call leaves behind: the writer, the disk, and why it was refused, if it was. -/
abbrev Outcome := Writer × Disk × Option WriterError

/-- Passes a call on to a writer of files. -/
def onFiles (w : Writer) (d : Disk) (call : FileWriter → Disk → FileWriter.Outcome) : Outcome :=
  match w with
  | silent => (silent, d, none)
  | files writer =>
    let (writer, d, error) := call writer d
    (files writer, d, error)

def init (w : Writer) (path : Path) (audio : Option AudioParams) (d : Disk)
    (fault : Option Fault := none) : Outcome :=
  w.onFiles d fun writer d => writer.init path audio d fault

def writeVideo (w : Writer) (data : Bytes) (d : Disk) (fault : Option Fault := none) : Outcome :=
  w.onFiles d fun writer d => writer.writeVideo data d fault

def writeAudio (w : Writer) (data : Bytes) (d : Disk) (fault : Option Fault := none) : Outcome :=
  w.onFiles d fun writer d => writer.writeAudio data d fault

def appendTrailer (w : Writer) (data : Bytes) (d : Disk) (fault : Option Fault := none) : Outcome :=
  w.onFiles d fun writer d => writer.appendTrailer data d fault

def deinit (w : Writer) (d : Disk) (fault : Option Fault := none) : Outcome :=
  w.onFiles d fun writer d => writer.deinit d fault

/-- Lets go of the file, if one is open. -/
def close (w : Writer) (d : Disk) : Writer × Disk :=
  match w with
  | silent => (silent, d)
  | files writer =>
    let (writer, d) := writer.close d
    (files writer, d)

end Writer

end CameraRecorder

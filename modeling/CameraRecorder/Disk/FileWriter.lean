import CameraRecorder.Disk.Basic
import CameraRecorder.Media.Params

/-!
# Writing raw streams to files

A file writer puts the video of one recording into a file, one access unit after the other, and
its audio into a second file beside it. Written bytes gather in a buffer before they reach the
disk.

An operation on a file may fail (`Fault`). The call that made it is answered with an error then, and
what was done before stays: bytes that did not fit into the buffer may have reached the file in
part, while bytes that were taken into it are not lost but tried again.
-/

namespace CameraRecorder

/-- Why a writer refuses a call. -/
inductive WriterError where
  | io
  | notOpen
  | alreadyOpen
  | unsupported (what : String)
deriving DecidableEq, Repr

def WriterError.message : WriterError → String
  | io => "input or output failed"
  | notOpen => "No file is open"
  | alreadyOpen => "A file is already open"
  | unsupported what => s!"Unsupported: {what}"

/-- The extension that marks a file as still in progress. -/
def Path.inProgressExtension : Bytes := [0x70, 0x61, 0x72, 0x74]

/-- The path of a file that is still in progress. -/
def Path.inProgress (p : Path) : Path := p.append (dot :: inProgressExtension)

/-- The path of the audio file beside a video file: the codec's name takes the place of the
extension, and of the mark of a file in progress. -/
def Path.audioSibling (p : Path) (codec : AudioCodec) : Path :=
  let finished := if p.fileExtension? = some inProgressExtension then p.withExtension [] else p
  finished.withExtension (Bytes.ofString codec.tag)

/-- How far a call to a writer gets before one of its operations on files fails: past how many of
the names of directories and files that it is to create, and with how many of the bytes that are due
in the video file and in the audio file. -/
structure Fault where
  names : Nat := 0
  video : Nat := 0
  audio : Nat := 0
deriving DecidableEq, Repr

/-- A file that is being written: how much of it has reached the disk, and the bytes that have
not. -/
structure Handle where
  file : Nat
  offset : Nat := 0
  pending : Bytes := []
deriving DecidableEq, Repr

namespace Handle

/-- How many bytes the buffer can hold. -/
def bufferSize : Nat := 8192

/-- Writes bytes to the disk, past the buffer. If there is a limit, the disk fails when it has taken
so many. The last result is what it did not take. -/
def pass (h : Handle) (data : Bytes) (d : Disk) (limit : Option Nat := none) :
    Handle × Disk × Bytes :=
  let count := limit.getD data.length
  ({ h with offset := h.offset + (data.take count).length },
    d.writeAt h.file h.offset (data.take count), data.drop count)

/-- Writes the pending bytes to the disk. What it does not take is still pending. -/
def flush (h : Handle) (d : Disk) (limit : Option Nat := none) : Handle × Disk :=
  let (h, d, pending) := h.pass h.pending d limit
  ({ h with pending }, d)

/-- Takes more bytes. The buffer is flushed when they do not fit, and passed by when they would
fill it alone. Nothing is taken if the buffer cannot be flushed. -/
def write (h : Handle) (data : Bytes) (d : Disk) (limit : Option Nat := none) :
    Handle × Disk × Option WriterError :=
  if data.length < bufferSize ∧ h.pending.length + data.length ≤ bufferSize then
    ({ h with pending := h.pending ++ data }, d, none)
  else
    let (flushed, d) := h.flush d limit
    if flushed.pending ≠ [] then (flushed, d, some .io)
    else if data.length < bufferSize then ({ flushed with pending := data }, d, none)
    else
      let (h, d, left) := flushed.pass data d (limit.map (· - h.pending.length))
      (h, d, if left.isEmpty then none else some .io)

end Handle

/-- The files of the recording in progress. -/
structure OpenFiles where
  video : Handle
  audio : Option Handle
deriving DecidableEq, Repr

/-- Writes what is pending to the disk, the video first. -/
def OpenFiles.flush (files : OpenFiles) (d : Disk) (fault : Option Fault := none) :
    OpenFiles × Disk :=
  let (video, d) := files.video.flush d (fault.map (·.video))
  match files.audio with
  | none => ({ files with video }, d)
  | some audio =>
    let (audio, d) := audio.flush d (fault.map (·.audio))
    ({ video, audio := some audio }, d)

/-- A writer with at most one recording in progress. -/
structure FileWriter where
  files : Option OpenFiles := none
deriving DecidableEq, Repr

namespace FileWriter

/-- What a call leaves behind: the writer, the disk, and why it was refused, if it was. -/
abbrev Outcome := FileWriter × Disk × Option WriterError

/-- Opens the files of a new recording, and creates the directory they are in. What was created
before a failure stays. -/
def init (w : FileWriter) (path : Path) (audio : Option AudioParams) (d : Disk)
    (fault : Option Fault := none) : Outcome :=
  if w.files.isSome then (w, d, some .alreadyOpen)
  else
    let limit := fault.map (·.names)
    let above := path.parent.names.length
    let (d, isReady) := d.createParents path limit
    if !isReady then (w, d, some .io)
    else match if limit = some above then none else d.create? path with
      | none => (w, d, some .io)
      | some (video, d) =>
        match audio with
        | none => ({ files := some { video := { file := video }, audio := none } }, d, none)
        | some params =>
          match if limit = some (above + 1) then none
            else d.create? (path.audioSibling params.codec) with
          | none => (w, d, some .io)
          | some (sibling, d) =>
            ({ files := some { video := { file := video }, audio := some { file := sibling } } },
              d, none)

def writeVideo (w : FileWriter) (data : Bytes) (d : Disk) (fault : Option Fault := none) :
    Outcome :=
  match w.files with
  | none => (w, d, some .notOpen)
  | some files =>
    let (video, d, error) := files.video.write data d (fault.map (·.video))
    ({ files := some { files with video } }, d, error)

def writeAudio (w : FileWriter) (data : Bytes) (d : Disk) (fault : Option Fault := none) :
    Outcome :=
  match w.files with
  | none => (w, d, some .notOpen)
  | some files =>
    match files.audio with
    | none => (w, d, some (.unsupported "stream has no audio track"))
    | some audio =>
      let (audio, d, error) := audio.write data d (fault.map (·.audio))
      ({ files := some { files with audio := some audio } }, d, error)

/-- Appends a trailer, which is part of the video file. -/
def appendTrailer (w : FileWriter) (data : Bytes) (d : Disk) (fault : Option Fault := none) :
    Outcome := w.writeVideo data d fault

/-- Lets everything written reach the disk, and lets go of the files. What a disk that fails does
not take is lost. -/
def close (w : FileWriter) (d : Disk) (fault : Option Fault := none) : FileWriter × Disk :=
  match w.files with
  | none => (w, d)
  | some files => ({}, (files.flush d fault).2)

/-- Ends the recording in progress. It fails if one of the files cannot be flushed, or if the video
cannot be brought to the disk for good; the files are let go of all the same. -/
def deinit (w : FileWriter) (d : Disk) (fault : Option Fault := none) : Outcome :=
  if w.files.isSome then
    let (w, d) := w.close d fault
    (w, d, fault.map fun _ => .io)
  else (w, d, some .notOpen)

end FileWriter

end CameraRecorder

import CameraRecorder.Media.Params

/-!
# Splitting a recording into files

A file is closed by the first key frame that comes no more than one frame before the end of the
configured duration; that key frame opens the next file. A snapshot is asked for once the file
holds as many frames as fit before the last whole seconds that a group of pictures takes.
-/

namespace CameraRecorder

/-- Where the files of a stream end and when their snapshots are due. -/
structure SplitPolicy where
  splitAfterUs : Int
  thumbnailAtFrame : Nat
  frameIntervalMs : Nat
deriving DecidableEq, Repr

namespace SplitPolicy

/-- The policy of a stream with the given file duration. -/
def create (durationSecs : UInt32) (video : VideoParams) : SplitPolicy where
  splitAfterUs := durationSecs.toNat * microsPerSecond - video.frameIntervalUs
  thumbnailAtFrame :=
    (durationSecs.toNat - video.gop.toNat / video.divisorRate) * video.divisorRate
  frameIntervalMs := video.frameIntervalMs

/-- Whether a key frame this far into a file closes the file. -/
def splitDue (p : SplitPolicy) (elapsedUs : Int) : Bool := p.splitAfterUs ≤ elapsedUs

/-- Whether a file with this many frames should have asked for its snapshot. -/
def thumbnailDue (p : SplitPolicy) (frames : Nat) : Bool := p.thumbnailAtFrame ≤ frames

/-- The duration reported for a finished file: the distance between its first and last timestamps
if that is at least a millisecond, and otherwise the nominal length of its frames. -/
def fileDurationMs (p : SplitPolicy) (first last : Timestamp) (frames : Nat) : Nat :=
  let elapsedMs := (last.since first).tdiv 1000
  if 0 < elapsedMs then elapsedMs.toNat else frames * p.frameIntervalMs

end SplitPolicy

end CameraRecorder

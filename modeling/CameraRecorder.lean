import CameraRecorder.CommandLine.Outcome
import CameraRecorder.Main
import CameraRecorder.Proofs.Lane.Contents
import CameraRecorder.Proofs.Lane.Operations
import CameraRecorder.Proofs.Lane.PartialMap
import CameraRecorder.Proofs.Lane.Refinement
import CameraRecorder.Proofs.SplitPolicy
import CameraRecorder.Proofs.Stream.Buffers
import CameraRecorder.Proofs.Stream.Hand
import CameraRecorder.Proofs.Stream.Order
import CameraRecorder.Proofs.Stream.Shape
import CameraRecorder.Proofs.Stream.Stage
import CameraRecorder.Proofs.Stream.Protocol
import CameraRecorder.Proofs.Stream.Flow
import CameraRecorder.Proofs.Stream.Wakes
import CameraRecorder.Proofs.Stream.Submission
import CameraRecorder.Proofs.Stream.Stretch
import CameraRecorder.Proofs.Stream.Continuity
import CameraRecorder.Proofs.Stream.Turns
import CameraRecorder.Proofs.Stream.Generations
import CameraRecorder.Proofs.Stream.Closing
import CameraRecorder.Proofs.Stream.Draining
import CameraRecorder.Proofs.Stream.Restart
import CameraRecorder.Proofs.Stream.Teardown
import CameraRecorder.Proofs.Stream.Filming
import CameraRecorder.Proofs.Stream.Fates
import CameraRecorder.Proofs.Stream.Files
import CameraRecorder.Proofs.Stream.Latching
import CameraRecorder.Proofs.Stream.SplitBoundary
import CameraRecorder.Proofs.Stream.Snapshots
import CameraRecorder.Proofs.Stream.Previews
import CameraRecorder.Proofs.Stream.Leftovers
import CameraRecorder.Proofs.Stream.Reports
import CameraRecorder.Proofs.Stream.KeyFrames
import CameraRecorder.Proofs.ThumbnailBox.Codec
import CameraRecorder.Proofs.ThumbnailBox.Search
import CameraRecorder.Proofs.Session.Teardown
import CameraRecorder.Proofs.Session.Fates
import CameraRecorder.Proofs.Session.Submission
import CameraRecorder.Proofs.Session.Channels
import CameraRecorder.Proofs.Recorder.Runs
import CameraRecorder.Proofs.Path
import CameraRecorder.Proofs.Disk.Places
import CameraRecorder.Proofs.Disk.Changes
import CameraRecorder.Proofs.Disk.FileWriter
import CameraRecorder.Proofs.Stream.Recordings
import CameraRecorder.Proofs.Session.Recordings
import CameraRecorder.Proofs.Session.Contents
import CameraRecorder.Proofs.NameCache
import CameraRecorder.Proofs.Path.Extension
import CameraRecorder.Proofs.Path.Sibling
import CameraRecorder.Proofs.DirectoryNamer
import CameraRecorder.Proofs.Disk.Growth
import CameraRecorder.Proofs.Disk.Calls
import CameraRecorder.Proofs.Session.Faults
import CameraRecorder.Proofs.Session.Marking
import CameraRecorder.Proofs.Stream.Nameless
import CameraRecorder.Proofs.Session.Parts
import CameraRecorder.Proofs.Recorder.Alike
import CameraRecorder.Proofs.Recorder.Independence
import CameraRecorder.Proofs.Stream.Quiescence
import CameraRecorder.Proofs.Recorder.Wakes
import CameraRecorder.Proofs.Session.Accord
import CameraRecorder.Proofs.Session.Previews
import CameraRecorder.Proofs.Json.Spelling
import CameraRecorder.Proofs.Json.Scanner
import CameraRecorder.Proofs.Json.Reader
import CameraRecorder.Proofs.Json.Object
import CameraRecorder.Proofs.Config.RoundTrip
import CameraRecorder.Proofs.Config.Validation

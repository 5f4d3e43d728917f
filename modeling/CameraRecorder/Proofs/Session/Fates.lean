import CameraRecorder.Proofs.Session.Teardown
import CameraRecorder.Proofs.Stream.Fates

/-!
# What becomes of the frames of a session

Every stream of a session began as a new stream, and all that the session did to it is a run. So the
account of a new stream's frames (`Stream.Accounted`) is the account of the session's frames, stream
by stream.
-/

namespace CameraRecorder

namespace Session

variable {s : Session} {es : Entries} {i : Nat} {stream : Stream}

/-- The streams of an assembled session are created for it. -/
theorem stream?_assemble (config : SessionConfig) (writer : StreamConfig → Writer) (disk : Disk)
    (i : Nat) : (assemble config writer disk).stream? i
      = config.streams[i]?.map fun stream =>
        .create ⟨config.cameraId, i, stream.channelId⟩ stream := by
  simp [stream?, assemble, List.getElem?_mapIdx, Function.comp_def]

theorem exists_create_of_assemble {config : SessionConfig} {writer : StreamConfig → Writer}
    {disk : Disk} (hi : (assemble config writer disk).stream? i = some stream) :
    ∃ handle streamConfig, stream = .create handle streamConfig := by
  rw [stream?_assemble] at hi
  obtain ⟨settings, -, rfl⟩ := Option.map_eq_some_iff.mp hi
  exact ⟨_, settings, rfl⟩

/-- **Every frame that a session takes in has exactly one fate.** Whatever is done with a session,
each of its streams is at any moment where a run of its own has led it, and that run accounts for
all frames of the stream. What its lanes took in is what was submitted with success, unchanged, each
frame once. Each video or audio frame among these waits in its lane, or made room for a later frame,
or was handed to the writer once, or was taken and not handed over, or was thrown out. Only a video
frame makes room: one that is no key frame, when a frame is submitted to the full lane of a stream
whose settings allow it. Frames are thrown out at the end of a wake that began disabled. A frame
that was taken and is neither handed over nor in the worker's hand was given up: an audio frame
while no file was open; a video frame while no file was open, since it was no key frame, or the
stream or the wake was disabled; or its file got no name, or could not be opened. And the count of
written frames is the number of calls to write a video frame that succeeded. -/
theorem one_fate (config : SessionConfig) (writer : StreamConfig → Writer) (disk : Disk)
    (hreach : (assemble config writer disk).Steps es s) (hi : s.stream? i = some stream) :
    ∃ first ms, (assemble config writer disk).stream? i = some first ∧
      stream = (first.run ms).1 ∧ entriesOf es i = (first.run ms).2 ∧ first.Accounted ms := by
  obtain ⟨first, ms, hfirst, hstream, hes⟩ := hreach.exists_run hi
  refine ⟨first, ms, hfirst, hstream, hes, ?_⟩
  obtain ⟨handle, streamConfig, rfl⟩ := exists_create_of_assemble hfirst
  exact (Stream.fresh_create handle streamConfig).accounted ms

/-- After a file was opened with a key frame, another frame is taken in. -/
def waitingSession : Session :=
  (recordingSession.broadcast .video ⟨[2], 200000, false⟩).1

/-- The first of two frames was handed over, and has no other fate; the second waits. -/
theorem one_fate_waiting :
    ∃ stream journal, waitingSession.stream? 0 = some stream ∧
      acceptedItems journal = [⟨.video, 0, [1], 0, true⟩, ⟨.video, 1, [2], 200000, false⟩] ∧
      (∀ fate, Fate.Holds stream journal ⟨.video, 0, [1], 0, true⟩ fate → fate = .handed) ∧
      (∀ fate, Fate.Holds stream journal ⟨.video, 1, [2], 200000, false⟩ fate → fate = .waiting) ∧
      stream.framesWritten = 1 := by
  have hfed : 0 < (fedSession.wake 0).1.tracks.length := by decide
  have hreach : (assemble ⟨0, [Stream.secondLong]⟩ (fun _ => .silent) {}).Steps _ waitingSession :=
    .append (.cons .start (.cons .broadcast (.cons .wake (steps_afterTurns hfed 10))))
      (.single .broadcast)
  have hfound : (waitingSession.stream? 0).map (fun stream =>
      (stream.queue .video, stream.framesWritten)) = some ([⟨1, [2], 200000, false⟩], 1) := by
    decide
  obtain ⟨stream, hstream, hfacts⟩ := Option.map_eq_some_iff.mp hfound
  obtain ⟨hqueue, hwritten⟩ := Prod.mk.inj hfacts
  obtain ⟨first, ms, -, rfl, hes, haccounted⟩ := one_fate _ _ _ hreach hstream
  have haccepted : acceptedItems (first.run ms).2
      = [⟨.video, 0, [1], 0, true⟩, ⟨.video, 1, [2], 200000, false⟩] := by
    rw [← hes]
    decide
  have hhanded : Fate.Holds (first.run ms).1 (first.run ms).2 ⟨.video, 0, [1], 0, true⟩
      .handed := by
    show (handedItems (first.run ms).2).count _ = 1
    rw [← hes]
    decide
  have hwaiting : Fate.Holds (first.run ms).1 (first.run ms).2 ⟨.video, 1, [2], 200000, false⟩
      .waiting := by
    show _ ∈ (first.run ms).1.queue .video
    rw [hqueue]
    decide
  refine ⟨_, _, hstream, haccepted, fun fate h => ?_, fun fate h => ?_, hwritten⟩
  · exact (haccounted.fate _ (by rw [haccepted]; simp)).unique h hhanded
  · exact (haccounted.fate _ (by rw [haccepted]; simp)).unique h hwaiting

end Session

end CameraRecorder

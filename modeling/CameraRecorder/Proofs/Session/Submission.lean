import CameraRecorder.Proofs.Session.Fates
import CameraRecorder.Proofs.Session.Parts
import CameraRecorder.Proofs.Session.Teardown
import CameraRecorder.Proofs.Stream.Submission

/-!
# Frames that are submitted to a session

A video frame is for the first stream that reads its channel; an audio frame and a snapshot are for
every stream. Whatever a session has been through, each stream that a frame is for takes it in or
refuses it, and no other stream is touched.
-/

namespace CameraRecorder.Session

variable {s s₀ s' : Session} {es : Entries} {i : Nat} {stream stream' : Stream} {kind : LaneKind}
  {frame : Frame} {channel : UInt32}

/-! ## Whatever a session has been through -/

/-- What becomes of a session over time, whether or not workers end in the middle of their tasks. -/
inductive Becomes (s₀ : Session) : Session → Prop
  | refl : Becomes s₀ s₀
  | step {s s' : Session} {es : Entries} (h : Becomes s₀ s) (hstep : s.Step es s') : Becomes s₀ s'
  | crash {s : Session} {i : Nat} (h : Becomes s₀ s) : Becomes s₀ (s.crash i)

theorem Steps.becomes (h : s.Steps es s') (hs : s₀.Becomes s) : s₀.Becomes s' := by
  induction h with
  | nil => exact hs
  | cons hstep _ ih => exact ih (hs.step hstep)

theorem stream?_closeWriter (s : Session) (i j : Nat) :
    (s.closeWriter i).stream? j = s.stream? j := by
  unfold closeWriter
  cases s.tracks[i]? with
  | none => rfl
  | some track =>
    simp only [stream?, List.getElem?_modify]
    by_cases hij : i = j <;> simp [hij, Function.comp_def]

/-- The lanes of every stream are sound. -/
def LanesSound (s : Session) : Prop := ∀ i stream, s.stream? i = some stream → stream.LanesSound

theorem lanesSound_assemble (config : SessionConfig) (writer : StreamConfig → Writer)
    (disk : Disk) : (assemble config writer disk).LanesSound := by
  intro i stream hi
  obtain ⟨handle, settings, rfl⟩ := exists_create_of_assemble hi
  exact Stream.lanesSound_create handle settings

theorem Step.lanesSound (h : s.Step es s') (hs : s.LanesSound) : s'.LanesSound := by
  intro i stream hi
  obtain ⟨before, ms, hbefore, rfl, -⟩ := (Steps.single h).exists_run hi
  exact (Stream.buffers_run (hs i before hbefore) ms).1

theorem LanesSound.crash (hs : s.LanesSound) (i : Nat) : (s.crash i).LanesSound := by
  intro j stream hj
  rw [Session.crash, stream?_closeWriter, stream?_onStream] at hj
  by_cases hij : i = j
  · rw [if_pos hij] at hj
    obtain ⟨before, hbefore, rfl⟩ := Option.map_eq_some_iff.mp hj
    exact hs j before hbefore
  · rw [if_neg hij] at hj
    exact hs j stream hj

theorem Becomes.lanesSound (h : s₀.Becomes s) (hs : s₀.LanesSound) : s.LanesSound := by
  induction h with
  | refl => exact hs
  | step _ hstep ih => exact hstep.lanesSound ih
  | crash _ ih => exact ih.crash _

/-! ## Video -/

/-- The stream of a number is the first that reads a channel. -/
structure Reads (s : Session) (channel : UInt32) (i : Nat) (stream : Stream) : Prop where
  here : s.stream? i = some stream
  reads : stream.handle.channelId = channel
  first : ∀ j earlier, j < i → s.stream? j = some earlier → earlier.handle.channelId ≠ channel

/-- Whether any stream reads a channel. -/
def IsRead (s : Session) (channel : UInt32) : Prop :=
  ∃ i stream, s.stream? i = some stream ∧ stream.handle.channelId = channel

theorem reads_of_indexOf (h : s.indexOf? channel = some i) :
    ∃ stream, s.Reads channel i stream := by
  obtain ⟨hlt, hreads, hfirst⟩ := List.findIdx?_eq_some_iff_getElem.mp h
  refine ⟨s.tracks[i].stream, by simp [stream?, hlt], of_decide_eq_true hreads, ?_⟩
  intro j earlier hj hearlier
  obtain ⟨track, htrack, rfl⟩ := Option.map_eq_some_iff.mp hearlier
  obtain ⟨-, rfl⟩ := List.getElem?_eq_some_iff.mp htrack
  simpa using hfirst j hj

theorem isRead_of_indexOf (h : s.indexOf? channel = none) : ¬ s.IsRead channel := by
  rintro ⟨i, stream, hi, hreads⟩
  obtain ⟨track, htrack, rfl⟩ := Option.map_eq_some_iff.mp hi
  have hother := List.findIdx?_eq_none_iff.mp h track (List.mem_of_getElem? htrack)
  exact of_decide_eq_false hother hreads

theorem Reads.indexOf (h : s.Reads channel i stream) : s.indexOf? channel = some i := by
  cases hfound : s.indexOf? channel with
  | none => exact absurd ⟨i, stream, h.here, h.reads⟩ (isRead_of_indexOf hfound)
  | some j =>
    obtain ⟨found, hj⟩ := reads_of_indexOf hfound
    rcases Nat.lt_trichotomy j i with hlt | rfl | hgt
    · exact absurd hj.reads (h.first j found hlt hj.here)
    · rfl
    · exact absurd h.reads (hj.first i stream hgt h.here)

theorem submitTo_eq_error_iff (hi : s.stream? i = some stream) {cause : SubmitError}
    {submit : Stream → Except SubmitError (Stream × List Entry)} :
    s.submitTo i submit = .error cause ↔ submit stream = .error cause := by
  simp only [submitTo, hi]
  cases submit stream with
  | error other => simp [Except.map]
  | ok made => simp [Except.map]

theorem submitTo_eq_ok_iff (hi : s.stream? i = some stream)
    {submit : Stream → Except SubmitError (Stream × List Entry)} :
    s.submitTo i submit = .ok (s', es) ↔ ∃ stream' told, submit stream = .ok (stream', told) ∧
      s' = s.setStream i stream' ∧ es = told.map (i, ·) := by
  simp only [submitTo, hi]
  cases submit stream with
  | error other => simp [Except.map]
  | ok made =>
    constructor
    · intro h
      cases h
      exact ⟨_, _, rfl, rfl, rfl⟩
    · rintro ⟨stream', told, hmade, rfl, rfl⟩
      cases hmade
      rfl

/-- A video frame is refused because no stream reads its channel, or for a reason of the first that
does. -/
theorem submitVideo_eq_error_iff (hs : s.LanesSound) {cause : SubmitError} :
    s.submitVideo channel frame = .error cause ↔
      cause = .unknownStream channel ∧ ¬ s.IsRead channel ∨
        ∃ i stream, s.Reads channel i stream ∧ stream.Refuses .video cause := by
  unfold submitVideo
  cases hfound : s.indexOf? channel with
  | none =>
    have hunread := isRead_of_indexOf hfound
    simp only [Except.error.injEq]
    constructor
    · intro heq
      exact .inl ⟨heq.symm, hunread⟩
    · rintro (⟨heq, -⟩ | ⟨i, stream, hreads, -⟩)
      · exact heq.symm
      · exact absurd ⟨i, stream, hreads.here, hreads.reads⟩ hunread
  | some i =>
    obtain ⟨stream, hreads⟩ := reads_of_indexOf hfound
    have hdecides := (hs i stream hreads.here).decides .video frame
    simp only [submitTo_eq_error_iff hreads.here, hdecides.refused]
    constructor
    · intro hrefuses
      exact .inr ⟨i, stream, hreads, hrefuses⟩
    · rintro (⟨-, hunread⟩ | ⟨j, other, hother, hrefuses⟩)
      · exact absurd ⟨i, stream, hreads.here, hreads.reads⟩ hunread
      · obtain rfl : i = j := Option.some.inj (hfound.symm.trans hother.indexOf)
        cases hreads.here.symm.trans hother.here
        exact hrefuses

/-- A video frame that is not refused is taken in by the first stream that reads its channel, and
nothing else in the session changes. -/
theorem takes_of_submitVideo (hs : s.LanesSound)
    (h : s.submitVideo channel frame = .ok (s', es)) :
    ∃ i stream stream' told, s.Reads channel i stream ∧ stream.Takes frame .video stream' told ∧
      s' = s.setStream i stream' ∧ es = told.map (i, ·) := by
  unfold submitVideo at h
  cases hfound : s.indexOf? channel with
  | none =>
    rw [hfound] at h
    cases h
  | some i =>
    rw [hfound] at h
    obtain ⟨stream, hreads⟩ := reads_of_indexOf hfound
    obtain ⟨stream', told, hmade, hs', hes⟩ := (submitTo_eq_ok_iff hreads.here).mp h
    have hdecides := (hs i stream hreads.here).decides .video frame
    exact ⟨i, stream, stream', told, hreads, hdecides.taken stream' told hmade, hs', hes⟩

/-! ## Audio and snapshots -/

/-- The streams that take a frame, by number. -/
def takers (s : Session) (kind : LaneKind) (frame : Frame) (n : Nat) : List Nat :=
  (List.range n).filter fun i => (s.submitTo i (·.submit kind frame)).isOk

theorem mem_takers {n : Nat} : i ∈ s.takers kind frame n ↔
    i < n ∧ ∃ stream stream' told, s.stream? i = some stream ∧
      stream.submit kind frame = .ok (stream', told) := by
  rw [takers, List.mem_filter, List.mem_range]
  refine and_congr_right fun _ => ?_
  cases hi : s.stream? i with
  | none => simp [submitTo, hi, Except.isOk, Except.toBool]
  | some stream =>
    cases hmade : stream.submit kind frame with
    | error cause => simp [submitTo, hi, hmade, Except.map, Except.isOk, Except.toBool]
    | ok r =>
      obtain ⟨stream', told⟩ := r
      simp [submitTo, hi, hmade, Except.map, Except.isOk, Except.toBool]

/-- A stream finds the frame as if it were submitted to it alone. -/
theorem submitTo_congr (h : s'.stream? i = s.stream? i)
    (submit : Stream → Except SubmitError (Stream × List Entry)) :
    (s'.submitTo i submit).isOk = (s.submitTo i submit).isOk := by
  unfold submitTo
  rw [h]
  cases s.stream? i with
  | none => rfl
  | some stream =>
    cases hmade : submit stream with
    | error cause => simp only [hmade]; rfl
    | ok r => simp only [hmade]; rfl

/-- Counted are the streams that take the frame. -/
theorem count_broadcast_upTo (s : Session) (kind : LaneKind) (frame : Frame) (n : Nat) :
    ((List.range n).foldl (broadcastTo kind frame) (s, [], 0)).2.2
      = (s.takers kind frame n).length := by
  induction n with
  | zero => rfl
  | succ n ih =>
    have hdoes := s.does_broadcast_upTo n kind frame n
    have hsame := hdoes.stream
    rw [if_neg (Nat.lt_irrefl n)] at hsame
    rw [List.range_succ, List.foldl_append, List.foldl_cons, List.foldl_nil, takers,
      List.range_succ, List.filter_append, List.length_append]
    generalize (List.range n).foldl (broadcastTo kind frame) (s, [], 0) = r at ih hsame ⊢
    have hsame : r.1.stream? n = s.stream? n := by
      rw [hsame]
      cases s.stream? n <;> rfl
    have hok := submitTo_congr hsame (·.submit kind frame)
    rw [broadcastTo]
    cases hmade : r.1.submitTo n (·.submit kind frame) with
    | ok made =>
      have htaken : (s.submitTo n (·.submit kind frame)).isOk = true := by
        rw [← hok, hmade]
        rfl
      simp [htaken, ih, takers]
    | error cause =>
      have hrefused : (s.submitTo n (·.submit kind frame)).isOk = false := by
        rw [← hok, hmade]
        rfl
      simp [hrefused, ih, takers]

theorem tracks_submitTo (h : s.submitTo i (·.submit kind frame) = .ok (s', es)) :
    s' = { s with tracks := s'.tracks } := by
  unfold submitTo at h
  cases hi : s.stream? i with
  | none =>
    rw [hi] at h
    cases h
  | some stream =>
    rw [hi] at h
    cases hmade : stream.submit kind frame with
    | error cause =>
      simp only [hmade] at h
      cases h
    | ok r =>
      simp only [hmade] at h
      cases h
      rfl

/-- What submitting a frame to all streams leaves: each takes the frame in or refuses it and stays
as it is, and nothing else in the session changes; `count` of them have taken it. -/
structure Delivers (s : Session) (kind : LaneKind) (frame : Frame) (s' : Session) (es : Entries)
    (count : Nat) : Prop where
  streams : ∀ i stream, s.stream? i = some stream → ∃ stream', s'.stream? i = some stream' ∧
    (stream.Takes frame kind stream' (entriesOf es i) ∨
      (∃ cause, stream.Refuses kind cause) ∧ stream' = stream ∧ entriesOf es i = [])
  /-- No writer, name or disk is touched, and no stream comes or goes. -/
  rest : s'.cast = s.cast ∧ s' = { s with tracks := s'.tracks }
  counted : ∃ takers : List Nat, takers.Nodup ∧ takers.length = count ∧
    ∀ i, i ∈ takers ↔ ∃ stream stream', s.stream? i = some stream ∧
      s'.stream? i = some stream' ∧ stream.Takes frame kind stream' (entriesOf es i)

theorem tracks_broadcast (s : Session) (kind : LaneKind) (frame : Frame) :
    (s.broadcast kind frame).1 = { s with tracks := (s.broadcast kind frame).1.tracks } := by
  rw [broadcast_eq]
  refine List.foldlRecOn
    (motive := fun r : Session × Entries × Nat => r.1 = { s with tracks := r.1.tracks }) _ _ rfl ?_
  rintro r h i -
  unfold broadcastTo
  cases hmade : r.1.submitTo i (·.submit kind frame) with
  | error cause => exact h
  | ok made =>
    obtain ⟨s', es⟩ := made
    have hsame := tracks_submitTo hmade
    rw [h] at hsame
    exact hsame

/-- **Every stream takes a frame that is for all, or refuses it.** -/
theorem LanesSound.broadcast (hs : s.LanesSound) (kind : LaneKind) (frame : Frame) :
    s.Delivers kind frame (s.broadcast kind frame).1 (s.broadcast kind frame).2.1
      (s.broadcast kind frame).2.2 := by
  have hstreams : ∀ i stream, s.stream? i = some stream →
      (s.broadcast kind frame).1.stream? i = some (stream.submitted (stream.submit kind frame)).1 ∧
        entriesOf (s.broadcast kind frame).2.1 i
          = (stream.submitted (stream.submit kind frame)).2 := by
    intro i stream hi
    have hdoes := s.does_broadcast i kind frame
    exact ⟨by rw [hdoes.stream, hi]; rfl, hdoes.told stream hi⟩
  constructor
  · intro i stream hi
    obtain ⟨hthere, htold⟩ := hstreams i stream hi
    refine ⟨_, hthere, ?_⟩
    rw [htold]
    rcases (hs i stream hi).submit kind frame with
      ⟨cause, hmade, hrefuses, -⟩ | ⟨stream', told, hmade, htakes, -⟩
    · rw [hmade]
      exact .inr ⟨⟨cause, hrefuses⟩, rfl, rfl⟩
    · rw [hmade]
      exact .inl htakes
  · exact ⟨(s.does_broadcast 0 kind frame).cast, s.tracks_broadcast kind frame⟩
  · refine ⟨s.takers kind frame s.tracks.length, List.nodup_range.filter _,
      (count_broadcast_upTo s kind frame _).symm, fun i => ?_⟩
    rw [mem_takers]
    constructor
    · rintro ⟨-, stream, stream', told, hi, hmade⟩
      obtain ⟨hthere, htold⟩ := hstreams i stream hi
      rw [hmade] at hthere htold
      refine ⟨stream, stream', hi, hthere, ?_⟩
      rw [htold]
      exact ((hs i stream hi).decides kind frame).taken stream' told hmade
    · rintro ⟨stream, stream', hi, -, htakes⟩
      obtain ⟨track, htrack, -⟩ := Option.map_eq_some_iff.mp hi
      refine ⟨(List.getElem?_eq_some_iff.mp htrack).1, ?_⟩
      rcases (hs i stream hi).submit kind frame with
        ⟨cause, -, hrefuses, -⟩ | ⟨stream₁, told, hmade, -, -⟩
      · exact absurd hrefuses htakes.not_refuses
      · exact ⟨stream, stream₁, told, hi, hmade⟩

/-! ## The answer to a submission -/

/-- **Submission is all or nothing.** Whatever a session has been through and whoever submits what
to it: each stream that the frame is for refuses it for a reason and stays as it is, whether or not
the producer insists, or takes it in; a frame makes room for another only where the other is taken
in. No other stream changes, and the number that is reported is that of the streams which have taken
the frame. -/
theorem submission_all_or_nothing (config : SessionConfig) (writer : StreamConfig → Writer)
    (disk : Disk) {s : Session} (h : (assemble config writer disk).Becomes s) (frame : Frame) :
    (∀ i stream kind, s.stream? i = some stream → stream.Decides kind frame) ∧
      (∀ channel,
        (∀ cause, s.submitVideo channel frame = .error cause ↔
          cause = .unknownStream channel ∧ ¬ s.IsRead channel ∨
            ∃ i stream, s.Reads channel i stream ∧ stream.Refuses .video cause) ∧
        ∀ s' es, s.submitVideo channel frame = .ok (s', es) →
          ∃ i stream stream' told, s.Reads channel i stream ∧
            stream.Takes frame .video stream' told ∧ s' = s.setStream i stream' ∧
            es = told.map (i, ·)) ∧
      s.Delivers .audio frame (s.submitAudio frame).1 (s.submitAudio frame).2.1
        (s.submitAudio frame).2.2 ∧
      s.Delivers .thumbnail frame (s.submitThumbnail frame).1 (s.submitThumbnail frame).2.1
        (s.submitThumbnail frame).2.2 := by
  have hs : s.LanesSound := h.lanesSound (lanesSound_assemble config writer disk)
  refine ⟨fun i stream kind hi => (hs i stream hi).decides kind frame, fun channel => ?_,
    hs.broadcast .audio frame, hs.broadcast .thumbnail frame⟩
  constructor
  · intro cause
    exact submitVideo_eq_error_iff hs
  · intro s' es hmade
    exact takes_of_submitVideo hs hmade

/-- A stream with two cells for video frames, which makes room for key frames and others. -/
def narrow : StreamConfig :=
  { Stream.secondLong with pools := { videoCells := 2, dropNonKeyOnOverflow := true } }

/-- The only stream of a session is started, and its video lane is filled. -/
def narrowSession : Session :=
  let s := (assemble ⟨0, [narrow]⟩ (fun _ => .silent) {}).start.1
  ((s.broadcast .video ⟨[1], 10, false⟩).1.broadcast .video ⟨[2], 20, true⟩).1

/-- A frame takes the cell of the one that is no key frame. A frame for another channel is
refused. -/
theorem submission_to_full_lane :
    (∃ stream stream', narrowSession.stream? 0 = some stream ∧ stream.video.IsFull ∧
      stream.Takes ⟨[3], 15, false⟩ .video stream'
        [.evicted ⟨0, ⟨[1], 10, false⟩⟩, .accepted .video ⟨2, ⟨[3], 15, false⟩⟩]) ∧
      ¬ narrowSession.IsRead 7 := by
  have hreach : (assemble ⟨0, [narrow]⟩ (fun _ => .silent) {}).Becomes narrowSession :=
    ((Becomes.refl.step .start).step .broadcast).step .broadcast
  obtain ⟨hstreams, hvideo, -, -⟩ := submission_all_or_nothing _ _ _ hreach ⟨[3], 15, false⟩
  constructor
  · have hfound : (narrowSession.stream? 0).map (fun stream =>
          (stream.video.stats.free, (stream.submit .video ⟨[3], 15, false⟩).toOption.map (·.2)))
        = some (0, some [.evicted ⟨0, ⟨[1], 10, false⟩⟩,
            .accepted .video ⟨2, ⟨[3], 15, false⟩⟩]) := by decide
    obtain ⟨stream, hstream, hfacts⟩ := Option.map_eq_some_iff.mp hfound
    obtain ⟨hfull, hmade⟩ := Prod.mk.inj hfacts
    cases hsubmit : stream.submit .video ⟨[3], 15, false⟩ with
    | error cause =>
      rw [hsubmit] at hmade
      cases hmade
    | ok r =>
      rw [hsubmit] at hmade
      have htakes := (hstreams 0 stream .video hstream).taken r.1 r.2 hsubmit
      rw [show r.2 = _ from Option.some.inj hmade] at htakes
      exact ⟨stream, r.1, hstream, hfull, htakes⟩
  · have hunknown : narrowSession.submitVideo 7 ⟨[3], 15, false⟩ = .error (.unknownStream 7) := by
      decide
    rcases ((hvideo 7).1 _).mp hunknown with ⟨-, hunread⟩ | ⟨_, _, _, hrefuses⟩
    · exact hunread
    · cases hrefuses

end CameraRecorder.Session

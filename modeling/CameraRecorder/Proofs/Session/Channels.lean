import CameraRecorder.Proofs.Config.Validation
import CameraRecorder.Proofs.Session.Submission

/-!
# Streams and their channels

A session is only made with usable settings, in which no two streams read one channel, and its
streams keep their settings whatever becomes of it. So a video frame for a channel that is read is
for one stream and no other (`Session.IsForOnly`).
-/

namespace CameraRecorder

namespace Session

variable {c : SessionConfig} {s s₀ s' : Session} {es : Entries} {i : Nat} {disk : Disk}

/-- A session was made with usable settings. -/
theorem assembled_of_create {writer : StreamConfig → Except WriterError Writer}
    (h : create c writer disk = .ok s) : c.validate = .ok () ∧
      s = assemble c (fun stream => (writer stream).toOption.getD .silent) disk := by
  unfold create at h
  cases hvalid : c.validate with
  | error cause =>
    rw [hvalid] at h
    cases h
  | ok =>
    rw [hvalid] at h
    generalize (c.streams.forM fun stream =>
      ((writer stream).map fun _ => ()).mapError (SessionError.writer stream.name)) = made at h
    cases made with
    | error cause => cases h
    | ok =>
      cases h
      exact ⟨rfl, rfl⟩

/-! ## Who reads a channel -/

/-- The streams of a session read the channels that the settings say. -/
def HasChannelsOf (s : Session) (c : SessionConfig) : Prop :=
  ∀ i, (s.stream? i).map (·.handle.channelId) = c.streams[i]?.map (·.channelId)

theorem hasChannelsOf_assemble (c : SessionConfig) (writer : StreamConfig → Writer) (disk : Disk) :
    (assemble c writer disk).HasChannelsOf c := by
  intro i
  rw [stream?_assemble, Option.map_map]
  rfl

theorem Step.hasChannelsOf (h : s.Step es s') (hs : s.HasChannelsOf c) : s'.HasChannelsOf c := by
  intro i
  rw [← hs i]
  cases hi : s.stream? i with
  | none =>
    have hnone : s'.stream? i = none := by
      simp only [stream?, Option.map_eq_none_iff, List.getElem?_eq_none_iff] at hi ⊢
      rwa [h.length]
    rw [hnone]
  | some stream =>
    obtain ⟨ms, hthere, -⟩ := h.runs i stream hi
    rw [hthere, Option.map_some, Option.map_some, (Stream.same_run stream ms).handle]

theorem HasChannelsOf.crash (hs : s.HasChannelsOf c) (i : Nat) : (s.crash i).HasChannelsOf c := by
  intro j
  rw [← hs j, Session.crash, stream?_closeWriter, stream?_onStream]
  by_cases hij : i = j
  · rw [if_pos hij, Option.map_map]
    rfl
  · rw [if_neg hij]

theorem Becomes.hasChannelsOf (h : s₀.Becomes s) (hs : s₀.HasChannelsOf c) : s.HasChannelsOf c := by
  induction h with
  | refl => exact hs
  | step _ hstep ih => exact hstep.hasChannelsOf ih
  | crash _ ih => exact ih.crash _

/-- A video frame for a channel is for the stream of a number and for no other: it is refused for
the reasons of that stream alone, and otherwise that stream takes it in and nothing else in the
session changes. -/
structure IsForOnly (s : Session) (channel : UInt32) (i : Nat) : Prop where
  reads : ∀ j, (∃ stream, s.stream? j = some stream ∧ stream.handle.channelId = channel) ↔ j = i
  refused : ∀ frame cause, s.submitVideo channel frame = .error cause ↔
    ∃ stream, s.stream? i = some stream ∧ stream.Refuses .video cause
  taken : ∀ frame s' es, s.submitVideo channel frame = .ok (s', es) →
    ∃ stream stream' told, s.stream? i = some stream ∧ stream.Takes frame .video stream' told ∧
      s' = s.setStream i stream' ∧ es = told.map (i, ·)

/-- In usable settings each channel that is read is read by one stream. -/
theorem HasChannelsOf.reads_iff (hs : s.HasChannelsOf c)
    (hnodup : (c.streams.map (·.channelId)).Nodup) {settings : StreamConfig}
    (hi : c.streams[i]? = some settings) (j : Nat) :
    (∃ stream, s.stream? j = some stream ∧ stream.handle.channelId = settings.channelId) ↔
      j = i := by
  rw [← Option.map_eq_some_iff, hs j]
  constructor
  · intro hj
    have hlt : j < (c.streams.map (·.channelId)).length := by
      obtain ⟨other, hother, -⟩ := Option.map_eq_some_iff.mp hj
      simpa using (List.getElem?_eq_some_iff.mp hother).1
    refine (List.getElem?_inj hlt hnodup).mp ?_
    rw [List.getElem?_map, List.getElem?_map, hj, hi]
    rfl
  · rintro rfl
    rw [hi]
    rfl

theorem IsForOnly.of_reads (hlanes : s.LanesSound) {channel : UInt32}
    (hreads : ∀ j, (∃ stream, s.stream? j = some stream ∧ stream.handle.channelId = channel) ↔
      j = i) : s.IsForOnly channel i := by
  obtain ⟨own, hown, hchannel⟩ := (hreads i).mpr rfl
  have hfirst : s.Reads channel i own :=
    ⟨hown, hchannel, fun j earlier hj hearlier hsame =>
      absurd ((hreads j).mp ⟨earlier, hearlier, hsame⟩) (Nat.ne_of_lt hj)⟩
  have honly {j : Nat} {other : Stream} (h : s.Reads channel j other) : j = i :=
    (hreads j).mp ⟨other, h.here, h.reads⟩
  refine ⟨hreads, fun frame cause => ?_, fun frame s' es hmade => ?_⟩
  · rw [submitVideo_eq_error_iff hlanes]
    constructor
    · rintro (⟨-, hunread⟩ | ⟨j, stream, hj, hrefuses⟩)
      · exact absurd ⟨i, own, hown, hchannel⟩ hunread
      · obtain rfl := honly hj
        exact ⟨stream, hj.here, hrefuses⟩
    · rintro ⟨stream, hi, hrefuses⟩
      cases hown.symm.trans hi
      exact .inr ⟨i, own, hfirst, hrefuses⟩
  · obtain ⟨j, stream, stream', told, hj, htakes, hs', hes⟩ := takes_of_submitVideo hlanes hmade
    obtain rfl := honly hj
    exact ⟨stream, stream', told, hj.here, htakes, hs', hes⟩

end Session

/-- **Exactly usable settings are valid.** Validation lets settings pass exactly if they are usable;
otherwise it gives the error of their number of streams, or of the first check that fails for the
first stream that does not pass. In a session that was made with such settings, whatever has become
of it, a video frame for the channel of a stream is for that stream and no other. -/
theorem SessionConfig.validates_usable (c : SessionConfig) :
    (c.validate = .ok () ↔ c.IsUsable) ∧
      (∀ e, c.validate = .error e ↔ c.FailsWith e) ∧
      ∀ writer disk s₀ s, Session.create c writer disk = .ok s₀ → s₀.Becomes s →
        ∀ i settings, c.streams[i]? = some settings → s.IsForOnly settings.channelId i := by
  refine ⟨validate_eq_ok_iff, fun e => validate_eq_error_iff, ?_⟩
  intro writer disk s₀ s hmade hbecomes i settings hi
  obtain ⟨hvalid, rfl⟩ := Session.assembled_of_create hmade
  have hchannels := hbecomes.hasChannelsOf (Session.hasChannelsOf_assemble c _ disk)
  have hlanes := hbecomes.lanesSound (Session.lanesSound_assemble c _ disk)
  exact .of_reads hlanes (hchannels.reads_iff (validate_eq_ok_iff.mp hvalid).channels hi)

/-- Two streams on one channel. The second has files of no duration, too, which is told first. -/
def SessionConfig.twoAlike : SessionConfig :=
  ⟨0, [{ name := "a", channelId := 3, video := ⟨.h264, 2, 2, 5, 5, 0⟩ },
    { name := "b", channelId := 3, video := ⟨.h264, 2, 2, 5, 5, 0⟩, splitDurationSecs := 0 }]⟩

/-- A session can be made of the sample, and a frame for its second channel is for its second
stream. -/
theorem SessionConfig.validates_usable_sample :
    (sample 7).IsUsable ∧ twoAlike.FailsWith (.splitDuration "b") ∧
      ∃ s, Session.create (sample 7) (fun _ => .ok .silent) {} = .ok s ∧
        s.start.1.IsForOnly 1 1 := by
  have hvalid : (sample 7).validate = .ok () := by decide
  obtain ⟨husable, -, honly⟩ := (sample 7).validates_usable
  refine ⟨husable.mp hvalid, (twoAlike.validates_usable.2.1 _).mp (by decide), _, rfl, ?_⟩
  exact honly (fun _ => .ok .silent) {} _ _ rfl (.step .refl .start) 1
    { name := "sub", channelId := 1, video := ⟨.h264, 640, 360, 30, 30, 0⟩,
      audio := some ⟨.mp2, 48000, 1, 128⟩ } rfl

end CameraRecorder

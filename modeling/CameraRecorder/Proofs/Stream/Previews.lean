import CameraRecorder.Proofs.Stream.SplitBoundary
import Mathlib.Tactic.Ring

/-!
# Snapshots of full files

A file that is closed by a split may have been closed before its snapshot was due. For frames that
come at the rate of the track it is decided by the settings alone which it is: the frames of a file
are those taken from its first on, so the count at which the file is closed is known
(`VideoParams.Paced`).
-/

namespace CameraRecorder

/-- Frames come at the rate of a track from the first on, with a key frame at the head of each group
of pictures. -/
def VideoParams.Paced (p : VideoParams) (ts : List Ticket) : Prop :=
  ∀ (n : Nat) (t : Ticket), ts[n]? = some t →
    t.frame.pts.toInt = n * (p.frameIntervalUs : Int) ∧ (t.frame.isKey = true ↔ p.gop.toNat ∣ n)

/-- Behind the head of a group, distances and key frames are counted from there. -/
theorem VideoParams.Paced.behind {p : VideoParams} {earlier later : List Ticket}
    {opening t : Ticket} (h : p.Paced (earlier ++ opening :: later))
    (hkey : opening.frame.isKey = true) {k : Nat} (ht : later[k]? = some t) :
    t.frame.pts.toInt - opening.frame.pts.toInt = (k + 1 : Nat) * (p.frameIntervalUs : Int) ∧
      (t.frame.isKey = true ↔ p.gop.toNat ∣ k + 1) := by
  obtain ⟨hstart, hhead⟩ := h earlier.length opening (by simp)
  obtain ⟨hpts, hgroup⟩ := h (earlier.length + (k + 1)) t (by
    rw [List.getElem?_append_right (Nat.le_add_right ..), Nat.add_sub_cancel_left]
    exact ht)
  rw [hstart, hpts, hgroup]
  refine ⟨?_, Nat.dvd_add_right (hhead.mp hkey)⟩
  push_cast
  ring

namespace Stream

variable {s s' : Stream} {m : Move} {es journal : List Entry} {t opening : Ticket}

/-! ## The frame that was taken last -/

/-- The worker holds one frame at a time. -/
theorem inHand_eq_of_mem {x : Item} (hx : x ∈ s.inHand) : s.inHand = [x] := by
  cases hact : s.activity with
  | asleep | stopped | crashed => simp [inHand, hact, Activity.task?] at hx
  | awake en task =>
    have hnext (next : Resumption) (hx : x ∈ next.inHand) : next.inHand = [x] := by
      cases next with
      | take | retire => cases hx
      | handle | reopen => rw [List.mem_singleton.mp hx]; rfl
    rw [inHand_awake hact] at hx ⊢
    cases task with
    | handling | opening | naming | creating | beginning => rw [List.mem_singleton.mp hx]; rfl
    | closing next | trailing _ _ next | finishing next | publishing next | ending next =>
      exact hnext next hx
    | _ => cases hx

/-- The frame in hand is the one that was taken last. -/
def HoldsLast (s : Stream) (journal : List Entry) : Prop :=
  ∀ x ∈ s.inHand, (takenItems journal).getLast? = some x

theorem Step.holdsLast (h : Step s m s' es) (hs : s.HoldsLast journal) :
    s'.HoldsLast (journal ++ es) := by
  intro x hx
  rcases h.hand with hkeeps | ⟨-, -, -, hnone⟩
  · rw [KeepsCount, inHand_eq_of_mem hx] at hkeeps
    have hlast := congrArg List.getLast? hkeeps
    rw [List.getLast?_append, List.getLast?_append, List.getLast?_singleton, Option.some_or]
      at hlast
    rw [takenItems_append, List.getLast?_append]
    cases htaken : (takenItems es).getLast? with
    | some y =>
      rw [htaken] at hlast
      exact hlast.symm
    | none =>
      rw [htaken, Option.none_or] at hlast
      exact hs x (List.mem_of_getLast? hlast.symm)
  · rw [hnone] at hx
    cases hx

theorem holdsLast_create (handle : StreamHandle) (config : StreamConfig) (ms : List Move) :
    ((create handle config).run ms).1.HoldsLast ((create handle config).run ms).2 := by
  have hcreated : (create handle config).HoldsLast [] := fun _ hx => by cases hx
  exact run_induction (P := fun journal s => s.HoldsLast journal)
    (fun hstep hs => hstep.holdsLast hs) hcreated ms

/-! ## The frames of a file -/

/-- From the beginning of a file to its closing by a split, the video frames that were taken are the
frames of the file, and then the one that ends it. -/
theorem takenVideos_of_split (hs : s.Shaped) (hlast : s.HoldsLast journal)
    (hhand : s.inHand = [⟨.video, opening⟩]) {ms : List Move}
    (hes : ∀ e ∈ (s.run ms).2, e.isFileBegin = false)
    (hopen : (s.run ms).1.file.isSome = true)
    (hhand' : (s.run ms).1.inHand = [⟨.video, t⟩]) :
    ∃ earlier, takenVideos (journal ++ (s.run ms).2) = earlier ++ (videos (s.run ms).2 ++ [t]) := by
  have hkeeps := keepsCount_run hs hes hopen
  rw [KeepsCount, hhand, hhand'] at hkeeps
  have hvideos : videos (s.run ms).2 ++ [t] = opening :: takenVideos (s.run ms).2 := by
    rw [videos_eq]
    exact (List.filterMap_append.symm.trans (congrArg (List.filterMap Item.video?) hkeeps))
  obtain ⟨items, hitems⟩ :=
    List.getLast?_eq_some_iff.mp (hlast ⟨.video, opening⟩ (by rw [hhand]; exact .head _))
  refine ⟨items.filterMap Item.video?, ?_⟩
  rw [hvideos, takenVideos, takenItems_append, List.filterMap_append, hitems, List.filterMap_append,
    List.append_assoc]
  rfl

/-- What is known of a file of the frames `opening :: rest` that is closed for the frame `t`, where
`es` is what happened since it began. -/
structure EndedBy (policy : SplitPolicy) (opening : Ticket) (rest : List Ticket) (t : Ticket)
    (es : List Entry) : Prop where
  key : t.frame.isKey = true
  far : policy.splitAfterUs ≤ t.frame.pts.toInt - opening.frame.pts.toInt
  /-- No key frame before it comes as far behind the first frame. -/
  first : ∀ u ∈ rest, u.frame.isKey = true →
    ¬ policy.splitAfterUs ≤ u.frame.pts.toInt - opening.frame.pts.toInt
  requested : (∃ e ∈ es, e.isRequest = true) ↔ policy.requestAt ≤ rest.length + 1

/-- A file that is closed by a split got all its frames, and the calls for them have returned. -/
theorem Holds.endedBy (hheld : Holds opening es s) (hj : s.Justified) {en : Bool} {task : Task}
    (hact : s.activity = .awake en task) (hnext : task.resumption? = some (.reopen t)) :
    ∃ rest, videos es = opening :: rest ∧ EndedBy s.policy opening rest t es := by
  obtain ⟨f, hfile, hsplit⟩ := hj.reopen en task t hact hnext
  obtain ⟨hkey, hfar⟩ := (splits_iff s f t.frame).mp hsplit
  rw [(hheld.file f hfile).1] at hfar
  obtain ⟨rest, hvideos, hearly⟩ : ∃ rest, videos es = opening :: rest ∧
      ∀ u ∈ rest, u.frame.isKey = true →
        s.policy.splitDue (u.frame.pts.since opening.frame.pts) = false := by
    rcases hheld.opens with ⟨-, _, hact'⟩ | ⟨hopens, -⟩
    · cases hact.symm.trans hact'
      cases hnext
    · exact hopens
  refine ⟨rest, hvideos, hkey, hfar, fun u hu hukey hle => ?_, ?_⟩
  · have hdue := (SplitPolicy.splitDue_since_iff ..).mpr hle
    cases (hearly u hu hukey).symm.trans hdue
  · have hwriting : s.writing? = none := by
      rw [writing?_awake hact]
      cases task <;> cases hnext <;> rfl
    have hrequests := hheld.requests
    rw [returned, hwriting, hvideos] at hrequests
    rw [← List.countP_pos_iff, hrequests]
    show 0 < (decide (s.policy.requestAt ≤ rest.length + 1)).toNat ↔ _
    by_cases hdue : s.policy.requestAt ≤ rest.length + 1 <;> simp [hdue]

/-- A file at the rate of its track ends with the first head of a group that is far enough. -/
theorem EndedBy.requested_iff {durationSecs : UInt32} {video : VideoParams}
    {earlier rest : List Ticket}
    (h : EndedBy (.create durationSecs video) opening rest t es)
    (hpaced : video.Paced (earlier ++ opening :: (rest ++ [t])))
    (hkey : opening.frame.isKey = true) (hduration : 0 < durationSecs.toNat)
    (hrate : 0 < video.frameRate.toNat) (hfast : video.frameRate.toNat ≤ 1000000) :
    (∃ e ∈ es, e.isRequest = true) ↔
      ¬ (video.gop.toNat < video.frameRate.toNat ∧ video.frameRate.toNat ∣ 1000000 ∧
        video.gop.toNat ∣ durationSecs.toNat * video.frameRate.toNat - 1) := by
  obtain ⟨hdistance, hgroup⟩ := hpaced.behind hkey (k := rest.length) (t := t) (by simp)
  have hfar := h.far
  rw [hdistance] at hfar
  refine h.requested.trans (SplitPolicy.requestAt_le_iff hduration hrate hfast
    (Nat.succ_pos rest.length) (hgroup.mp h.key) hfar fun k hpos hlt hdvd hle => ?_)
  -- the head of a group among the frames of the file would have ended it
  obtain ⟨j, rfl⟩ := Nat.exists_eq_succ_of_ne_zero (Nat.ne_of_gt hpos)
  have hj : j < rest.length := Nat.lt_of_succ_lt_succ hlt
  have hfound : (rest ++ [t])[j]? = some rest[j] := by
    rw [List.getElem?_append_left hj, List.getElem?_eq_getElem hj]
  obtain ⟨hdistance, hgroup⟩ := hpaced.behind hkey hfound
  refine h.first rest[j] (List.getElem_mem hj) (hgroup.mpr hdvd) ?_
  rw [hdistance]
  exact hle

/-- **Whether a full file gets its request.** Frames come at the rate of the track, are taken in
order, and a file is closed by a split. Its snapshot was asked for unless there is less than a
second between key frames, the length of a frame is a whole number of microseconds, and a key frame
comes one frame before the duration of a file is over: then the file is closed with one frame less
than its duration has, and its snapshot would be due after all of them. -/
theorem preview_requested_iff (handle : StreamHandle) (config : StreamConfig)
    (hvalid : config.validate = .ok ()) (hfast : config.video.frameRate.toNat ≤ 1000000)
    (before during : List Move) {m : Move} {path : Path} {en : Bool} {task : Task} {t : Ticket} :
    let s := ((create handle config).run before).1
    let w := (s.move m).1
    let es := (w.run during).2
    .event (.fileBegin path) ∈ (s.move m).2 → (∀ e ∈ es, e.isFileBegin = false) →
    (w.run during).1.activity = .awake en task → task.resumption? = some (.reopen t) →
    config.video.Paced (takenVideos ((create handle config).run (before ++ m :: during)).2) →
    ((∃ e ∈ es, e.isRequest = true) ↔
      ¬ (config.video.gop.toNat < config.video.frameRate.toNat ∧
        config.video.frameRate.toNat ∣ 1000000 ∧
        config.video.gop.toNat ∣
          config.splitDurationSecs.toNat * config.video.frameRate.toNat - 1)) := by
  intro s w es hbegin hes hact hnext hpaced
  obtain ⟨hrate, -, hduration⟩ := StreamConfig.pos_of_validate hvalid
  have hs : s.Shaped := shaped_run (shaped_create handle config) before
  have hw : w.Shaped := (s.step_move m).shaped hs
  have hpolicy : (w.run during).1.policy = .create config.splitDurationSecs config.video :=
    (((create handle config).same_run before).trans
      ((s.step_move m).same.trans (w.same_run during))).policy
  have hrun : (create handle config).run (before ++ m :: during)
      = ((w.run during).1, ((create handle config).run (before ++ [m])).2 ++ es) := by
    rw [List.append_cons, run_append, run_append (create handle config) before]
    rfl
  have hj : (w.run during).1.Justified := by
    have hj := justified_run handle config (before ++ m :: during)
    rwa [hrun] at hj
  obtain ⟨opening, -, hhand, hkey, -, hbegun⟩ := exists_first hs hbegin
  have hheld : Holds opening es (w.run during).1 := holds_run hw hbegun hes
  obtain ⟨rest, hvideos, hended⟩ := hheld.endedBy hj hact hnext
  have hlast : w.HoldsLast ((create handle config).run (before ++ [m])).2 := by
    have hlast := holdsLast_create handle config (before ++ [m])
    rwa [run_append] at hlast ⊢
  have hopen : (w.run during).1.file.isSome = true := by
    obtain ⟨f, hfile, -⟩ := hj.reopen en task t hact hnext
    exact Option.isSome_of_eq_some hfile
  obtain ⟨earlier, htaken⟩ := takenVideos_of_split hw hlast hhand hes hopen
    ((inHand_awake hact).trans (inHand_of_pursuit (.inr hnext)))
  rw [hrun, htaken, hvideos] at hpaced
  rw [hpolicy] at hended
  exact hended.requested_iff hpaced hkey hduration hrate hfast

/-- A stream that records files of a second at five frames a second, with a key frame every four. -/
def shortGroups : StreamConfig := { secondLong with video := ⟨.h264, 64, 32, 5, 4, 0⟩ }

/-- The first frame is written, three more come and are written, and the key frame that follows ends
the file. -/
def fourFrames : List Move :=
  [.reply none, .reply none, .submit .video ⟨[2], 200000, false⟩,
    .submit .video ⟨[3], 400000, false⟩, .submit .video ⟨[4], 600000, false⟩,
    .submit .video ⟨[5], 800000, true⟩,
    .advance, .advance, .advance, .reply none, .advance, .advance, .advance, .reply none,
    .advance, .advance, .advance, .reply none, .advance, .advance, .advance]

theorem paced_fourFrames : shortGroups.video.Paced (takenVideos
    ((create ⟨0, 0, 0⟩ shortGroups).run (recordedOnce.take 7 ++ .reply none :: fourFrames)).2) := by
  have htaken : takenVideos
      ((create ⟨0, 0, 0⟩ shortGroups).run (recordedOnce.take 7 ++ .reply none :: fourFrames)).2
      = [⟨0, [1], 0, true⟩, ⟨1, [2], 200000, false⟩, ⟨2, [3], 400000, false⟩,
        ⟨3, [4], 600000, false⟩, ⟨4, [5], 800000, true⟩] := by decide
  rw [htaken]
  intro n t ht
  rcases n with _ | _ | _ | _ | _ | n <;> cases ht <;> decide

/-- Its file of four frames is closed without a request. -/
theorem preview_requested_iff_missed :
    let s := ((create ⟨0, 0, 0⟩ shortGroups).run (recordedOnce.take 7)).1
    shortGroups.validate = .ok () ∧
      ¬ ∃ e ∈ ((s.move (.reply none)).1.run fourFrames).2, e.isRequest = true := by
  intro s
  have hiff := @preview_requested_iff ⟨0, 0, 0⟩ shortGroups (by decide)
    (show 5 ≤ 1000000 by omega) (recordedOnce.take 7) fourFrames (.reply none) ⟨[1]⟩ true
    (.closing (.reopen ⟨4, [5], 800000, true⟩)) ⟨4, [5], 800000, true⟩ (by decide) (by decide)
    (by decide) rfl paced_fourFrames
  exact ⟨by decide, fun hrequested => hiff.mp hrequested ⟨by decide, ⟨200000, rfl⟩, by decide⟩⟩

/-- So a file can be closed by a split without a request for its snapshot, although the frames come
at the rate of the track, all are taken, and no call fails. -/
theorem closed_without_preview :
    ¬ ∀ (handle : StreamHandle) (config : StreamConfig) (before during : List Move) (m : Move)
        (path : Path) (en : Bool) (task : Task) (t : Ticket),
      let s := ((create handle config).run before).1
      let w := (s.move m).1
      let es := (w.run during).2
      config.validate = .ok () → config.video.frameRate.toNat ≤ 1000000 →
      s.undisturbed (m :: during) = true →
      .event (.fileBegin path) ∈ (s.move m).2 → (∀ e ∈ es, e.isFileBegin = false) →
      (w.run during).1.activity = .awake en task → task.resumption? = some (.reopen t) →
      config.video.Paced (takenVideos ((create handle config).run (before ++ m :: during)).2) →
      ∃ e ∈ es, e.isRequest = true := by
  intro hrequests
  have hrequested := hrequests ⟨0, 0, 0⟩ shortGroups (recordedOnce.take 7) fourFrames (.reply none)
    ⟨[1]⟩ true (.closing (.reopen ⟨4, [5], 800000, true⟩)) ⟨4, [5], 800000, true⟩ (by decide)
    (show 5 ≤ 1000000 by omega) (by decide) (by decide) (by decide) (by decide) rfl
    paced_fourFrames
  revert hrequested
  decide

end Stream

end CameraRecorder

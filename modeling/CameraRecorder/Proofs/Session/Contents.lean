import CameraRecorder.Proofs.Session.Recordings
import CameraRecorder.Proofs.Session.Teardown
import Mathlib.Data.List.Flatten
import Mathlib.Data.List.Pairwise

/-!
# What a session leaves on the disk

Every stream of a session writes files of its own, on the one disk. As long as their paths keep out
of each other's way (`Session.Placed`) and nothing fails, the disk holds what the journals of all
streams tell (`Session.Filed`): a calm step changes no file, and a call that is carried out changes
the latest file of one stream.
-/

namespace CameraRecorder

/-- A track records what the journal of its stream tells, which began as `o`. -/
structure Track.Records (track : Track) (o : Stream) (d : Disk) (rs : List Recording) : Prop where
  same : o.Same track.stream
  shaped : track.stream.Shaped
  named : track.stream.WritesAsNamed
  onDisk : o.OnDisk d track.stream.filing track.writer rs

namespace Track.Records

variable {track : Track} {o stream : Stream} {d d' : Disk} {rs : List Recording} {es : List Entry}

/-- Moves apart from the disk. -/
theorem calm {first : Stream} {writer : Writer} (h : Records ⟨first, writer⟩ o d rs)
    (hcalm : first.Calm es stream) : Records ⟨stream, writer⟩ o d (es.foldl record rs) := by
  induction hcalm generalizing rs with
  | nil => exact h
  | @cons first stream m es hm hrest ih =>
    have hstep := first.step_move m
    rw [List.foldl_append]
    apply ih
    have hgoes := hstep.filing h.shaped hm
    have hconfig : first.config = o.config := h.same.config
    rw [hconfig] at hgoes
    exact ⟨h.same.trans hstep.same, hstep.shaped h.shaped, hstep.writesAsNamed h.shaped h.named,
      h.onDisk.goes hgoes⟩

/-- What happens elsewhere on the disk. -/
theorem elsewhere {places : List Location} (h : track.Records o d rs) (hd : d.Sound)
    (hchanges : d.ChangesOnly places d')
    (hoff : ∀ r ∈ rs, ∀ q ∈ o.forms r.path, q.place d.home ∉ places) :
    track.Records o d' rs :=
  ⟨h.same, h.shaped, h.named, h.onDisk.elsewhere hd hchanges hoff⟩

/-- A call that is carried out. -/
theorem served {en : Bool} {task : Task} {writer : Writer} (h : track.Records o d rs)
    (hd : d.Sound) (hact : track.stream.activity = .awake en task) (htask : task.usesDisk = true)
    (hcall : Session.callOut track task d = (writer, d', none))
    (hspread : o.Spread d.home (((track.stream.reply none).2.foldl record rs).map (·.path)))
    (hfree : ∀ path, .event (.fileBegin path) ∈ (track.stream.reply none).2 →
      o.handle.index = 0 → d.node? (path.place d.home) = none) :
    (∃ path ∈ ((track.stream.reply none).2.foldl record rs).map (·.path),
      d.ChangesOnly (o.ground d.home path) d') ∧
      Records ⟨(track.stream.reply none).1, writer⟩ o d'
        ((track.stream.reply none).2.foldl record rs) := by
  obtain ⟨hground, hon⟩ :=
    h.onDisk.served hd h.same h.shaped h.named hact htask hcall hspread hfree
  have hmove : track.stream.reply none = track.stream.move (.reply none) :=
    Session.reply_eq_move (by rw [hact]; rfl) fun _ => rfl
  have hstep := track.stream.step_move (.reply none)
  rw [← hmove] at hstep
  exact ⟨hground, h.same.trans hstep.same, hstep.shaped h.shaped,
    hstep.writesAsNamed h.shaped h.named, hon⟩

/-- Between wakes the writer is at the open file, which is the latest, and all others have ended. -/
theorem at_rest (h : track.Records o d rs) (hrest : track.stream.activity.task? = none) :
    (track.stream.file = none → ∀ r ∈ rs, r.ended = true) ∧
    ∀ f, track.stream.file = some f → ∃ r earlier files, rs = r :: earlier ∧
      (∀ r' ∈ earlier, r'.ended = true) ∧ r.ended = false ∧ r.path = f.path ∧
      track.writer = .files { files := some files } ∧
      files.Fills d (o.writePath f.path) o.config.audio r.video r.sound ∧
      (o.handle.index = 0 → d.node? (f.path.place d.home) = none) := by
  have hon := h.onDisk
  rw [Stream.filing_between (Stream.isBetween_resting hrest)] at hon
  constructor
  · intro hclosed r hr
    rw [hclosed, Option.elim_none] at hon
    generalize track.writer = writer at hon
    cases hon with
    | closed hrs => exact (hrs r hr).ended
  · intro f hfile
    rw [hfile, Option.elim_some] at hon
    generalize track.writer = writer at hon ⊢
    generalize f.path = path at hon ⊢
    generalize f.thumbnail.toList = snapshots at hon
    cases hon with
    | @writing r rs _ files _ _ _ given heard hrs hopen hfiles hfills hvideo haudio hfree =>
      -- nothing waits for the writer
      have hgiven : given = r.video := by simpa using hvideo
      have hheard : heard = r.sound := by simpa using haudio
      subst hgiven hheard
      refine ⟨r, rs, files, rfl, fun r' hr' => (hrs r' hr').ended, hopen, rfl, ?_, hfills, hfree⟩
      rw [← hfiles]

end Track.Records

namespace Session

variable {s₀ s s' : Session} {es es' : Entries} {i j : Nat} {o o' : Stream} {track : Track}
  {p p' q q' : Path} {files files' : List (Nat × Path)}

/-! ## The files of all streams -/

/-- The files that began, with the numbers of their streams. -/
def begun (es : Entries) : List (Nat × Path) := es.filterMap fun e => e.2.begun?.map (e.1, ·)

theorem begun_append (es es' : Entries) : begun (es ++ es') = begun es ++ begun es' :=
  List.filterMap_append

/-- The files of one stream, in the order they began. -/
theorem sublist_begun (es : Entries) (i : Nat) :
    (((entriesOf es i).filterMap Entry.begun?).map (i, ·)).Sublist (begun es) := by
  induction es with
  | nil => exact .slnil
  | cons e es ih =>
    obtain ⟨j, e⟩ := e
    unfold entriesOf begun at ih ⊢
    by_cases hij : j = i
    · subst hij
      cases hbegun : e.begun? with
      | none => simpa [hbegun] using ih
      | some path => simpa [hbegun] using ih
    · cases hbegun : e.begun? with
      | none => simpa [hbegun, hij] using ih
      | some path => simpa [hbegun, hij] using ih.cons (j, path)

/-- The paths that have to do with a file of a stream. -/
def forms (s : Session) (file : Nat × Path) : List Path :=
  (s.stream? file.1).elim [] (·.forms file.2)

theorem forms_eq (hi : s.stream? i = some o) (p : Path) : s.forms (i, p) = o.forms p := by
  rw [forms, hi]
  rfl

/-- The places on the ways to files. -/
def ground (s : Session) (files : List (Nat × Path)) : List Location :=
  (files.flatMap s.forms).flatMap (·.way s.disk.home)

theorem ground_append (s : Session) (files files' : List (Nat × Path)) :
    s.ground (files ++ files') = s.ground files ++ s.ground files' := by
  simp [ground]

theorem ground_subset (hi : s.stream? i = some o) (h : (i, p) ∈ files) :
    o.ground s.disk.home p ⊆ s.ground files := by
  intro loc hloc
  obtain ⟨q, hq, hway⟩ := List.mem_flatMap.mp hloc
  refine List.mem_flatMap.mpr ⟨q, List.mem_flatMap.mpr ⟨(i, p), h, ?_⟩, hway⟩
  rwa [forms_eq hi]

/-- The paths that have to do with files lead to free places, all of them different, and none leads
through the place of another. -/
structure Placed (s : Session) (files : List (Nat × Path)) : Prop where
  free : ∀ q ∈ files.flatMap s.forms, s.disk.node? (q.place s.disk.home) = none
  apart : (files.flatMap s.forms).Pairwise (Path.Apart s.disk.home)

namespace Placed

theorem left (h : s.Placed (files ++ files')) : s.Placed files := by
  obtain ⟨hfree, hapart⟩ := h
  rw [List.flatMap_append] at hfree hapart
  exact ⟨fun q hq => hfree q (List.mem_append_left _ hq), (List.pairwise_append.mp hapart).1⟩

/-- What has to do with later files is off the ground of the earlier. -/
theorem off_ground (h : s.Placed (files ++ files')) (hq : q ∈ files'.flatMap s.forms) :
    q.place s.disk.home ∉ s.ground files := by
  have hapart := h.apart
  rw [List.flatMap_append] at hapart
  intro hmem
  obtain ⟨q', hq', hway⟩ := List.mem_flatMap.mp hmem
  exact ((List.pairwise_append.mp hapart).2.2 q' hq' q hq).not_mem_way' hway

/-- The files of one stream keep out of each other's way. -/
theorem spread (h : s.Placed (begun es)) (hi : s.stream? i = some o) :
    o.Spread s.disk.home ((recordings (entriesOf es i)).map (·.path)) := by
  have hsub := (sublist_begun es i).flatMap s.forms
  have hforms : ((((entriesOf es i).filterMap Entry.begun?).map (i, ·)).flatMap s.forms)
      = ((entriesOf es i).filterMap Entry.begun?).flatMap o.forms := by
    rw [List.flatMap_map]
    exact List.flatMap_congr fun p _ => forms_eq hi p
  rw [hforms] at hsub
  rw [Stream.Spread, recordings, paths_foldl_record, List.map_nil, List.append_nil]
  have hperm := (List.reverse_perm ((entriesOf es i).filterMap Entry.begun?)).flatMap_right o.forms
  exact (hperm.pairwise_iff Path.Apart.symm).mpr (h.apart.sublist hsub)

/-- The files of different streams keep out of each other's way. -/
theorem off_ground_of_ne (h : s.Placed files) (hij : i ≠ j) (hi : s.stream? i = some o)
    (hj : s.stream? j = some o') (hp : (i, p) ∈ files) (hp' : (j, p') ∈ files)
    (hq' : q' ∈ o'.forms p') : q'.place s.disk.home ∉ o.ground s.disk.home p := by
  have hfiles := (List.pairwise_flatMap.mp h.apart).2
  have hne : (j, p') ≠ (i, p) := fun heq => hij (congrArg Prod.fst heq).symm
  have hsymm : Std.Symm fun file file' : Nat × Path =>
      ∀ x ∈ s.forms file, ∀ y ∈ s.forms file', Path.Apart s.disk.home x y :=
    ⟨fun _ _ hapart x hx y hy => (hapart y hy x hx).symm⟩
  apply Stream.off_ground
  intro q hq
  rw [← forms_eq hi] at hq
  rw [← forms_eq hj] at hq'
  exact hfiles.forall hp' hp hne q' hq' q hq

end Placed

/-- The recordings of a stream are among the files that began. -/
theorem mem_begun (h : p ∈ (recordings (entriesOf es i)).map (·.path)) : (i, p) ∈ begun es := by
  rw [recordings, paths_foldl_record, List.map_nil, List.append_nil, List.mem_reverse] at h
  exact (sublist_begun es i).subset (List.mem_map_of_mem h)

/-! ## What the disk holds -/

/-- Since a session was assembled, the disk has come to hold what the journals of its streams tell,
and the rest of it is as it was. -/
structure Filed (s₀ : Session) (es : Entries) (s : Session) : Prop where
  changes : s₀.disk.ChangesOnly (s₀.ground (begun es)) s.disk
  tracks : ∀ i track, s.tracks[i]? = some track → ∃ o, s₀.stream? i = some o ∧
    track.Records o s.disk (recordings (entriesOf es i))

/-- A new session has no files. -/
theorem filed_assemble (config : SessionConfig) {disk : Disk} (hdisk : disk.Sound) :
    (assemble config (fun _ => .toFiles) disk).Filed [] (assemble config (fun _ => .toFiles) disk)
    where
  changes := hdisk.unchanged _
  tracks i track hi := by
    have hstream : (assemble config (fun _ => .toFiles) disk).stream? i = some track.stream := by
      rw [stream?, hi]
      rfl
    refine ⟨track.stream, hstream, .refl _, (lawful_of_assemble hstream).1.shaped, ?_, ?_⟩
    all_goals
      obtain ⟨hlt, rfl⟩ := List.getElem?_eq_some_iff.mp hi
      simp only [assemble, List.getElem_mapIdx]
    · intro f hf
      cases hf
    · exact .closed (List.forall_mem_nil _)

/-- A new file comes to a place at which nothing has been since the start. -/
theorem Filed.free (h : s₀.Filed es s) (hplaced : s₀.Placed (begun es ++ files))
    (hi : s₀.stream? i = some o) (hp : (i, p) ∈ files) :
    s.disk.node? (p.place s.disk.home) = none := by
  have hforms : p ∈ files.flatMap s₀.forms := by
    refine List.mem_flatMap.mpr ⟨(i, p), hp, ?_⟩
    rw [forms_eq hi]
    exact o.self_mem_forms p
  rw [h.changes.home, h.changes.node _ (hplaced.off_ground hforms)]
  apply hplaced.free
  rw [List.flatMap_append]
  exact List.mem_append_right _ hforms

/-- A calm step leaves the disk, and the streams go on. -/
theorem Filed.calm (h : s₀.Filed es s) (hcalm : s.Calm es' s') : s₀.Filed (es ++ es') s' where
  changes := by
    rw [hcalm.disk, begun_append, ground_append]
    exact h.changes.mono (List.subset_append_left _ _)
  tracks i track' hi' := by
    obtain ⟨track, hi⟩ : ∃ track, s.tracks[i]? = some track := by
      have hlt := (List.getElem?_eq_some_iff.mp hi').1
      rw [hcalm.length] at hlt
      exact ⟨_, List.getElem?_eq_getElem hlt⟩
    obtain ⟨stream, hstream, htrack⟩ := hcalm.tracks i track hi
    cases hi'.symm.trans htrack
    obtain ⟨o, ho, hrecords⟩ := h.tracks i track hi
    refine ⟨o, ho, ?_⟩
    rw [hcalm.disk, entriesOf_append, recordings_append]
    exact hrecords.calm hstream

/-- A call that is carried out is about the latest file of one stream, and leaves all others. -/
theorem Filed.served (h : s₀.Filed es s) (hplaced : s₀.Placed (begun (es ++ es')))
    (hserved : s.Served es' s') : s₀.Filed (es ++ es') s' := by
  cases hserved with
  | @mk i track en task writer disk hi hact htask hcall =>
    obtain ⟨o, ho, hrecords⟩ := h.tracks i track hi
    have htold : entriesOf (es ++ (track.stream.reply none).2.map (i, ·)) i
        = entriesOf es i ++ (track.stream.reply none).2 := by
      rw [entriesOf_append, entriesOf_self]
    have hspread := hplaced.spread ho
    rw [htold, recordings_append, ← h.changes.home] at hspread
    have hfree (path : Path) (hbegin : .event (.fileBegin path) ∈ (track.stream.reply none).2) :
        s.disk.node? (path.place s.disk.home) = none := by
      rw [begun_append] at hplaced
      exact h.free hplaced ho (List.mem_filterMap.mpr ⟨_, List.mem_map_of_mem hbegin, rfl⟩)
    obtain ⟨⟨p, hp, hground⟩, hrecords'⟩ :=
      hrecords.served h.changes.sound hact htask hcall hspread fun path hbegin _ =>
        hfree path hbegin
    rw [← recordings_append, ← htold] at hp hrecords'
    rw [h.changes.home] at hground
    have hbegun := mem_begun hp
    constructor
    · refine Disk.ChangesOnly.trans (h.changes.mono ?_) (hground.mono (ground_subset ho hbegun))
      rw [begun_append, ground_append]
      exact List.subset_append_left _ _
    · intro j track' hj
      by_cases hij : i = j
      · subst hij
        have hset : track' = ⟨(track.stream.reply none).1, writer⟩ := by
          have hlt := (List.getElem?_eq_some_iff.mp hi).1
          simpa [hlt] using hj.symm
        rw [hset]
        exact ⟨o, ho, hrecords'⟩
      · rw [List.getElem?_set_ne hij] at hj
        obtain ⟨o', ho', hother⟩ := h.tracks j track' hj
        refine ⟨o', ho', ?_⟩
        rw [entriesOf_append, entriesOf_other _ hij, List.append_nil]
        apply hother.elsewhere h.changes.sound hground
        intro r hr q hq
        have hr : (j, r.path) ∈ begun (es ++ (track.stream.reply none).2.map (i, ·)) := by
          rw [begun_append]
          exact List.mem_append_left _ (mem_begun (List.mem_map_of_mem hr))
        rw [h.changes.home]
        exact hplaced.off_ground_of_ne hij ho ho' hbegun hr hq

/-- Whatever is done with the session, as long as nothing fails. -/
theorem Filed.steps (h : s₀.Filed es s) (hsteps : s.Steps es' s')
    (hsucceeds : ∀ e ∈ es', e.2.isFailure = false) (hplaced : s₀.Placed (begun (es ++ es'))) :
    s₀.Filed (es ++ es') s' := by
  induction hsteps generalizing es with
  | nil => rwa [List.append_nil]
  | @cons s s₁ s' es₁ es₂ hstep _ ih =>
    obtain ⟨hnow, hlater⟩ := List.forall_mem_append.mp hsucceeds
    rw [← List.append_assoc] at hplaced ⊢
    have hplaced₁ : s₀.Placed (begun (es ++ es₁)) := by
      rw [begun_append] at hplaced
      exact hplaced.left
    refine ih ?_ hlater hplaced
    rcases hstep.calm_or_served hnow with hcalm | hserved
    · exact h.calm hcalm
    · exact h.served hplaced₁ hserved

/-! ## What the files hold -/

/-- What ended is there. -/
theorem Filed.finished (h : s₀.Filed es s) (ho : s₀.stream? i = some o) (hi : i < s.tracks.length)
    {r : Recording} (hr : r ∈ recordings (entriesOf es i)) (hended : r.ended = true) :
    o.Finished s.disk r := by
  obtain ⟨o', ho', hrecords⟩ := h.tracks i _ (List.getElem?_eq_getElem hi)
  cases ho.symm.trans ho'
  exact hrecords.onDisk.finished hr hended

theorem index_of_assemble {config : SessionConfig} {writer : StreamConfig → Writer} {disk : Disk}
    (hi : (assemble config writer disk).stream? i = some o) : o.handle.index = i := by
  obtain ⟨track, htrack, rfl⟩ := Option.map_eq_some_iff.mp hi
  obtain ⟨hlt, rfl⟩ := List.getElem?_eq_some_iff.mp htrack
  simp [assemble, Stream.create]

/-- **The files hold what was handed over.** A session writes to a disk on which the paths of its
files keep out of each other's way and lead to free places, and nothing fails. Between the wakes of
a worker all its files have ended but the open one, which is the latest. What was handed over for
the open file is in the files at which its writer is, or waits to be written there; the video of the
first stream is at the path with the mark of a file in progress, and nothing is at the path itself.
A file that ended holds the data of its video frames in the order they were handed over, with the
box of the snapshot that was taken for it, if there was one that fits; the file beside it holds the
data of its audio frames; nothing is left in progress; and so it stays, whatever is done with the
session later. -/
theorem files_hold_recordings (config : SessionConfig) {disk : Disk} (hdisk : disk.Sound)
    {es es' : Entries} {s s' : Session}
    (hreach : (assemble config (fun _ => .toFiles) disk).Steps es s) (hlater : s.Steps es' s')
    (hsucceeds : ∀ e ∈ es ++ es', e.2.isFailure = false)
    (hplaced : (assemble config (fun _ => .toFiles) disk).Placed (begun (es ++ es')))
    {i : Nat} {track : Track} (hi : s.tracks[i]? = some track) :
    let stream := track.stream
    let rs := recordings (entriesOf es i)
    let written (p : Path) : Path := if i = 0 then p.inProgress else p
    (stream.activity.task? = none →
      (stream.file = none → ∀ r ∈ rs, r.ended = true) ∧
      ∀ f, stream.file = some f → ∃ r earlier files, rs = r :: earlier ∧
        (∀ r' ∈ earlier, r'.ended = true) ∧ r.ended = false ∧ r.path = f.path ∧
        track.writer = .files { files := some files } ∧
        files.Fills s.disk (written f.path) stream.config.audio r.video r.sound ∧
        (i = 0 → s.disk.contains f.path = false)) ∧
    ∀ r ∈ rs, r.ended = true → r.snapshots.length ≤ 1 ∧ ∀ d ∈ [s.disk, s'.disk],
      d.read? r.path = some (r.video ++ boxes stream.config.thumbnail r.snapshots) ∧
      (∀ params ∈ stream.config.audio,
        d.read? ((written r.path).audioSibling params.codec) = some r.sound) ∧
      (i = 0 → d.contains r.path.inProgress = false) := by
  intro stream rs written
  obtain ⟨hnow, hthen⟩ := List.forall_mem_append.mp hsucceeds
  have hfiled : (assemble config (fun _ => .toFiles) disk).Filed es s := by
    have hplaced := hplaced
    rw [begun_append] at hplaced
    exact (filed_assemble config hdisk).steps hreach hnow hplaced.left
  have hfiled' := hfiled.steps hlater hthen hplaced
  obtain ⟨o, ho, hrecords⟩ := hfiled.tracks i track hi
  have hindex := index_of_assemble ho
  have hwritten (p : Path) : o.writePath p = written p := by
    rw [Stream.writePath, hindex]
  have hconfig : stream.config = o.config := hrecords.same.config
  have hhome := hfiled.changes.home
  rw [hconfig]
  constructor
  · intro hrest
    obtain ⟨hclosed, hopen⟩ := hrecords.at_rest hrest
    refine ⟨hclosed, ?_⟩
    intro f hfile
    obtain ⟨r, earlier, files, hrs, hearlier, hended, hpath, hwriter, hfills, hfree⟩ :=
      hopen f hfile
    rw [hwritten] at hfills
    exact ⟨r, earlier, files, hrs, hearlier, hended, hpath, hwriter, hfills,
      fun hfirst => hfiled.changes.sound.contains_eq_false (hfree (hindex.trans hfirst))⟩
  · intro r hr hended
    have hfinished := hrecords.onDisk.finished hr hended
    have hfinished' : o.Finished s'.disk r := by
      have hlt := (List.getElem?_eq_some_iff.mp hi).1
      rw [← hlater.length] at hlt
      refine hfiled'.finished ho hlt ?_ hended
      rw [entriesOf_append, recordings_append]
      exact mem_foldl_record hr hended _
    have hholds {d : Disk} (hd : d.Sound) (h : o.Finished d r) :
        d.read? r.path = some (r.video ++ boxes o.config.thumbnail r.snapshots) ∧
        (∀ params ∈ o.config.audio,
          d.read? ((written r.path).audioSibling params.codec) = some r.sound) ∧
        (i = 0 → d.contains r.path.inProgress = false) := by
      refine ⟨h.video, ?_, ?_⟩
      · intro params hparams
        rw [← hwritten]
        exact h.sound params hparams
      · intro hfirst
        exact hd.contains_eq_false (h.unmarked (hindex.trans hfirst))
    refine ⟨hfinished.kept, List.forall_mem_cons.mpr ⟨hholds hfiled.changes.sound hfinished, ?_⟩⟩
    exact List.forall_mem_singleton.mpr (hholds hfiled'.changes.sound hfinished')

/-! ## Files to look at -/

/-- A stream with sound. -/
def withSound : StreamConfig := { Stream.secondLong with audio := some ⟨.mp3, 44100, 2, 0⟩ }

/-- The only stream of a session is started, and gets a key frame, sound and a snapshot. Its worker
puts them into a file. -/
def filmingSession : Session :=
  let started := (assemble ⟨0, [withSound]⟩ (fun _ => .toFiles) {}).start.1
  let withVideo := (started.broadcast .video ⟨[7], 0, true⟩).1
  let fed := ((withVideo.broadcast .audio ⟨[9], 0, false⟩).1.broadcast .thumbnail ⟨[5], 0, false⟩).1
  ((fed.wake 0).1.afterTurns 16).1

/-- The session is shut down, and the worker finishes the file. -/
def filmedSession : Session := ((filmingSession.shutDown.1.wake 0).1.afterTurns 10).1

/-- What its journal tells of the file. -/
def filmed : Recording where
  path := ⟨[1]⟩
  videos := [⟨0, ⟨[7], 0, true⟩⟩]
  audios := [⟨0, ⟨[9], 0, false⟩⟩]
  snapshots := [⟨0, ⟨[5], 0, false⟩⟩]
  ended := true

/-- The file holds the key frame and the box with the snapshot, and the one beside it the sound. -/
theorem files_hold_recordings_filmed :
    filmedSession.disk.read? ⟨[1]⟩ = some ([7] ++ boxes {} filmed.snapshots) ∧
    filmedSession.disk.read? (Path.audioSibling ⟨[1]⟩ .mp3) = some [9] ∧
    filmedSession.disk.contains (Path.inProgress ⟨[1]⟩) = false := by
  have hreach : (assemble ⟨0, [withSound]⟩ (fun _ => .toFiles) {}).Steps _ filmedSession :=
    .cons .start (.cons .broadcast (.cons .broadcast (.cons .broadcast (.cons .wake
      ((steps_afterTurns (by decide +kernel) 16).append (.cons .shutDown (.cons .wake
        (steps_afterTurns (by decide +kernel) 10))))))))
  have hfound : (filmedSession.tracks[0]?).map (fun track => track.stream.config)
      = some withSound := by decide +kernel
  obtain ⟨track, hi, hconfig⟩ := Option.map_eq_some_iff.mp hfound
  obtain ⟨-, hended⟩ := files_hold_recordings _ Disk.sound_empty hreach .nil (by decide +kernel)
    ⟨by decide +kernel, by decide +kernel⟩ hi
  obtain ⟨-, hholds⟩ := hended filmed (by decide +kernel) rfl
  obtain ⟨hvideo, hsound, hunmarked⟩ := hholds _ List.mem_cons_self
  have hthumbnail : track.stream.config.thumbnail = {} := by rw [hconfig]; rfl
  have haudio : track.stream.config.audio = some ⟨.mp3, 44100, 2, 0⟩ := by rw [hconfig]; rfl
  have hsibling : filmed.path.inProgress.audioSibling .mp3 = Path.audioSibling ⟨[1]⟩ .mp3 := by
    decide +kernel
  have hvideoData : filmed.video = [7] := rfl
  have hsoundData : filmed.sound = [9] := rfl
  replace hsound := hsound _ haudio
  simp only [if_true, hsibling, hsoundData] at hsound
  rw [hthumbnail, hvideoData] at hvideo
  exact ⟨hvideo, hsound, hunmarked rfl⟩

/-- Gives two streams a file each. -/
def twoNames (second : Path) (_ : UInt32) (_ : Nat) (_ : Unit) :
    Except NameError (List Path) × Unit :=
  (.ok [⟨[0x61]⟩, second], ())

/-- A turn in which a file gets its name from `twoNames`, if it is to be named. -/
def namedTurn (second : Path) (s : Session) (i : Nat) : Session × Entries :=
  match (s.stream? i).bind (·.activity.task?) with
  | some (.naming ..) =>
    let named := s.nameFile (twoNames second) i ()
    (named.1, named.2.1)
  | _ => s.turn i

theorem step_namedTurn (second : Path) (hi : s.stream? i = some o) :
    s.Step (s.namedTurn second i).2 (s.namedTurn second i).1 := by
  unfold namedTurn
  split
  · exact @Step.name s Unit (twoNames second) i ()
  · exact step_turn hi

/-- A session after some turns of one worker, and what happened. -/
def afterNamedTurns (second : Path) (s : Session) (i : Nat) : Nat → Session × Entries
  | 0 => (s, [])
  | n + 1 =>
    let later := (s.namedTurn second i).1.afterNamedTurns second i n
    (later.1, (s.namedTurn second i).2 ++ later.2)

theorem steps_afterNamedTurns (second : Path) (hi : i < s.tracks.length) (n : Nat) :
    s.Steps (s.afterNamedTurns second i n).2 (s.afterNamedTurns second i n).1 := by
  induction n generalizing s with
  | zero => exact .nil
  | succ n ih =>
    have hstream : s.stream? i = some s.tracks[i].stream := by
      simp [stream?, List.getElem?_eq_getElem hi]
    have hstep := step_namedTurn second hstream
    exact .cons hstep (ih (by rw [hstep.length]; exact hi))

/-- A session of two streams that writes to an empty disk. -/
def twoStreams : Session :=
  assemble ⟨0, [Stream.secondLong, { Stream.secondLong with channelId := 1 }]⟩
    (fun _ => .toFiles) {}

/-- Two streams are started, get a key frame, and open a file each. -/
def bothOpen (second : Path) : Session :=
  let fed := (twoStreams.start.1.broadcast .video ⟨[7], 0, true⟩).1
  let first := ((fed.wake 0).1.afterNamedTurns second 0 12).1
  ((first.wake 1).1.afterNamedTurns second 1 12).1

/-- A second file takes the place of the first, which is still in progress, although nothing fails,
and the paths of the two are different and lead to nothing at first. -/
def InTheWay (second : Path) : Prop :=
  ∃ es, twoStreams.Steps es (bothOpen second) ∧ (∀ e ∈ es, e.2.isFailure = false) ∧
    ((begun es).flatMap twoStreams.forms).Nodup ∧
    (∀ q ∈ (begun es).flatMap twoStreams.forms, twoStreams.disk.contains q = false) ∧
    ((bothOpen second).tracks[0]?).map (fun track =>
        (track.stream.activity, track.stream.file.map (·.path)))
      = some (.asleep, some ⟨[0x61]⟩) ∧
    (bothOpen second).disk.contains ⟨[0x61]⟩ = true

/-- It is not enough that all paths are different: the second file may be in a directory that is
named as the first, or its path may spell that of the first in another way. -/
theorem second_file_in_the_way :
    InTheWay ⟨[0x61, 0x2f, 0x62]⟩ ∧ InTheWay ⟨[0x2e, 0x2f, 0x61]⟩ := by
  constructor
  all_goals
    refine ⟨_, .cons .start (.cons .broadcast (.cons .wake
      ((steps_afterNamedTurns _ (by decide +kernel) 12).append (.cons .wake
        (steps_afterNamedTurns _ (by decide +kernel) 12))))), ?_, ?_, ?_, ?_, ?_⟩
    all_goals decide +kernel

end Session

end CameraRecorder

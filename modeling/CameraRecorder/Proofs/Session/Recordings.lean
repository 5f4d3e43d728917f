import CameraRecorder.Proofs.Disk.FileWriter
import CameraRecorder.Proofs.Session.Runs
import CameraRecorder.Proofs.Stream.Recordings

/-!
# The recordings of one stream on the disk

What a journal tells of the files of a stream stands on the disk: each file that ended is there
under its name, and the open one is written by the writer of the stream (`Stream.OnDisk`). This
stays so when something happens elsewhere on the disk, and each call to the writer takes it from one
moment to the next.
-/

namespace CameraRecorder

/-- Two paths lead to different places, and neither is on the way to the other. -/
structure Path.Apart (home : Location) (p q : Path) : Prop where
  place_ne : p.place home ≠ q.place home
  not_mem_way : p.place home ∉ q.way home
  not_mem_way' : q.place home ∉ p.way home

instance (home : Location) (p q : Path) : Decidable (Path.Apart home p q) :=
  decidable_of_iff
    (p.place home ≠ q.place home ∧ p.place home ∉ q.way home ∧ q.place home ∉ p.way home)
    ⟨fun ⟨hne, hway, hway'⟩ => ⟨hne, hway, hway'⟩,
      fun h => ⟨h.place_ne, h.not_mem_way, h.not_mem_way'⟩⟩

theorem Path.Apart.symm {home : Location} {p q : Path} (h : Path.Apart home p q) :
    Path.Apart home q p := ⟨h.place_ne.symm, h.not_mem_way', h.not_mem_way⟩

namespace Stream

variable {o : Stream} {d d' : Disk} {home : Location} {places : List Location} {p q : Path}
  {paths : List Path} {r : Recording} {rs : List Recording} {filing filing' : Filing}
  {writer : Writer} {es : List Entry}

/-- The paths that have to do with a file: its name, the name under which it is written, and that of
its sound. -/
def forms (s : Stream) (p : Path) : List Path :=
  (if s.handle.index = 0 then [p] else []) ++ (s.writePath p).outputs s.config.audio

/-- The places on the ways to a file. -/
def ground (s : Stream) (home : Location) (p : Path) : List Location :=
  (s.forms p).flatMap (·.way home)

/-- A file that ended is there. Under its name stands its video and, if it kept a snapshot, the box
that this makes; the sound stands beside it; and nothing tells that it was in progress. -/
structure Finished (o : Stream) (d : Disk) (r : Recording) : Prop where
  ended : r.ended = true
  kept : r.snapshots.length ≤ 1
  video : d.read? r.path = some (r.video ++ boxes o.config.thumbnail r.snapshots)
  sound : ∀ params ∈ o.config.audio,
    d.read? ((o.writePath r.path).audioSibling params.codec) = some r.sound
  unmarked : o.handle.index = 0 → d.node? (r.path.inProgress.place d.home) = none

/-- What the journal tells of the files of a stream stands on the disk, or is about to be put there
by the writer. -/
inductive OnDisk (o : Stream) (d : Disk) : Filing → Writer → List Recording → Prop
  | closed {rs : List Recording} (hrs : ∀ r ∈ rs, o.Finished d r) :
    OnDisk o d .closed .toFiles rs
  | asked {path : Path} {rs : List Recording} (hrs : ∀ r ∈ rs, o.Finished d r) :
    OnDisk o d (.asked path) .toFiles rs
  /-- What was written and what the call at hand adds is what the journal tells. -/
  | writing {r : Recording} {rs : List Recording} {w : FileWriter} {files : OpenFiles} {last : Bool}
    {video audio given heard : Bytes} (hrs : ∀ r ∈ rs, o.Finished d r) (hopen : r.ended = false)
    (hfiles : w.files = some files)
    (hfills : files.Fills d (o.writePath r.path) o.config.audio given heard)
    (hvideo : given ++ video
      = r.video ++ if last then boxes o.config.thumbnail r.snapshots else [])
    (haudio : heard ++ audio = r.sound)
    (hfree : o.handle.index = 0 → d.node? (r.path.place d.home) = none) :
    OnDisk o d (.writing r.path r.snapshots last video audio) (.files w) (r :: rs)
  | publishing {r : Recording} {rs : List Recording} (hrs : ∀ r ∈ rs, o.Finished d r)
    (hopen : r.ended = false)
    (hvideo : d.read? (o.writePath r.path)
      = some (r.video ++ boxes o.config.thumbnail r.snapshots))
    (hsound : ∀ params ∈ o.config.audio,
      d.read? ((o.writePath r.path).audioSibling params.codec) = some r.sound)
    (hfree : o.handle.index = 0 → d.node? (r.path.place d.home) = none) :
    OnDisk o d (.publishing r.path r.snapshots) .toFiles (r :: rs)

theorem OnDisk.mem_of_writing {snapshots : List Ticket} {last : Bool} {video audio : Bytes}
    (h : o.OnDisk d (.writing p snapshots last video audio) writer rs) :
    p ∈ rs.map (·.path) := by
  cases h with
  | writing => exact List.mem_cons_self

theorem OnDisk.mem_of_publishing {snapshots : List Ticket}
    (h : o.OnDisk d (.publishing p snapshots) writer rs) : p ∈ rs.map (·.path) := by
  cases h with
  | publishing => exact List.mem_cons_self

theorem OnDisk.finished (h : o.OnDisk d filing writer rs) (hr : r ∈ rs) (hended : r.ended = true) :
    o.Finished d r := by
  cases h with
  | closed hrs | asked hrs => exact hrs r hr
  | writing hrs hopen | publishing hrs hopen =>
    rcases List.mem_cons.mp hr with rfl | hr
    · cases hopen.symm.trans hended
    · exact hrs r hr

/-! ## Places -/

theorem mem_forms_of_output (h : q ∈ (o.writePath p).outputs o.config.audio) : q ∈ o.forms p :=
  List.mem_append_right _ h

theorem self_mem_forms (o : Stream) (p : Path) : p ∈ o.forms p := by
  unfold forms writePath
  by_cases h : o.handle.index = 0
  · simp [h]
  · simp [h, Path.outputs]

theorem inProgress_mem_forms (h : o.handle.index = 0) (p : Path) : p.inProgress ∈ o.forms p := by
  unfold forms writePath
  simp [h, Path.outputs]

theorem sound_mem_forms {params : AudioParams} (h : params ∈ o.config.audio) (p : Path) :
    (o.writePath p).audioSibling params.codec ∈ o.forms p :=
  mem_forms_of_output ((o.writePath p).sibling_mem_outputs h)

theorem way_subset_ground (h : q ∈ o.forms p) (home : Location) : q.way home ⊆ o.ground home p :=
  fun _ hloc => List.mem_flatMap.mpr ⟨q, h, hloc⟩

theorem outputs_ground_subset (o : Stream) (home : Location) (p : Path) :
    (o.writePath p).ground o.config.audio home ⊆ o.ground home p := by
  intro loc hloc
  obtain ⟨q, hq, hway⟩ := List.mem_flatMap.mp hloc
  exact way_subset_ground (mem_forms_of_output hq) home hway

/-- What is apart from a file is off its ground. -/
theorem off_ground (h : ∀ q' ∈ o.forms p, Path.Apart home q q') :
    q.place home ∉ o.ground home p := by
  intro hmem
  obtain ⟨q', hq', hway⟩ := List.mem_flatMap.mp hmem
  exact (h q' hq').not_mem_way hway

/-! ## What happens elsewhere -/

theorem Finished.elsewhere (h : o.Finished d r) (hd : d.Sound) (hchanges : d.ChangesOnly places d')
    (hoff : ∀ q ∈ o.forms r.path, q.place d.home ∉ places) : o.Finished d' r where
  ended := h.ended
  kept := h.kept
  video := hchanges.read hd (hoff _ (o.self_mem_forms r.path)) h.video
  sound params hparams :=
    hchanges.read hd (hoff _ (sound_mem_forms hparams r.path)) (h.sound params hparams)
  unmarked hfirst := by
    rw [hchanges.home, hchanges.node _ (hoff _ (inProgress_mem_forms hfirst r.path))]
    exact h.unmarked hfirst

/-- What happens elsewhere on the disk leaves the files of a stream. -/
theorem OnDisk.elsewhere (h : o.OnDisk d filing writer rs) (hd : d.Sound)
    (hchanges : d.ChangesOnly places d')
    (hoff : ∀ r ∈ rs, ∀ q ∈ o.forms r.path, q.place d.home ∉ places) :
    o.OnDisk d' filing writer rs := by
  have hfinished {rs : List Recording} (hrs : ∀ r ∈ rs, o.Finished d r)
      (hoff : ∀ r ∈ rs, ∀ q ∈ o.forms r.path, q.place d.home ∉ places) :
      ∀ r ∈ rs, o.Finished d' r :=
    fun r hr => (hrs r hr).elsewhere hd hchanges (hoff r hr)
  have hfree' {r : Recording} (hoff : ∀ q ∈ o.forms r.path, q.place d.home ∉ places)
      (hfree : o.handle.index = 0 → d.node? (r.path.place d.home) = none) :
      o.handle.index = 0 → d'.node? (r.path.place d'.home) = none := by
    intro hfirst
    rw [hchanges.home, hchanges.node _ (hoff _ (o.self_mem_forms r.path))]
    exact hfree hfirst
  cases h with
  | closed hrs => exact .closed (hfinished hrs hoff)
  | asked hrs => exact .asked (hfinished hrs hoff)
  | writing hrs hopen hfiles hfills hvideo haudio hfree =>
    obtain ⟨hoff, hothers⟩ := List.forall_mem_cons.mp hoff
    exact .writing (hfinished hrs hothers) hopen hfiles
      (hfills.elsewhere hd hchanges fun q hq => hoff q (mem_forms_of_output hq)) hvideo haudio
      (hfree' hoff hfree)
  | publishing hrs hopen hvideo hsound hfree =>
    obtain ⟨hoff, hothers⟩ := List.forall_mem_cons.mp hoff
    refine .publishing (hfinished hrs hothers) hopen (hchanges.read hd (hoff _ ?_) hvideo)
      (fun params hparams => hchanges.read hd (hoff _ (sound_mem_forms hparams _))
        (hsound params hparams)) (hfree' hoff hfree)
    exact mem_forms_of_output List.mem_cons_self

/-! ## Between calls -/

/-- As long as nothing is carried out on the disk, the files are what the journal tells. -/
theorem OnDisk.goes (h : o.OnDisk d filing writer rs)
    (hgoes : Filing.Goes o.config.thumbnail filing es filing') :
    o.OnDisk d filing' writer (es.foldl record rs) := by
  cases hgoes with
  | stays hes =>
    rw [foldl_record_eq hes]
    exact h
  | asks hes =>
    rw [foldl_record_eq hes]
    cases h with
    | closed hrs => exact .asked hrs
  | handsVideo ticket =>
    cases h with
    | @writing r rs _ _ _ _ _ _ _ hrs hopen hfiles hfills hvideo haudio hfree =>
      have hrecord : [Entry.video ticket].foldl record (r :: rs)
          = { r with videos := r.videos ++ [ticket] } :: rs := by
        simp [record, hopen, Recording.add]
      rw [hrecord]
      refine .writing (r := { r with videos := r.videos ++ [ticket] }) hrs hopen hfiles hfills ?_
        haudio hfree
      simpa [Recording.video] using hvideo
  | handsAudio ticket =>
    cases h with
    | @writing r rs _ _ _ _ _ _ _ hrs hopen hfiles hfills hvideo haudio hfree =>
      have hrecord : [Entry.audio ticket].foldl record (r :: rs)
          = { r with audios := r.audios ++ [ticket] } :: rs := by
        simp [record, hopen, Recording.add]
      rw [hrecord]
      refine .writing (r := { r with audios := r.audios ++ [ticket] }) hrs hopen hfiles hfills
        hvideo ?_ hfree
      simpa [Recording.sound] using haudio
  | keeps hes =>
    cases h with
    | @writing r rs _ _ _ _ _ _ _ hrs hopen hfiles hfills hvideo haudio hfree =>
      rw [foldl_record_snapshots (fun e he => .inl (hes e he)) hopen]
      exact .writing (r := { r with snapshots := r.snapshots ++ snapshotsTaken es }) hrs hopen
        hfiles hfills hvideo haudio hfree
  | closes hes =>
    cases h with
    | @writing r rs _ _ _ _ _ _ _ hrs hopen hfiles hfills hvideo haudio hfree =>
      rw [foldl_record_snapshots hes hopen]
      refine .writing (r := { r with snapshots := r.snapshots ++ snapshotsTaken es }) hrs hopen
        hfiles hfills ?_ haudio hfree
      -- what was written so far is the video alone
      rw [List.append_nil, if_neg Bool.false_ne_true, List.append_nil] at hvideo
      rw [hvideo]
      rfl

/-! ## Calls -/

/-- Files do not get in each other's way, nor do the names of one file. -/
def Spread (o : Stream) (home : Location) (paths : List Path) : Prop :=
  (paths.flatMap o.forms).Pairwise (Path.Apart home)

theorem spread_cons : o.Spread home (p :: paths) ↔
    (o.forms p).Pairwise (Path.Apart home) ∧ o.Spread home paths ∧
      ∀ q ∈ o.forms p, ∀ q' ∈ paths.flatMap o.forms, Path.Apart home q q' := by
  rw [Spread, List.flatMap_cons, List.pairwise_append, ← Spread]

/-- Other files are off the ground of the latest. -/
theorem Spread.others (h : o.Spread home (p :: rs.map (·.path))) :
    ∀ r ∈ rs, ∀ q ∈ o.forms r.path, q.place home ∉ o.ground home p := by
  intro r hr q hq
  have hapart := (spread_cons.mp h).2.2
  exact off_ground fun q' hq' => (hapart q' hq' q
    (List.mem_flatMap.mpr ⟨r.path, List.mem_map_of_mem hr, hq⟩)).symm

/-- The final name of a file of the first stream is off the ground of those under which it is
written. -/
theorem Spread.apart_outputs (h : o.Spread home (p :: paths)) (hfirst : o.handle.index = 0) :
    ∀ q ∈ (o.writePath p).outputs o.config.audio, Path.Apart home p q := by
  have hown := (spread_cons.mp h).1
  rw [forms, if_pos hfirst] at hown
  exact (List.pairwise_cons.mp hown).1

theorem Spread.off_outputs (h : o.Spread home (p :: paths)) (hfirst : o.handle.index = 0) :
    p.place home ∉ (o.writePath p).ground o.config.audio home := by
  intro hmem
  obtain ⟨q, hq, hway⟩ := List.mem_flatMap.mp hmem
  exact (h.apart_outputs hfirst q hq).not_mem_way hway

theorem Spread.nodup_outputs (h : o.Spread home (p :: paths)) :
    (((o.writePath p).outputs o.config.audio).map (·.place home)).Nodup := by
  refine List.pairwise_map.mpr (List.Pairwise.imp Path.Apart.place_ne ?_)
  exact (List.pairwise_append.mp (spread_cons.mp h).1).2.1

/-- While the files of a recording are opened and written, the rest stays as it is. -/
theorem Spread.keeps (h : o.Spread d.home (p :: rs.map (·.path))) (hd : d.Sound)
    (hchanges : d.ChangesOnly ((o.writePath p).ground o.config.audio d.home) d')
    (hrs : ∀ r ∈ rs, o.Finished d r)
    (hfree : o.handle.index = 0 → d.node? (p.place d.home) = none) :
    d.ChangesOnly (o.ground d.home p) d' ∧ (∀ r ∈ rs, o.Finished d' r) ∧
      (o.handle.index = 0 → d'.node? (p.place d'.home) = none) := by
  have hground := hchanges.mono (o.outputs_ground_subset d.home p)
  refine ⟨hground, fun r hr => (hrs r hr).elsewhere hd hground (h.others r hr), ?_⟩
  intro hfirst
  rw [hchanges.home, hchanges.node _ (h.off_outputs hfirst)]
  exact hfree hfirst

/-- A file begins. -/
theorem OnDisk.begin (h : o.OnDisk d (.asked p) writer rs) (hd : d.Sound) {writer' : Writer}
    (hspread : o.Spread d.home (p :: rs.map (·.path)))
    (hfree : o.handle.index = 0 → d.node? (p.place d.home) = none)
    (hcall : writer.init (o.writePath p) o.config.audio d = (writer', d', none)) :
    d.ChangesOnly (o.ground d.home p) d' ∧
      o.OnDisk d' (.writing p [] false [] []) writer' ({ path := p } :: rs) := by
  cases h with
  | asked hrs =>
    cases hinit : FileWriter.init {} (o.writePath p) o.config.audio d with
    | mk w outcome =>
      obtain ⟨d₁, error⟩ := outcome
      rw [Writer.init, Writer.toFiles, Writer.onFiles, hinit] at hcall
      cases hcall
      obtain ⟨hchanges, files, hfiles, hfills⟩ :=
        FileWriter.fills_init hd hspread.nodup_outputs hinit
      obtain ⟨hground, hrs', hfree'⟩ := hspread.keeps hd hchanges hrs hfree
      exact ⟨hground, .writing (r := { path := p }) hrs' rfl hfiles hfills rfl rfl hfree'⟩

/-- A call adds its data to the open file. -/
theorem OnDisk.write (call : FileWriter → Disk → FileWriter.Outcome) {snapshots : List Ticket}
    {last : Bool} {video audio : Bytes} {writer' : Writer}
    (h : o.OnDisk d (.writing p snapshots last video audio) writer rs) (hd : d.Sound)
    (hspread : o.Spread d.home (rs.map (·.path)))
    (hspec : ∀ {w w' files given heard}, w.files = some files →
      files.Fills d (o.writePath p) o.config.audio given heard → call w d = (w', d', none) →
      d.ChangesOnly ((o.writePath p).sites o.config.audio d.home) d' ∧
        ∃ files', w'.files = some files' ∧
          files'.Fills d' (o.writePath p) o.config.audio (given ++ video) (heard ++ audio))
    (hcall : writer.onFiles d call = (writer', d', none)) :
    d.ChangesOnly (o.ground d.home p) d' ∧
      o.OnDisk d' (.writing p snapshots last [] []) writer' rs := by
  cases h with
  | @writing r rs w files _ _ _ given heard hrs hopen hfiles hfills hvideo haudio hfree =>
    cases hmade : call w d with
    | mk w' outcome =>
      obtain ⟨d₁, error⟩ := outcome
      rw [Writer.onFiles, hmade] at hcall
      cases hcall
      obtain ⟨hchanges, files', hfiles', hfills'⟩ := hspec hfiles hfills hmade
      have hchanges := hchanges.mono (hfills.sites_subset hd)
      obtain ⟨hground, hrs', hfree'⟩ := hspread.keeps hd hchanges hrs hfree
      refine ⟨hground, .writing hrs' hopen hfiles' hfills' ?_ ?_ hfree'⟩
      · rw [List.append_nil, hvideo]
      · rw [List.append_nil, haudio]

/-- The writer finishes the open file. -/
theorem OnDisk.finish {snapshots : List Ticket} {writer' : Writer}
    (h : o.OnDisk d (.writing p snapshots true [] []) writer rs) (hd : d.Sound)
    (hspread : o.Spread d.home (rs.map (·.path))) (hcall : writer.deinit d = (writer', d', none)) :
    d.ChangesOnly (o.ground d.home p) d' ∧
      o.OnDisk d' (.publishing p snapshots) writer' rs := by
  cases h with
  | @writing r rs w files _ _ _ given heard hrs hopen hfiles hfills hvideo haudio hfree =>
    cases hmade : w.deinit d with
    | mk w' outcome =>
      obtain ⟨d₁, error⟩ := outcome
      rw [Writer.deinit, Writer.onFiles, hmade] at hcall
      cases hcall
      rw [List.append_nil] at hvideo haudio
      subst hvideo haudio
      obtain ⟨hchanges, rfl, hread, hsound⟩ := FileWriter.read_deinit hd hfiles hfills hmade
      have hchanges := hchanges.mono (hfills.sites_subset hd)
      obtain ⟨hground, hrs', hfree'⟩ := hspread.keeps hd hchanges hrs hfree
      exact ⟨hground, .publishing hrs' hopen hread hsound hfree'⟩

/-- **The finished file gets its final name.** -/
theorem OnDisk.publish {snapshots : List Ticket}
    (h : o.OnDisk d (.publishing p snapshots) writer rs) (hkept : snapshots.length ≤ 1)
    (hd : d.Sound) (hspread : o.Spread d.home (rs.map (·.path))) (durationMs : Nat) :
    let d' := if o.writePath p ≠ p ∧ d.contains (o.writePath p) then
      (d.rename? (o.writePath p) p).getD d else d
    d.ChangesOnly (o.ground d.home p) d' ∧
      o.OnDisk d' .closed writer (record rs (.event (.fileEnd p durationMs))) := by
  cases h with
  | @publishing r rs hrs hopen hvideo hsound hfree =>
    have hrecord : record (r :: rs) (.event (.fileEnd r.path durationMs))
        = { r with ended := true } :: rs := by
      simp [record, hopen, Recording.add]
    rw [hrecord]
    by_cases hfirst : o.handle.index = 0
    · -- the file of the first stream is renamed
      have hmarked : o.writePath r.path = r.path.inProgress := if_pos hfirst
      rw [hmarked] at hvideo ⊢
      obtain ⟨id, hfile, hcontent⟩ := Disk.exists_lookup_of_read hvideo
      have hthere : d.contains r.path.inProgress = true := by
        rw [Disk.contains, hfile]
        rfl
      obtain ⟨hplace, -⟩ := hd.lookup_eq_file_iff.mp hfile
      have hplace' := hd.place_finished hplace (by simp [hfree hfirst])
      obtain ⟨d', hrename, hchanges, hfile', hcontent', hgone⟩ :=
        hd.rename hfile hplace' (hfree hfirst)
      rw [if_pos ⟨r.path.inProgress_ne, hthere⟩, hrename, Option.getD_some]
      have hground : d.ChangesOnly (o.ground d.home r.path) d' := by
        refine hchanges.mono
          (List.cons_subset.mpr ⟨?_, List.cons_subset.mpr ⟨?_, List.nil_subset _⟩⟩)
        · exact way_subset_ground (inProgress_mem_forms hfirst r.path) _ (hd.mem_way hfile)
        · exact way_subset_ground (o.self_mem_forms r.path) _ (hd.place hplace').2.1
      refine ⟨hground, .closed (List.forall_mem_cons.mpr ⟨⟨rfl, hkept, ?_, ?_, ?_⟩,
        fun r' hr' => (hrs r' hr').elsewhere hd hground (hspread.others r' hr')⟩)⟩
      · rw [Disk.read_of_lookup hfile', hcontent', hcontent]
        rfl
      · -- the sound is at neither of the two places
        intro params hparams
        refine hchanges.read hd ?_ (hsound params hparams)
        have hvideo := hspread.nodup_outputs
        have hname := hspread.apart_outputs hfirst _ (Path.sibling_mem_outputs _ hparams)
        obtain hparams : o.config.audio = some params := hparams
        rw [hmarked, hparams] at hvideo
        rw [hmarked] at hname ⊢
        have hne : r.path.inProgress.place d.home
            ≠ (r.path.inProgress.audioSibling params.codec).place d.home := by
          simpa [Path.outputs] using hvideo
        simp [hne.symm, hname.place_ne.symm]
      · intro _
        rw [hchanges.home]
        exact hgone
    · have hsame : o.writePath r.path = r.path := if_neg hfirst
      rw [if_neg (by simp [hsame])]
      rw [hsame] at hvideo
      exact ⟨hd.unchanged _, .closed (List.forall_mem_cons.mpr
        ⟨⟨rfl, hkept, hvideo, hsound, fun h => absurd h hfirst⟩, hrs⟩)⟩

/-- **Each call that is carried out does its part**: it changes nothing but the ground of the latest
file, and the disk goes on being what the journal tells. -/
theorem OnDisk.served {track : Track} {en : Bool} {task : Task} {writer' : Writer}
    (h : o.OnDisk d track.stream.filing track.writer rs) (hd : d.Sound)
    (hsame : o.Same track.stream) (hs : track.stream.Shaped)
    (hnamed : track.stream.WritesAsNamed) (hact : track.stream.activity = .awake en task)
    (htask : task.usesDisk = true)
    (hcall : Session.callOut track task d = (writer', d', none))
    (hspread : o.Spread d.home (((track.stream.reply none).2.foldl record rs).map (·.path)))
    (hfree : ∀ path, .event (.fileBegin path) ∈ (track.stream.reply none).2 →
      o.handle.index = 0 → d.node? (path.place d.home) = none) :
    (∃ path ∈ ((track.stream.reply none).2.foldl record rs).map (·.path),
      d.ChangesOnly (o.ground d.home path) d') ∧
      o.OnDisk d' (track.stream.reply none).1.filing writer'
        ((track.stream.reply none).2.foldl record rs) := by
  have hpath (path : Path) : track.stream.writePath path = o.writePath path := by
    rw [writePath, hsame.handle, writePath]
  have hpublishing : ∀ next, task = .publishing next → ∃ f, track.stream.file = some f ∧
      track.stream.filing = .publishing f.path f.thumbnail.toList := by
    rintro next rfl
    obtain ⟨f, hfile⟩ := hs.exists_file hact rfl
    refine ⟨f, hfile, ?_⟩
    rw [filing, hact, hfile]
    rfl
  have hends := reply_ends hs hact htask
  generalize track.stream.filing = filing at h hends hpublishing
  generalize track.stream.reply none = replied at hends hspread hfree ⊢
  obtain ⟨stream', es⟩ := replied
  simp only at hends hspread hfree ⊢
  generalize stream'.filing = filing' at hends ⊢
  cases hends with
  | @opens ticket generation path =>
    have hinit : track.writer.init (track.stream.writePath path) track.stream.config.audio d
        = (writer', d', none) := hcall
    rw [hpath, hsame.config] at hinit
    obtain ⟨hground, hon⟩ := h.begin hd hspread (hfree path (List.mem_singleton_self _)) hinit
    exact ⟨⟨path, List.mem_cons_self, hground⟩, hon⟩
  | @writes _ path snapshots last es hkind hes =>
    rw [foldl_record_eq hes] at hspread ⊢
    have hmade : d.ChangesOnly (o.ground d.home path) d' ∧
        o.OnDisk d' (.writing path snapshots last [] []) writer' rs := by
      rcases hkind with ⟨ticket, rfl⟩ | ⟨ticket, rfl⟩ | ⟨snapshot, data, next, rfl⟩
      · refine h.write (fun w d => w.writeVideo ticket.frame.data d) hd hspread
          (fun hfiles hfills hmade => ?_) hcall
        obtain ⟨hchanges, files', left, hfiles', hleaves, hfills'⟩ :=
          FileWriter.fills_writeVideo hd hfiles hfills hmade
        cases hleaves
        simpa [Task.videoData, Task.audioData] using ⟨hchanges, files', hfiles', hfills'⟩
      · refine h.write (fun w d => w.writeAudio ticket.frame.data d) hd hspread
          (fun hfiles hfills hmade => ?_) hcall
        obtain ⟨hchanges, files', left, hfiles', hleaves, hfills'⟩ :=
          FileWriter.fills_writeAudio hd hfiles hfills hmade
            fun _ => (Option.some_ne_none _).symm
        cases hleaves
        simpa [Task.videoData, Task.audioData] using ⟨hchanges, files', hfiles', hfills'⟩
      · refine h.write (fun w d => w.appendTrailer data d) hd hspread
          (fun hfiles hfills hmade => ?_) hcall
        obtain ⟨hchanges, files', left, hfiles', hleaves, hfills'⟩ :=
          FileWriter.fills_writeVideo hd hfiles hfills hmade
        cases hleaves
        simpa [Task.videoData, Task.audioData] using ⟨hchanges, files', hfiles', hfills'⟩
    exact ⟨⟨path, h.mem_of_writing, hmade.1⟩, hmade.2⟩
  | @finishes next path snapshots =>
    obtain ⟨hground, hon⟩ := h.finish hd hspread hcall
    exact ⟨⟨path, h.mem_of_writing, hground⟩, hon⟩
  | @publishes next path snapshots durationMs =>
    obtain ⟨f, hfile, hfiling⟩ := hpublishing next rfl
    cases hfiling
    have hmade : (track.writer, if f.writePath ≠ f.path ∧ d.contains f.writePath then
        (d.rename? f.writePath f.path).getD d else d, (none : Option WriterError))
        = (writer', d', none) := by
      rw [← hcall]
      unfold Session.callOut
      rw [hfile]
      simp only
      split <;> rfl
    rw [hnamed f hfile, hpath] at hmade
    cases hmade
    have hpaths : (record rs (.event (.fileEnd f.path durationMs))).map (·.path)
        = rs.map (·.path) := paths_record rs _
    have hkept : f.thumbnail.toList.length ≤ 1 := by cases f.thumbnail <;> simp
    obtain ⟨hground, hon⟩ := h.publish hkept hd (hpaths ▸ hspread) durationMs
    exact ⟨⟨f.path, hpaths ▸ h.mem_of_publishing, hground⟩, hon⟩

end Stream

end CameraRecorder

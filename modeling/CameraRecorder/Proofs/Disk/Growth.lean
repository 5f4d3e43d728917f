import CameraRecorder.Proofs.Disk.FileWriter

/-!
# A disk only grows

Whatever a file writer does, whether it succeeds or not, no name is taken away and none is given to
another file (`Disk.Grows`). So a file stays where it is, whoever else writes to the disk, until it
is renamed. Contents only change at a few places (`Disk.GrowsAt`), and the rest is read as before.
-/

namespace CameraRecorder

namespace Disk

variable {d d' d'' : Disk} {places : List Location} {p : Path} {loc : Location} {name : Bytes}
  {id : Nat}

/-- From one disk to the next names may be added, and contents may change. -/
structure Grows (d d' : Disk) : Prop where
  sound : d'.Sound
  home : d'.home = d.home
  node : ∀ loc node, d.node? loc = some node → d'.node? loc = some node

theorem Sound.grows_refl (hd : d.Sound) : d.Grows d := ⟨hd, rfl, fun _ _ h => h⟩

theorem Grows.trans (h : d.Grows d') (h' : d'.Grows d'') : d.Grows d'' where
  sound := h'.sound
  home := h'.home.trans h.home
  node loc node hnode := h'.node loc node (h.node loc node hnode)

/-- A file is found where it was. -/
theorem Grows.lookup_file (h : d.Grows d') (hd : d.Sound) (hfile : d.lookup? p = some (.file id)) :
    d'.lookup? p = some (.file id) := by
  obtain ⟨hplace, hnode⟩ := hd.lookup_eq_file_iff.mp hfile
  rw [h.sound.lookup_eq_file_iff, h.home]
  exact ⟨place?_mono h.home (fun loc => h.node loc .directory) hplace, h.node _ _ hnode⟩

/-- From one disk to the next names may be added, and the files at `places` may get other
contents. -/
structure GrowsAt (d : Disk) (places : List Location) (d' : Disk) : Prop where
  grows : d.Grows d'
  content : ∀ loc ∉ places, ∀ id, d.node? loc = some (.file id) → d'.content id = d.content id

theorem Grows.growsAt (h : d.Grows d') (hchanges : d.ChangesOnly places d') : d.GrowsAt places d' :=
  ⟨h, hchanges.content⟩

theorem Sound.growsAt_refl (hd : d.Sound) (places : List Location) : d.GrowsAt places d :=
  ⟨hd.grows_refl, fun _ _ _ _ => rfl⟩

theorem GrowsAt.trans (h : d.GrowsAt places d') (h' : d'.GrowsAt places d'') :
    d.GrowsAt places d'' where
  grows := h.grows.trans h'.grows
  content loc hloc id hid :=
    (h'.content loc hloc id (h.grows.node loc _ hid)).trans (h.content loc hloc id hid)

theorem GrowsAt.mono {more : List Location} (h : d.GrowsAt places d') (hsub : places ⊆ more) :
    d.GrowsAt more d' :=
  ⟨h.grows, fun loc hloc => h.content loc fun hmem => hloc (hsub hmem)⟩

/-- A file elsewhere is read as before. -/
theorem GrowsAt.read (h : d.GrowsAt places d') (hd : d.Sound) (hoff : p.place d.home ∉ places)
    {data : Bytes} (hread : d.read? p = some data) : d'.read? p = some data := by
  obtain ⟨id, hfile, rfl⟩ := exists_lookup_of_read hread
  obtain ⟨-, hnode⟩ := hd.lookup_eq_file_iff.mp hfile
  rw [read_of_lookup (h.grows.lookup_file hd hfile), h.content _ hoff id hnode]

/-! ## Operations -/

theorem Sound.grows_add (hd : d.Sound) (hdir : d.node? loc = some .directory)
    (hfree : d.node? (loc.inside name) = none) {node : Node} {more : List Bytes}
    (hnew : ∀ id, node = .file id → id = d.contents.length ∧ more ≠ []) :
    d.Grows { d.add (loc.inside name) node with contents := d.contents ++ more } := by
  refine ⟨(hd.add hdir hfree hnew).sound, rfl, fun loc' node' h => ?_⟩
  refine (d.node?_add loc name node loc').trans ?_
  rw [if_neg, h]
  rintro rfl
  cases hfree.symm.trans h

/-- Contents change without a change of names. -/
theorem Sound.grows_set (hd : d.Sound) (id : Nat) (data : Bytes) :
    d.Grows { d with contents := d.contents.set id data } := by
  refine ⟨⟨hd.home, hd.parent, fun loc id' h => ?_, hd.unique⟩, rfl, fun _ _ h => h⟩
  show id' < (d.contents.set id data).length
  rw [List.length_set]
  exact hd.file loc id' h

theorem Sound.grows_writeAt (hd : d.Sound) (id offset : Nat) (data : Bytes) :
    d.Grows (d.writeAt id offset data) := hd.grows_set id _

theorem Sound.grows_enterOrCreate (hd : d.Sound) (hloc : d.node? loc = some .directory)
    (name : Bytes) : d.Grows (d.enterOrCreate loc name).1 := by
  unfold Disk.enterOrCreate
  by_cases habove : name = Path.above
  · rw [if_pos habove]
    exact hd.grows_refl
  · rw [if_neg habove]
    cases hnode : d.node? (loc.inside name) with
    | some node => cases node <;> exact hd.grows_refl
    | none =>
      by_cases husable : isUsable name = true
      · simp only [husable, if_true]
        have hadd : d.Grows
            { d.add (loc.inside name) .directory with contents := d.contents ++ [] } :=
          hd.grows_add hloc hnode nofun
        rwa [List.append_nil] at hadd
      · simp only [husable]
        exact hd.grows_refl

theorem Sound.grows_createAlong (hd : d.Sound) (hloc : d.node? loc = some .directory)
    (names : List Bytes) : d.Grows (d.createAlong loc names).1 := by
  induction names generalizing d loc with
  | nil => exact hd.grows_refl
  | cons name names ih =>
    have hgrows := hd.grows_enterOrCreate hloc name
    have hnext := (hd.enterOrCreate hloc name).2
    rw [Disk.createAlong]
    generalize d.enterOrCreate loc name = made at hgrows hnext ⊢
    obtain ⟨made, next⟩ := made
    cases next with
    | none => exact hgrows
    | some next => exact hgrows.trans (ih hgrows.sound (hnext next rfl).2)

theorem Sound.grows_createParents (hd : d.Sound) (p : Path) (limit : Option Nat) :
    d.Grows (d.createParents p limit).1 := by
  obtain ⟨names, more, -, hmade⟩ := d.createParents_eq p limit
  rw [hmade]
  exact hd.grows_createAlong (hd.start _) _

theorem contents_createAlong (d : Disk) (loc : Location) (names : List Bytes) :
    (d.createAlong loc names).1.contents = d.contents := by
  induction names generalizing d loc with
  | nil => rfl
  | cons name names ih =>
    have hfirst : (d.enterOrCreate loc name).1.contents = d.contents := by
      unfold enterOrCreate
      split
      · rfl
      · split
        · rfl
        · rfl
        · split <;> rfl
    rw [createAlong]
    generalize d.enterOrCreate loc name = made at hfirst ⊢
    obtain ⟨made, next⟩ := made
    cases next with
    | none => exact hfirst
    | some next => exact (ih made next).trans hfirst

/-- Directories have no contents. -/
theorem Sound.growsAt_createParents (hd : d.Sound) (p : Path) (limit : Option Nat)
    (places : List Location) : d.GrowsAt places (d.createParents p limit).1 := by
  refine ⟨hd.grows_createParents p limit, fun _ _ id _ => ?_⟩
  obtain ⟨names, more, -, hmade⟩ := d.createParents_eq p limit
  rw [hmade, content, contents_createAlong, content]

theorem Sound.grows_create (hd : d.Sound) (h : d.create? p = some (id, d')) : d.Grows d' := by
  unfold create? at h
  cases hplace : d.place? p with
  | none =>
    rw [hplace] at h
    cases h
  | some loc =>
    obtain ⟨-, -, dir, name, rfl, hdir⟩ := hd.place hplace
    simp only [hplace] at h
    cases hnode : d.node? (dir.inside name) with
    | none =>
      rw [hnode] at h
      cases h
      exact hd.grows_add hdir hnode fun id hid => ⟨(Node.file.inj hid).symm, by simp⟩
    | some node =>
      rw [hnode] at h
      cases node with
      | directory => cases h
      | file id =>
        cases h
        exact hd.grows_set id []

/-- A tree stays one when a file is renamed, even over another file. -/
theorem Sound.rename_sound {source target : Path} (hd : d.Sound)
    (h : d.rename? source target = some d') : d'.Sound := by
  unfold rename? at h
  cases hsource : d.place? source with
  | none => simp [hsource] at h
  | some old =>
    cases htarget : d.place? target with
    | none => simp [hsource, htarget] at h
    | some new =>
      obtain ⟨-, -, dir, name, rfl, -⟩ := hd.place hsource
      obtain ⟨-, -, dir', name', rfl, hdir'⟩ := hd.place htarget
      simp only [hsource, htarget] at h
      split at h
      · cases h
      · next id hold hfree =>
        cases h
        exact (hd.moved hold hdir' hfree).1
      · cases h

end Disk

/-! ## Writers -/

variable {d d' : Disk}

theorem Handle.grows_flush (h : Handle) (hd : d.Sound) (limit : Option Nat) :
    d.Grows (h.flush d limit).2 := hd.grows_writeAt _ _ _

theorem Handle.grows_write (h : Handle) (data : Bytes) (hd : d.Sound) (limit : Option Nat) :
    d.Grows (h.write data d limit).2.1 ∧ (h.write data d limit).1.file = h.file := by
  have hflushed := h.grows_flush hd limit
  have hfile : (h.flush d limit).1.file = h.file := rfl
  unfold write
  generalize h.flush d limit = made at hflushed hfile ⊢
  obtain ⟨flushed, d₁⟩ := made
  simp only at hflushed hfile ⊢
  split
  · exact ⟨hd.grows_refl, rfl⟩
  · split
    · exact ⟨hflushed, hfile⟩
    · split
      · exact ⟨hflushed, hfile⟩
      · exact ⟨hflushed.trans (hflushed.sound.grows_writeAt _ _ _), hfile⟩

theorem OpenFiles.grows_flush (files : OpenFiles) (hd : d.Sound) (fault : Option Fault) :
    d.Grows (files.flush d fault).2 := by
  have hvideo := files.video.grows_flush hd (fault.map (·.video))
  unfold flush
  simp only
  split
  · exact hvideo
  · exact hvideo.trans (Handle.grows_flush _ hvideo.sound _)

namespace FileWriter

variable {w w' : FileWriter} {path : Path} {audio : Option AudioParams} {files : OpenFiles}
  {error : Option WriterError} {fault : Option Fault}

/-- Opening a file takes no name away, and the writer writes to the file of the given name. -/
theorem grows_init (hd : d.Sound) (h : w.init path audio d fault = (w', d', error)) :
    d.Grows d' ∧ (error = none →
      ∃ files, w'.files = some files ∧ d'.lookup? path = some (.file files.video.file)) := by
  have hopens := w.opens_init path audio d fault
  rw [h] at hopens
  have hparents (limit : Option Nat) := hd.grows_createParents path limit
  cases hopens with
  | refused => exact ⟨hd.grows_refl, nofun⟩
  | @noVideo limit => exact ⟨hparents limit, nofun⟩
  | @noSound limit _ _ _ _ _ hvideo =>
    exact ⟨(hparents limit).trans ((hparents limit).sound.grows_create hvideo), nofun⟩
  | @video limit _ _ _ _ hvideo =>
    obtain ⟨-, hfound, -⟩ := (hparents limit).sound.create hvideo
    exact ⟨(hparents limit).trans ((hparents limit).sound.grows_create hvideo),
      fun _ => ⟨_, rfl, hfound⟩⟩
  | @both limit _ _ _ _ _ _ _ hvideo hsound =>
    obtain ⟨-, hfound, -⟩ := (hparents limit).sound.create hvideo
    have hcreated := (hparents limit).sound.grows_create hvideo
    have hbeside := hcreated.sound.grows_create hsound
    exact ⟨((hparents limit).trans hcreated).trans hbeside,
      fun _ => ⟨_, rfl, hbeside.lookup_file hcreated.sound hfound⟩⟩

/-- Opening files only changes the files of the recording, even if it fails. -/
theorem growsAt_init (hd : d.Sound) (h : w.init path audio d fault = (w', d', error)) :
    d.GrowsAt (path.sites audio d.home) d' := by
  have hopens := w.opens_init path audio d fault
  rw [h] at hopens
  have hparents (limit : Option Nat) :=
    hd.growsAt_createParents path limit (path.sites audio d.home)
  have hcreate {d₁ d₂ : Disk} {q : Path} {id : Nat} (h₁ : d.GrowsAt (path.sites audio d.home) d₁)
      (hq : q ∈ path.outputs audio) (hmade : d₁.create? q = some (id, d₂)) :
      d.GrowsAt (path.sites audio d.home) d₂ := by
    obtain ⟨hchanges, -⟩ := h₁.grows.sound.create hmade
    have hcreated := (h₁.grows.sound.grows_create hmade).growsAt hchanges
    rw [h₁.grows.home] at hcreated
    exact h₁.trans (hcreated.mono (path.site_subset hq _))
  cases hopens with
  | refused => exact hd.growsAt_refl _
  | @noVideo limit => exact hparents limit
  | @noSound limit _ _ _ _ _ hvideo => exact hcreate (hparents limit) List.mem_cons_self hvideo
  | @video limit _ _ _ _ hvideo => exact hcreate (hparents limit) List.mem_cons_self hvideo
  | @both limit _ _ _ _ _ _ haudio hvideo hsound =>
    exact hcreate (hcreate (hparents limit) List.mem_cons_self hvideo)
      (path.sibling_mem_outputs haudio) hsound

/-- A writer that has files open still writes to them after a call. -/
def KeepsFiles (w w' : FileWriter) : Prop :=
  ∀ files, w.files = some files → ∃ files', w'.files = some files' ∧
    files'.video.file = files.video.file ∧ files'.audio.map (·.file) = files.audio.map (·.file)

/-- Writing takes no name away, and an open writer stays at its files. -/
theorem grows_writeVideo {data : Bytes} (hd : d.Sound)
    (h : w.writeVideo data d fault = (w', d', error)) :
    d.Grows d' ∧ w.KeepsFiles w' := by
  unfold writeVideo at h
  cases hfiles : w.files with
  | none =>
    simp only [hfiles] at h
    cases h
    exact ⟨hd.grows_refl, fun files' h' => ⟨files', h', rfl, rfl⟩⟩
  | some files =>
    obtain ⟨hgrows, hsame⟩ := files.video.grows_write data hd (fault.map (·.video))
    simp only [hfiles] at h
    cases h
    refine ⟨hgrows, fun files' h' => ?_⟩
    cases hfiles.symm.trans h'
    exact ⟨_, rfl, hsame, rfl⟩

theorem grows_writeAudio {data : Bytes} (hd : d.Sound)
    (h : w.writeAudio data d fault = (w', d', error)) :
    d.Grows d' ∧ w.KeepsFiles w' := by
  unfold writeAudio at h
  cases hfiles : w.files with
  | none =>
    simp only [hfiles] at h
    cases h
    exact ⟨hd.grows_refl, fun files' h' => ⟨files', h', rfl, rfl⟩⟩
  | some files =>
    cases haudio : files.audio with
    | none =>
      simp only [hfiles, haudio] at h
      cases h
      exact ⟨hd.grows_refl, fun files' h' => ⟨files', h', rfl, rfl⟩⟩
    | some audio =>
      simp only [hfiles, haudio] at h
      cases h
      obtain ⟨hgrows, hsame⟩ := audio.grows_write data hd (fault.map (·.audio))
      refine ⟨hgrows, fun files' h' => ?_⟩
      cases hfiles.symm.trans h'
      exact ⟨_, rfl, rfl, by simp [haudio, hsame]⟩

/-- Finishing a file takes no name away, and closes the writer. -/
theorem grows_deinit (hd : d.Sound) (h : w.deinit d fault = (w', d', error)) :
    d.Grows d' ∧ w'.files = none := by
  unfold deinit close at h
  cases hfiles : w.files with
  | none =>
    simp only [hfiles] at h
    cases h
    exact ⟨hd.grows_refl, hfiles⟩
  | some files =>
    simp only [hfiles] at h
    cases h
    exact ⟨files.grows_flush hd fault, rfl⟩

end FileWriter

end CameraRecorder

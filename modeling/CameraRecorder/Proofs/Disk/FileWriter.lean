import CameraRecorder.Proofs.Disk.Changes

/-!
# What a file writer writes

A handle that writes a file holds back some bytes, and what has reached the file together with
these is what was written (`Handle.Fills`). Two handles together write a recording
(`OpenFiles.Fills`): a call of a writer adds its bytes at the end of the right file, or a part of
them if it fails (`Handle.Leaves`), and changes nothing elsewhere. When the writer is closed, the
files hold what was written.
-/

namespace CameraRecorder

variable {d d' : Disk} {places : List Location}

namespace Disk

variable {p : Path} {id : Nat}

theorem overwrite_end (old data : Bytes) : overwrite old old.length data = old ++ data := by
  unfold overwrite
  cases data with
  | nil => simp
  | cons b data => simp

/-- Bytes are written at the end of a file. -/
theorem Sound.writeAt_end (hd : d.Sound) (hfile : d.lookup? p = some (.file id)) (data : Bytes) :
    let d' := d.writeAt id (d.content id).length data
    d.ChangesOnly [p.place d.home] d' ∧ d'.lookup? p = some (.file id) ∧
      d'.content id = d.content id ++ data := by
  obtain ⟨-, hnode⟩ := hd.lookup_eq_file_iff.mp hfile
  refine ⟨hd.set_content hnode _, hfile, ?_⟩
  rw [writeAt, hd.content_set hnode, overwrite_end]

/-- A disk that has created the directories of a file has not failed. -/
theorem createParents_of_isReady {limit : Option Nat}
    (h : (d.createParents p limit).2 = true) : d.createParents p limit = d.createParents p := by
  unfold createParents at h ⊢
  cases hlimit : limit.filter (· < p.parent.names.length) with
  | none => simp only [hlimit, Option.filter_none]
  | some count =>
    simp only [hlimit] at h
    split at h <;> cases h

end Disk

/-! ## Handles -/

/-- The file that a path leads to is written by a handle: what has reached it and what is pending
are `data`. -/
structure Handle.Fills (h : Handle) (d : Disk) (p : Path) (data : Bytes) : Prop where
  found : d.lookup? p = some (.file h.file)
  offset : h.offset = (d.content h.file).length
  fits : h.pending.length ≤ Handle.bufferSize
  data : d.content h.file ++ h.pending = data

namespace Handle

variable {h : Handle} {p : Path} {data : Bytes}

/-- A file that is created is written from its start. -/
theorem fills_create {id : Nat} (hd : d.Sound) (hmade : d.create? p = some (id, d')) :
    Fills { file := id } d' p [] := by
  obtain ⟨-, hfile, hempty⟩ := hd.create hmade
  exact ⟨hfile, by rw [hempty]; rfl, Nat.zero_le _, by rw [hempty]; rfl⟩

/-- What happens elsewhere changes nothing. -/
theorem Fills.elsewhere (hfills : h.Fills d p data) (hd : d.Sound)
    (hchanges : d.ChangesOnly places d') (hoff : p.place d.home ∉ places) :
    h.Fills d' p data := by
  obtain ⟨hfile, hcontent⟩ := hchanges.lookup_file hd hoff hfills.found
  refine ⟨hfile, ?_, hfills.fits, ?_⟩
  · rw [hcontent]
    exact hfills.offset
  · rw [hcontent]
    exact hfills.data

/-- Bytes that pass the buffer by come to the end of the file, as far as the disk takes them. -/
theorem pass_end (hd : d.Sound) (hfile : d.lookup? p = some (.file h.file))
    (hoffset : h.offset = (d.content h.file).length) (data : Bytes) (limit : Option Nat) :
    let made := h.pass data d limit
    d.ChangesOnly [p.place d.home] made.2.1 ∧ made.2.1.lookup? p = some (.file h.file) ∧
      made.1.offset = (made.2.1.content h.file).length ∧
      ∃ taken, data = taken ++ made.2.2 ∧
        made.2.1.content h.file = d.content h.file ++ taken := by
  have hwritten := hd.writeAt_end hfile (data.take (limit.getD data.length))
  rw [← hoffset] at hwritten
  obtain ⟨hchanges, hfile', hcontent⟩ := hwritten
  refine ⟨hchanges, hfile', ?_, _, (List.take_append_drop _ _).symm, hcontent⟩
  show h.offset + _ = _
  rw [pass, hcontent, List.length_append, hoffset]

/-- Pending bytes reach the file, or are still pending. -/
theorem Fills.flush (hfills : h.Fills d p data) (hd : d.Sound) (limit : Option Nat) :
    d.ChangesOnly [p.place d.home] (h.flush d limit).2 ∧
      (h.flush d limit).1.Fills (h.flush d limit).2 p data := by
  obtain ⟨hchanges, hfile, hoffset, taken, hpending, hcontent⟩ :=
    pass_end hd hfills.found hfills.offset h.pending limit
  refine ⟨hchanges, hfile, hoffset, ?_, ?_⟩
  · have hlength := congrArg List.length hpending
    rw [List.length_append] at hlength
    exact Nat.le_trans (Nat.le_of_add_left_le (Nat.le_of_eq hlength.symm)) hfills.fits
  · have hdata := hfills.data
    rw [hpending, ← List.append_assoc, ← hcontent] at hdata
    exact hdata

/-- Bytes that pass an empty buffer by come after what is in the file. -/
theorem Fills.pass (hfills : h.Fills d p data) (hd : d.Sound) (hnone : h.pending = [])
    (more : Bytes) (limit : Option Nat) :
    let made := h.pass more d limit
    d.ChangesOnly [p.place d.home] made.2.1 ∧
      ∃ taken, more = taken ++ made.2.2 ∧ made.1.Fills made.2.1 p (data ++ taken) := by
  obtain ⟨hchanges, hfile, hoffset, taken, hmore, hcontent⟩ :=
    pass_end hd hfills.found hfills.offset more limit
  refine ⟨hchanges, taken, hmore, hfile, hoffset, hfills.fits, ?_⟩
  have hdata := hfills.data
  rw [hnone, List.append_nil] at hdata
  show _ ++ h.pending = _
  rw [hnone, List.append_nil, ← hdata]
  exact hcontent

/-- A disk that does not fail takes all that is pending. -/
theorem pending_flush (h : Handle) (d : Disk) : (h.flush d).1.pending = [] := by
  simp [Handle.flush, pass]

/-- Only a disk that fails makes a call fail. -/
theorem error_write (h : Handle) (data : Bytes) (d : Disk) (limit : Option Nat)
    {cause : WriterError} (herror : (h.write data d limit).2.2 = some cause) :
    cause = .io ∧ limit ≠ none := by
  have hflush : (h.flush d limit).1.pending ≠ [] → limit ≠ none := by
    rintro hpending rfl
    exact hpending (h.pending_flush d)
  have hpass (flushed : Handle) (d : Disk) (count : Nat)
      (hleft : (flushed.pass data d (limit.map (· - count))).2.2.isEmpty ≠ true) :
      limit ≠ none := by
    rintro rfl
    simp [pass] at hleft
  unfold write at herror
  split at herror
  · cases herror
  · generalize h.flush d limit = made at hflush herror
    simp only at herror
    split at herror
    · next hpending =>
      cases herror
      exact ⟨rfl, hflush hpending⟩
    · split at herror
      · cases herror
      · simp only at herror
        split at herror
        · cases herror
        · next hleft =>
          cases herror
          exact ⟨rfl, hpass _ _ _ hleft⟩

theorem pass_of_nil {limit : Option Nat}
    (hnone : (h.pass data d limit).2.2 = []) : h.pass data d limit = h.pass data d := by
  have hall : data.length ≤ limit.getD data.length := List.drop_eq_nil_iff.mp hnone
  simp [pass, List.take_of_length_le hall, List.drop_eq_nil_of_le hall]

theorem flush_of_nil {limit : Option Nat}
    (hnone : (h.flush d limit).1.pending = []) : h.flush d limit = h.flush d := by
  rw [flush, flush, pass_of_nil hnone]

/-- A call that did not fail at the disk is as on one that does not fail. -/
theorem write_of_ne {limit : Option Nat}
    (hok : (h.write data d limit).2.2 ≠ some .io) : h.write data d limit = h.write data d := by
  unfold write at hok ⊢
  split
  · rfl
  · next hlong =>
    simp only [if_neg hlong] at hok
    have hflushed : (h.flush d limit).1.pending = [] := by
      by_contra hpending
      simp [hpending] at hok
    simp only [flush_of_nil hflushed, pending_flush, ne_eq, not_true_eq_false, if_false] at hok ⊢
    split
    · rfl
    · next hlong =>
      simp only [if_neg hlong] at hok
      have hleft : ((h.flush d).1.pass data (h.flush d).2 (limit.map (· - h.pending.length))).2.2
          = [] := by
        by_contra hleft
        simp [hleft] at hok
      simp only [Option.map_none, pass_of_nil hleft]

/-- What a call to write bytes leaves of them, and its answer: all of them, if it succeeds; only
some from their beginning, if it fails, and none of bytes that the buffer could hold. -/
inductive Leaves (data : Bytes) : Option WriterError → Bytes → Prop
  | whole : Leaves data none data
  | part {part rest : Bytes} (h : data = part ++ rest) (hrest : rest ≠ [])
    (hlong : part ≠ [] → bufferSize ≤ data.length) : Leaves data (some .io) part

/-- **What is left of written bytes comes after those that were written before**, in the file or in
the buffer. -/
theorem Fills.write (hfills : h.Fills d p data) (hd : d.Sound) (more : Bytes)
    (limit : Option Nat) :
    let made := h.write more d limit
    d.ChangesOnly [p.place d.home] made.2.1 ∧
      ∃ left, Leaves more made.2.2 left ∧ made.1.Fills made.2.1 p (data ++ left) := by
  obtain ⟨hchanges, hfills'⟩ := hfills.flush hd limit
  unfold Handle.write
  generalize h.flush d limit = made at hchanges hfills' ⊢
  obtain ⟨flushed, d₁⟩ := made
  simp only at hchanges hfills' ⊢
  have hdata := hfills'.data
  split
  · next hshort =>
    refine ⟨hd.unchanged _, more, .whole, hfills.found, hfills.offset, ?_, ?_⟩
    · exact List.length_append ▸ hshort.2
    · rw [← List.append_assoc, hfills.data]
  · next hlong =>
    split
    · -- only data is refused that there is some of, since the buffer is never overfull
      refine ⟨hchanges, [], .part (List.nil_append _).symm ?_ (absurd rfl), ?_⟩
      · rintro rfl
        exact hlong ⟨by decide, hfills.fits⟩
      · rwa [List.append_nil]
    · next hpending =>
      have hnone : flushed.pending = [] := not_not.mp hpending
      rw [hnone, List.append_nil] at hdata
      split
      · next hshort =>
        exact ⟨hchanges, more, .whole, hfills'.found, hfills'.offset, Nat.le_of_lt hshort,
          by rw [hdata]⟩
      · next hlong =>
        obtain ⟨hpassed, taken, hmore, hfills''⟩ :=
          hfills'.pass hchanges.sound hnone more (limit.map (· - h.pending.length))
        rw [hchanges.home] at hpassed
        refine ⟨hchanges.trans hpassed, taken, ?_, hfills''⟩
        cases hrest : (flushed.pass more d₁ (limit.map (· - h.pending.length))).2.2 with
        | nil =>
          rw [hrest, List.append_nil] at hmore
          rw [← hmore]
          exact .whole
        | cons b rest =>
          rw [hrest] at hmore
          exact .part hmore (List.cons_ne_nil _ _) fun _ => Nat.le_of_not_lt hlong

end Handle

/-! ## Recordings -/

/-- The files that a recording is written to. -/
def Path.outputs (path : Path) (audio : Option AudioParams) : List Path :=
  path :: (audio.map fun params => path.audioSibling params.codec).toList

/-- The places on the ways to the files of a recording. -/
def Path.ground (path : Path) (audio : Option AudioParams) (home : Location) : List Location :=
  (path.outputs audio).flatMap (·.way home)

/-- The places where the files of a recording are put. -/
def Path.sites (path : Path) (audio : Option AudioParams) (home : Location) : List Location :=
  (path.outputs audio).map (·.place home)

theorem Path.way_subset_ground {path q : Path} {audio : Option AudioParams}
    (h : q ∈ path.outputs audio) (home : Location) : q.way home ⊆ path.ground audio home :=
  fun _ hloc => List.mem_flatMap.mpr ⟨q, h, hloc⟩

/-- The files of a recording are written by a pair of handles: its video, and its sound if it has
any. They are not the same file. -/
structure OpenFiles.Fills (files : OpenFiles) (d : Disk) (path : Path) (audio : Option AudioParams)
    (video sound : Bytes) : Prop where
  apart : (path.sites audio d.home).Nodup
  video : files.video.Fills d path video
  audio : Option.Rel (fun params h => h.Fills d (path.audioSibling params.codec) sound) audio
    files.audio

theorem Path.site_subset (path : Path) {q : Path} {audio : Option AudioParams}
    (h : q ∈ path.outputs audio) (home : Location) : [q.place home] ⊆ path.sites audio home :=
  List.cons_subset.mpr ⟨List.mem_map_of_mem h, List.nil_subset _⟩

theorem rel_imp {α β : Type} {R S : α → β → Prop} {a : Option α} {b : Option β}
    (h : Option.Rel R a b) (himp : ∀ x ∈ a, ∀ y ∈ b, R x y → S x y) : Option.Rel S a b := by
  cases h with
  | none => exact .none
  | some hxy => exact .some (himp _ rfl _ rfl hxy)

theorem Path.sibling_mem_outputs (path : Path) {audio : Option AudioParams} {params : AudioParams}
    (h : params ∈ audio) : path.audioSibling params.codec ∈ path.outputs audio := by
  obtain rfl : audio = some params := h
  exact List.mem_cons_of_mem _ (List.mem_singleton_self _)

namespace OpenFiles.Fills

variable {files : OpenFiles} {path : Path} {audio : Option AudioParams} {video sound : Bytes}

/-- What happens elsewhere changes nothing. -/
theorem elsewhere (hfills : files.Fills d path audio video sound) (hd : d.Sound)
    (hchanges : d.ChangesOnly places d')
    (hoff : ∀ q ∈ path.outputs audio, q.place d.home ∉ places) :
    files.Fills d' path audio video sound where
  apart := by
    rw [hchanges.home]
    exact hfills.apart
  video := hfills.video.elsewhere hd hchanges (hoff _ List.mem_cons_self)
  audio := rel_imp hfills.audio fun _ hparams _ _ hsound =>
    hsound.elsewhere hd hchanges (hoff _ (path.sibling_mem_outputs hparams))

/-- The sound is not put where the video is. -/
theorem place_ne (hfills : files.Fills d path audio video sound) {params : AudioParams}
    (h : params ∈ audio) : path.place d.home ≠ (path.audioSibling params.codec).place d.home := by
  obtain rfl : audio = some params := h
  simpa [Path.sites, Path.outputs] using hfills.apart

/-- A recording has a handle for its sound if it has any. -/
theorem isSome_audio (hfills : files.Fills d path audio video sound) :
    files.audio.isSome = audio.isSome := by
  have haudio := hfills.audio
  generalize files.audio = handle at haudio
  cases haudio <;> rfl

/-- The files that are written stand on the ground of their recording. -/
theorem sites_subset (hfills : files.Fills d path audio video sound) (hd : d.Sound) :
    path.sites audio d.home ⊆ path.ground audio d.home := by
  intro loc hloc
  obtain ⟨q, hq, rfl⟩ := List.mem_map.mp hloc
  refine Path.way_subset_ground hq _ ?_
  rcases List.mem_cons.mp hq with rfl | hq
  · exact hd.mem_way hfills.video.found
  · obtain ⟨params, rfl, rfl⟩ := Option.map_eq_some_iff.mp (Option.mem_toList.mp hq)
    have haudio := hfills.audio
    generalize files.audio = handle at haudio
    cases haudio with
    | some hsound => exact hd.mem_way hsound.found

/-- Video is added to the video. -/
theorem writeVideo (hfills : files.Fills d path audio video sound) (hd : d.Sound) (more : Bytes)
    (limit : Option Nat) :
    let made := files.video.write more d limit
    d.ChangesOnly (path.sites audio d.home) made.2.1 ∧ ∃ left, Handle.Leaves more made.2.2 left ∧
      Fills { files with video := made.1 } made.2.1 path audio (video ++ left) sound := by
  obtain ⟨hchanges, left, hleaves, hvideo⟩ := hfills.video.write hd more limit
  refine ⟨hchanges.mono (path.site_subset List.mem_cons_self _), left, hleaves, ?_, hvideo, ?_⟩
  · rw [hchanges.home]
    exact hfills.apart
  · refine rel_imp hfills.audio fun params hparams _ _ hsound => ?_
    exact hsound.elsewhere hd hchanges
      (List.mem_singleton.not.mpr (Ne.symm (hfills.place_ne hparams)))

/-- Sound is added to the sound. -/
theorem writeAudio (hfills : files.Fills d path audio video sound) (hd : d.Sound) {h : Handle}
    (hopen : files.audio = some h) (more : Bytes) (limit : Option Nat) :
    let made := h.write more d limit
    d.ChangesOnly (path.sites audio d.home) made.2.1 ∧ ∃ left, Handle.Leaves more made.2.2 left ∧
      Fills { files with audio := some made.1 } made.2.1 path audio video (sound ++ left) := by
  have haudio := hfills.audio
  rw [hopen] at haudio
  cases haudio with
  | @some params _ hsound =>
    obtain ⟨hchanges, left, hleaves, hsound'⟩ := hsound.write hd more limit
    have hsites := hchanges.mono (path.site_subset (path.sibling_mem_outputs rfl) _)
    refine ⟨hsites, left, hleaves, ?_, ?_, ?_⟩
    · rw [hchanges.home]
      exact hfills.apart
    · exact hfills.video.elsewhere hd hchanges (List.mem_singleton.not.mpr (hfills.place_ne rfl))
    · exact .some hsound'

/-- Pending bytes reach the files, or are still pending. -/
theorem flush (hfills : files.Fills d path audio video sound) (hd : d.Sound)
    (fault : Option Fault) :
    d.ChangesOnly (path.sites audio d.home) (files.flush d fault).2 ∧
      (files.flush d fault).1.Fills (files.flush d fault).2 path audio video sound := by
  obtain ⟨hchanges, hvideo⟩ := hfills.video.flush hd (fault.map (·.video))
  have hout : path ∈ path.outputs audio := List.mem_cons_self
  have hsites := hchanges.mono (path.site_subset hout _)
  have hapart := hfills.apart
  have haudio := hfills.audio
  cases hopen : files.audio with
  | none =>
    simp only [OpenFiles.flush, hopen] at haudio ⊢
    cases haudio
    refine ⟨hsites, ?_, hvideo, .none⟩
    rwa [hchanges.home]
  | some h =>
    simp only [OpenFiles.flush, hopen] at haudio ⊢
    cases haudio with
    | @some params _ hsound =>
      have hne : path.place d.home ≠ (path.audioSibling params.codec).place d.home :=
        hfills.place_ne rfl
      have hsound := hsound.elsewhere hd hchanges (List.mem_singleton.not.mpr hne.symm)
      obtain ⟨hchanges', hsound'⟩ := hsound.flush hchanges.sound (fault.map (·.audio))
      have hout' := path.sibling_mem_outputs (Option.mem_some_self params)
      have hsites' := hchanges'.mono (path.site_subset hout' _)
      rw [hchanges.home] at hchanges' hsites'
      refine ⟨hsites.trans hsites', ?_, ?_, .some hsound'⟩
      · rwa [hchanges'.home, hchanges.home]
      · refine hvideo.elsewhere hchanges.sound hchanges' ?_
        rw [hchanges.home]
        exact List.mem_singleton.not.mpr hne

/-- When nothing is pending the files hold what was written. -/
theorem read (hfills : files.Fills d path audio video sound) (hvideo : files.video.pending = [])
    (haudio : ∀ h ∈ files.audio, h.pending = []) : d.read? path = some video ∧
      ∀ params ∈ audio, d.read? (path.audioSibling params.codec) = some sound := by
  have hread {q : Path} {h : Handle} {data : Bytes} (hfills : h.Fills d q data)
      (hnone : h.pending = []) : d.read? q = some data := by
    rw [Disk.read_of_lookup hfills.found, ← hfills.data, hnone, List.append_nil]
  refine ⟨hread hfills.video hvideo, fun params hparams => ?_⟩
  have hrel := hfills.audio
  rw [Option.mem_def.mp hparams] at hrel
  generalize files.audio = handle at haudio hrel
  cases hrel with
  | some hsound => exact hread hsound (haudio _ rfl)

end OpenFiles.Fills

namespace FileWriter

variable {w w' : FileWriter} {files : OpenFiles} {path : Path} {audio : Option AudioParams}
  {video sound more : Bytes} {fault : Option Fault}

theorem attempt_eq_some {c : Prop} [Decidable c] {made : Option (Nat × Disk)} {r : Nat × Disk}
    (h : (if c then none else made) = some r) : made = some r := by
  split at h
  · cases h
  · exact h

/-- How a call to open files goes: it is refused, it fails at the directories, at the video file or
at the audio file, or the files are open. -/
inductive Opens (w : FileWriter) (path : Path) (audio : Option AudioParams) (d : Disk) :
    Outcome → Prop
  | refused (h : w.files.isSome = true) : Opens w path audio d (w, d, some .alreadyOpen)
  | noVideo {limit : Option Nat} (h : w.files = none) :
    Opens w path audio d (w, (d.createParents path limit).1, some .io)
  | noSound {limit : Option Nat} {video : Nat} {d₂ : Disk} {params : AudioParams}
    (h : w.files = none) (haudio : audio = some params)
    (hvideo : (d.createParents path limit).1.create? path = some (video, d₂)) :
    Opens w path audio d (w, d₂, some .io)
  | video {limit : Option Nat} {video : Nat} {d₂ : Disk} (h : w.files = none)
    (haudio : audio = none)
    (hvideo : (d.createParents path limit).1.create? path = some (video, d₂)) :
    Opens w path audio d ({ files := some { video := { file := video }, audio := none } }, d₂, none)
  | both {limit : Option Nat} {video sound : Nat} {d₂ d₃ : Disk} {params : AudioParams}
    (h : w.files = none) (haudio : audio = some params)
    (hvideo : (d.createParents path limit).1.create? path = some (video, d₂))
    (hsound : d₂.create? (path.audioSibling params.codec) = some (sound, d₃)) :
    Opens w path audio d
      ({ files := some { video := { file := video }, audio := some { file := sound } } }, d₃, none)

theorem opens_init (w : FileWriter) (path : Path) (audio : Option AudioParams) (d : Disk)
    (fault : Option Fault) : w.Opens path audio d (w.init path audio d fault) := by
  unfold init
  simp only
  split
  · next hopen => exact .refused hopen
  · next hclosed =>
    have hclosed : w.files = none := by simpa using hclosed
    split
    · exact .noVideo hclosed
    · split
      · exact .noVideo hclosed
      · next video d₂ hvideo =>
        have hvideo := attempt_eq_some hvideo
        cases audio with
        | none => exact .video hclosed rfl hvideo
        | some params =>
          simp only
          split
          · exact .noSound hclosed rfl hvideo
          · next sound d₃ hsound => exact .both hclosed rfl hvideo (attempt_eq_some hsound)

/-! ### Calls that do not fail -/

/-- Files that are opened are opened as on a disk that does not fail. -/
theorem init_of_ne (hok : (w.init path audio d fault).2.2 ≠ some .io) :
    w.init path audio d fault = w.init path audio d := by
  unfold init at hok ⊢
  split
  · rfl
  · next hclosed =>
    simp only [hclosed, Bool.false_eq_true, if_false, Option.map_none] at hok ⊢
    rcases hmade : d.createParents path (fault.map (·.names)) with ⟨d₁, isReady⟩
    rw [hmade] at hok
    cases isReady with
    | false => simp at hok
    | true =>
      have hready : (d.createParents path (fault.map (·.names))).2 = true := by rw [hmade]
      have hsame := Disk.createParents_of_isReady hready
      rw [← hsame, hmade]
      simp only [Bool.not_true, Bool.false_eq_true, if_false, reduceCtorEq] at hok ⊢
      split at hok
      · simp at hok
      · next hvideo =>
        rw [attempt_eq_some hvideo]
        cases audio with
        | none => rfl
        | some params =>
          simp only at hok ⊢
          split at hok
          · simp at hok
          · next hsound => rw [attempt_eq_some hsound]

theorem writeVideo_of_ne (hok : (w.writeVideo more d fault).2.2 ≠ some .io) :
    w.writeVideo more d fault = w.writeVideo more d := by
  unfold writeVideo at hok ⊢
  split
  · rfl
  · next files hfiles =>
    simp only [hfiles] at hok
    simp only [Handle.write_of_ne hok, Option.map_none]

theorem writeAudio_of_ne (hok : (w.writeAudio more d fault).2.2 ≠ some .io) :
    w.writeAudio more d fault = w.writeAudio more d := by
  unfold writeAudio at hok ⊢
  split
  · rfl
  · next files hfiles =>
    split
    · rfl
    · next audio haudio =>
      simp only [hfiles, haudio] at hok
      simp only [Handle.write_of_ne hok, Option.map_none]

theorem deinit_of_ne (hok : (w.deinit d fault).2.2 ≠ some .io) :
    w.deinit d fault = w.deinit d := by
  cases fault with
  | none => rfl
  | some fault =>
    unfold deinit at hok ⊢
    split
    · next hopen => simp [hopen] at hok
    · rfl

/-! ### What the calls write -/

/-- A recording is begun with empty files, and nothing but the places on the way to them changes. -/
theorem fills_init (hd : d.Sound) (hapart : (path.sites audio d.home).Nodup)
    (h : w.init path audio d fault = (w', d', none)) :
    d.ChangesOnly (path.ground audio d.home) d' ∧
      ∃ files, w'.files = some files ∧ files.Fills d' path audio [] [] := by
  have hparents (limit : Option Nat) :
      d.ChangesOnly (path.ground audio d.home) (d.createParents path limit).1 :=
    (hd.createParents path limit).mono (Path.way_subset_ground List.mem_cons_self d.home)
  have hcreate {d₁ d₂ : Disk} {q : Path} {id : Nat}
      (hd₁ : d.ChangesOnly (path.ground audio d.home) d₁)
      (hq : q ∈ path.outputs audio) (hmade : d₁.create? q = some (id, d₂)) :
      d.ChangesOnly (path.ground audio d.home) d₂ ∧ d₁.ChangesOnly [q.place d.home] d₂ := by
    obtain ⟨hchanges, hfile, -⟩ := hd₁.sound.create hmade
    have hway := hchanges.sound.mem_way hfile
    rw [hchanges.home, hd₁.home] at hway
    rw [hd₁.home] at hchanges
    refine ⟨hd₁.trans (hchanges.mono ?_), hchanges⟩
    exact List.cons_subset.mpr ⟨Path.way_subset_ground hq _ hway, List.nil_subset _⟩
  have hopens := w.opens_init path audio d fault
  rw [h] at hopens
  cases hopens with
  | @video limit video _ hclosed haudio hvideo =>
    obtain ⟨hchanges, -⟩ := hcreate (hparents limit) List.mem_cons_self hvideo
    refine ⟨hchanges, _, rfl, ?_, Handle.fills_create (hparents limit).sound hvideo, ?_⟩
    · rwa [hchanges.home]
    · rw [haudio]
      exact .none
  | @both limit video sound d₂ _ params hclosed haudio hvideo hsound =>
    obtain ⟨hchanges, -⟩ := hcreate (hparents limit) List.mem_cons_self hvideo
    have hfills := Handle.fills_create (hparents limit).sound hvideo
    obtain ⟨hchanges', hthere⟩ := hcreate hchanges (path.sibling_mem_outputs haudio) hsound
    have hfills' := Handle.fills_create hchanges.sound hsound
    refine ⟨hchanges', _, rfl, ?_, hfills.elsewhere hchanges.sound hthere ?_, ?_⟩
    · rwa [hchanges'.home]
    · -- the sound is not put where the video is
      rw [hchanges.home]
      simpa [Path.sites, Path.outputs, haudio] using hapart
    · rw [haudio]
      exact .some hfills'

/-- A call for video adds to the video what it leaves. -/
theorem fills_writeVideo (hd : d.Sound) (hfiles : w.files = some files)
    (hfills : files.Fills d path audio video sound) {error : Option WriterError}
    (h : w.writeVideo more d fault = (w', d', error)) :
    d.ChangesOnly (path.sites audio d.home) d' ∧ ∃ files' left, w'.files = some files' ∧
      Handle.Leaves more error left ∧ files'.Fills d' path audio (video ++ left) sound := by
  simp only [FileWriter.writeVideo, hfiles] at h
  cases h
  obtain ⟨hchanges, left, hleaves, hfills'⟩ := hfills.writeVideo hd more (fault.map (·.video))
  exact ⟨hchanges, _, left, rfl, hleaves, hfills'⟩

/-- A call for sound adds to the sound what it leaves, unless there is no file for it. -/
theorem fills_writeAudio (hd : d.Sound) (hfiles : w.files = some files)
    (hfills : files.Fills d path audio video sound) {error : Option WriterError}
    (h : w.writeAudio more d fault = (w', d', error))
    (herror : ∀ what, error ≠ some (.unsupported what)) :
    d.ChangesOnly (path.sites audio d.home) d' ∧ ∃ files' left, w'.files = some files' ∧
      Handle.Leaves more error left ∧ files'.Fills d' path audio video (sound ++ left) := by
  simp only [FileWriter.writeAudio, hfiles] at h
  cases hopen : files.audio with
  | none =>
    simp only [hopen] at h
    cases h
    exact absurd rfl (herror _)
  | some handle =>
    simp only [hopen] at h
    cases h
    obtain ⟨hchanges, left, hleaves, hfills'⟩ :=
      hfills.writeAudio hd hopen more (fault.map (·.audio))
    exact ⟨hchanges, _, left, rfl, hleaves, hfills'⟩

/-- **When a recording is ended, its files hold what was written.** -/
theorem read_deinit (hd : d.Sound) (hfiles : w.files = some files)
    (hfills : files.Fills d path audio video sound)
    (h : w.deinit d fault = (w', d', none)) :
    d.ChangesOnly (path.sites audio d.home) d' ∧ w' = {} ∧ d'.read? path = some video ∧
      ∀ params ∈ audio, d'.read? (path.audioSibling params.codec) = some sound := by
  simp only [FileWriter.deinit, FileWriter.close, hfiles, Option.isSome_some, if_true] at h
  cases fault with
  | some fault => cases h
  | none =>
    cases h
    obtain ⟨hchanges, hfills'⟩ := hfills.flush hd none
    refine ⟨hchanges, rfl, hfills'.read ?_ fun h hopen => ?_⟩
    · cases hopen : files.audio <;> simp [OpenFiles.flush, hopen, Handle.pending_flush]
    · cases haudio : files.audio <;> simp [OpenFiles.flush, haudio] at hopen
      rw [← hopen]
      exact Handle.pending_flush _ _

end FileWriter

end CameraRecorder

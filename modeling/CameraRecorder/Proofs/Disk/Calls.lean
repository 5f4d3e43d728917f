import CameraRecorder.Proofs.Disk.Growth

/-!
# The calls of a file writer

A file writer is closed, or a recording is in progress. Which it is, and what the recording was
given, is known from the answers to the calls so far (`FileWriter.inProgress?`), and the writer and
the disk agree with it after any calls in any order, whichever operations on files fail
(`FileWriter.Agrees`). So each call is answered as the state demands (`FileWriter.Answers`). A
recording that ends well holds what the calls to write have left (`FileWriter.Makes`): the data of
each that succeeded, and of a failed one at most a part, and only if the data was too long for the
buffer.
-/

namespace CameraRecorder

variable {d d' : Disk}

namespace FileWriter

variable {w w' : FileWriter} {files : OpenFiles} {error : Option WriterError}
  {fault : Option Fault}

/-- A closed writer opens the files it is asked for, or fails at the disk and stays closed. -/
theorem init_of_closed (hclosed : w.files = none) {path : Path} {audio : Option AudioParams}
    (h : w.init path audio d fault = (w', d', error)) :
    (error = none ∧ ∃ files', w'.files = some files' ∧ files'.audio.isSome = audio.isSome) ∨
      error = some .io ∧ w'.files = none := by
  have hopens := w.opens_init path audio d fault
  rw [h] at hopens
  cases hopens with
  | refused hopen =>
    rw [hclosed] at hopen
    cases hopen
  | noVideo | noSound => exact .inr ⟨rfl, hclosed⟩
  | video _ haudio | both _ haudio => exact .inl ⟨rfl, _, rfl, by rw [haudio]; rfl⟩

/-- An open writer takes video unless the disk fails, and stays open. -/
theorem writeVideo_of_open (hopen : w.files = some files) {data : Bytes}
    (h : w.writeVideo data d fault = (w', d', error)) :
    (∀ cause, error = some cause → cause = .io ∧ fault ≠ none) ∧
      ∃ files', w'.files = some files' ∧ files'.audio = files.audio := by
  simp only [writeVideo, hopen] at h
  cases h
  refine ⟨fun cause herror => ?_, _, rfl, rfl⟩
  obtain ⟨hio, hlimit⟩ := files.video.error_write data d _ herror
  exact ⟨hio, fun hnone => hlimit (by rw [hnone]; rfl)⟩

/-- Sound is taken by a recording that has a track for it. -/
theorem writeAudio_of_open (hopen : w.files = some files) (haudio : files.audio.isSome = true)
    {data : Bytes} (h : w.writeAudio data d fault = (w', d', error)) :
    (∀ cause, error = some cause → cause = .io ∧ fault ≠ none) ∧
      ∃ files', w'.files = some files' ∧ files'.audio.isSome = true := by
  obtain ⟨audio, haudio⟩ := Option.isSome_iff_exists.mp haudio
  simp only [writeAudio, hopen, haudio] at h
  cases h
  refine ⟨fun cause herror => ?_, _, rfl, rfl⟩
  obtain ⟨hio, hlimit⟩ := audio.error_write data d _ herror
  exact ⟨hio, fun hnone => hlimit (by rw [hnone]; rfl)⟩

/-- A writer lets go of its files even if that fails. -/
theorem deinit_of_open (hopen : w.files = some files) (h : w.deinit d fault = (w', d', error)) :
    (∀ cause, error = some cause → cause = .io ∧ fault ≠ none) ∧ w'.files = none := by
  simp only [deinit, hopen, Option.isSome_some, if_true, close] at h
  cases h
  refine ⟨fun cause herror => ?_, rfl⟩
  obtain ⟨f, rfl, rfl⟩ := Option.map_eq_some_iff.mp herror
  exact ⟨rfl, Option.some_ne_none f⟩

/-- A call to a writer. -/
inductive Request where
  | init (path : Path) (audio : Option AudioParams)
  | video (data : Bytes)
  | audio (data : Bytes)
  | trailer (data : Bytes)
  | deinit
deriving DecidableEq

/-- The outcome of a call, in which an operation on files may fail. -/
def serve (w : FileWriter) (d : Disk) (r : Request) (fault : Option Fault) : Outcome :=
  match r with
  | .init path audio => w.init path audio d fault
  | .video data => w.writeVideo data d fault
  | .audio data => w.writeAudio data d fault
  | .trailer data => w.appendTrailer data d fault
  | .deinit => w.deinit d fault

/-- A call that was answered. -/
structure Served where
  request : Request
  /-- The disk that the call found. -/
  found : Disk
  error : Option WriterError

/-- The writer and the disk after a series of calls, and how they were answered. -/
def serveAll (w : FileWriter) (d : Disk) :
    List (Request × Option Fault) → FileWriter × Disk × List Served
  | [] => (w, d, [])
  | (r, fault) :: calls =>
    let (w', d', error) := w.serve d r fault
    let (w'', d'', rest) := w'.serveAll d' calls
    (w'', d'', ⟨r, d, error⟩ :: rest)

/-! ## What is known from the answers -/

/-- Data that a call was to write, and the error that the call was answered with, if it was. -/
structure Piece where
  data : Bytes
  error : Option WriterError
deriving DecidableEq

/-- A content is made of what is left of pieces, in order. -/
inductive Makes : List Piece → Bytes → Prop
  | nil : Makes [] []
  | concat {pieces : List Piece} {piece : Piece} {content left : Bytes} (h : Makes pieces content)
    (hleft : Handle.Leaves piece.data piece.error left) :
    Makes (pieces ++ [piece]) (content ++ left)

/-- What is known of the recording in progress from the calls alone: what it was opened with and on
which disk, and what it was given since, in order. -/
structure InProgress where
  path : Path
  audio : Option AudioParams
  before : Disk
  video : List Piece := []
  sound : List Piece := []
deriving DecidableEq

/-- Whether an error tells that a call did not fit the state of the writer. -/
def isRefusal : WriterError → Bool
  | .io => false
  | .notOpen | .alreadyOpen | .unsupported _ => true

/-- What is known after one more call. A call that was refused changes nothing. -/
def InProgress.after (p : Option InProgress) (s : Served) : Option InProgress :=
  if s.error.any isRefusal then p
  else match s.request with
    | .init path audio => if s.error = none then some { path, audio, before := s.found } else none
    | .video data | .trailer data =>
      p.map fun p => { p with video := p.video ++ [⟨data, s.error⟩] }
    | .audio data => p.map fun p => { p with sound := p.sound ++ [⟨data, s.error⟩] }
    | .deinit => none

/-- Why a call does not fit the state of the writer, if it does not. -/
def Request.refusal? (p : Option InProgress) : Request → Option WriterError
  | .init .. => if p.isSome then some .alreadyOpen else none
  | .audio _ =>
    match p with
    | none => some .notOpen
    | some p => if p.audio.isSome then none else some (.unsupported "stream has no audio track")
  | .video _ | .trailer _ | .deinit => if p.isSome then none else some .notOpen

theorem Request.isRefusal_of_refusal? {p : Option InProgress} {r : Request} {cause : WriterError}
    (h : r.refusal? p = some cause) : isRefusal cause = true := by
  cases r with
  | init =>
    simp only [refusal?] at h
    split at h
    · cases h
      rfl
    · cases h
  | video | trailer | deinit =>
    simp only [refusal?] at h
    split at h
    · cases h
    · cases h
      rfl
  | audio =>
    cases p with
    | none =>
      cases h
      rfl
    | some p =>
      simp only [refusal?] at h
      split at h
      · cases h
      · cases h
        rfl

/-- How a call is answered: the writer and the disk before it, what is known of the recording in
progress, and the outcome. -/
inductive Answers (w : FileWriter) (d : Disk) (p : Option InProgress) (r : Request)
    (fault : Option Fault) : Outcome → Prop
  /-- A call that does not fit changes neither the writer nor the disk. -/
  | refused {cause : WriterError} (h : r.refusal? p = some cause) :
    Answers w d p r fault (w, d, some cause)
  | served {w' : FileWriter} {d' : Disk} (h : r.refusal? p = none) :
    Answers w d p r fault (w', d', none)
  /-- Any other call fails only if an operation on files does, or if files cannot be opened. -/
  | failed {w' : FileWriter} {d' : Disk} (h : r.refusal? p = none)
    (hfault : fault = none → ∃ path audio, r = .init path audio) :
    Answers w d p r fault (w', d', some .io)

/-! ## Agreement -/

/-- The writer is in the state that is known from the calls: it writes the files of the recording in
progress, and since that began no other file has changed. -/
inductive Agrees (w : FileWriter) (d : Disk) : Option InProgress → Prop
  | closed (h : w.files = none) : Agrees w d none
  | writes {p : InProgress} {files : OpenFiles} {video sound : Bytes} (h : w.files = some files)
    (hbefore : p.before.Sound) (hgrows : p.before.GrowsAt (p.path.sites p.audio p.before.home) d)
    (hvideo : Makes p.video video) (hsound : Makes p.sound sound)
    (hfills : files.Fills d p.path p.audio video sound) : Agrees w d (some p)

variable {p : Option InProgress}

/-- The sound of a recording that has any goes to another file than its video. -/
def Request.KeepsApart (home : Location) : Request → Prop
  | .init path params => (path.sites params home).Nodup
  | _ => True

instance (home : Location) : (r : Request) → Decidable (r.KeepsApart home)
  | .init _ _ => inferInstanceAs (Decidable (List.Nodup _))
  | .video _ | .audio _ | .trailer _ | .deinit => .isTrue trivial

/-- A call that fits is answered without an error, or it has failed at the files. -/
theorem Answers.of_fits {r : Request} {o : Outcome} (h : r.refusal? p = none)
    (herror : ∀ cause, o.2.2 = some cause → cause = .io ∧ fault ≠ none) :
    w.Answers d p r fault o := by
  obtain ⟨w', d', error⟩ := o
  cases error with
  | none => exact .served h
  | some cause =>
    obtain ⟨rfl, hfault⟩ := herror cause rfl
    exact .failed h fun hnone => absurd hnone hfault

/-- An error is only answered to a call that does not fit, or when the files fail. -/
theorem answers_serve (h : w.Agrees d p) (r : Request) (fault : Option Fault) :
    w.Answers d p r fault (w.serve d r fault) := by
  cases h with
  | closed hclosed =>
    cases r with
    | init path params =>
      rcases hmade : w.init path params d fault with ⟨w', d', error⟩
      rw [serve, hmade]
      rcases init_of_closed hclosed hmade with ⟨rfl, -⟩ | ⟨rfl, -⟩
      · exact .served rfl
      · exact .failed rfl fun _ => ⟨path, params, rfl⟩
    | video data | trailer data =>
      simp only [serve, appendTrailer, writeVideo, hclosed]
      exact .refused rfl
    | audio data =>
      simp only [serve, writeAudio, hclosed]
      exact .refused rfl
    | deinit =>
      simp only [serve, deinit, hclosed]
      exact .refused rfl
  | @writes p files _ _ hopen hbefore hgrows hvideo hsound hfills =>
    cases r with
    | init path params =>
      simp only [serve, init, hopen, Option.isSome_some, if_true]
      exact .refused rfl
    | video data | trailer data => exact .of_fits rfl (writeVideo_of_open hopen rfl).1
    | audio data =>
      have hsome := hfills.isSome_audio
      cases haudio : files.audio with
      | none =>
        simp only [serve, writeAudio, hopen, haudio]
        exact .refused (by simp [Request.refusal?, ← hsome, haudio])
      | some handle =>
        have hisSome : files.audio.isSome = true := by rw [haudio]; rfl
        exact .of_fits (by simp [Request.refusal?, ← hsome, haudio])
          (writeAudio_of_open hopen hisSome rfl).1
    | deinit => exact .of_fits rfl (deinit_of_open hopen rfl).1

/-- The places of the files that a call is about: those of the recording in progress, or those that
are to be opened. -/
def Request.sites (p : Option InProgress) (r : Request) (home : Location) : List Location :=
  match p, r with
  | some p, _ => p.path.sites p.audio home
  | none, .init path params => path.sites params home
  | none, _ => []

theorem grows_serve (hd : d.Sound) {r : Request} (h : w.serve d r fault = (w', d', error)) :
    d.Grows d' := by
  cases r with
  | init => exact (grows_init hd h).1
  | video | trailer => exact (grows_writeVideo hd h).1
  | audio => exact (grows_writeAudio hd h).1
  | deinit => exact (grows_deinit hd h).1

/-- A recording in progress takes what a call leaves, and changes no other file. -/
theorem Agrees.write {p : InProgress} {r : Request} (h : w.Agrees d (some p)) (hd : d.Sound)
    (hfits : r.refusal? (some p) = none) (hmade : w.serve d r fault = (w', d', error))
    (herror : error.any isRefusal = false) :
    d.GrowsAt (p.path.sites p.audio d.home) d' ∧
      w'.Agrees d' (InProgress.after (some p) ⟨r, d, error⟩) := by
  cases h with
  | @writes p files video sound hopen hbefore hgrows hvideo hsound hfills =>
    have hgrows' := grows_serve hd hmade
    have hstays {pieces pieces' : List Piece} {video sound : Bytes} {files' : OpenFiles}
        (hchanges : d.ChangesOnly (p.path.sites p.audio d.home) d') (hopen : w'.files = some files')
        (hvideo : Makes pieces video) (hsound : Makes pieces' sound)
        (hfills : files'.Fills d' p.path p.audio video sound) :
        d.GrowsAt (p.path.sites p.audio d.home) d' ∧
          w'.Agrees d' (some { p with video := pieces, sound := pieces' }) := by
      have hmore := hgrows'.growsAt hchanges
      refine ⟨hmore, .writes hopen hbefore (hgrows.trans ?_) hvideo hsound hfills⟩
      rwa [hgrows.grows.home] at hmore
    simp only [InProgress.after, herror, Bool.false_eq_true, if_false]
    cases r with
    | init => cases hfits
    | video data | trailer data =>
      obtain ⟨hchanges, files', left, hopen', hleaves, hfills'⟩ :=
        fills_writeVideo hd hopen hfills hmade
      exact hstays hchanges hopen' (hvideo.concat hleaves) hsound hfills'
    | audio data =>
      have hserved (what : String) : error ≠ some (.unsupported what) := by
        rintro rfl
        cases herror
      obtain ⟨hchanges, files', left, hopen', hleaves, hfills'⟩ :=
        fills_writeAudio hd hopen hfills hmade hserved
      exact hstays hchanges hopen' hvideo (hsound.concat hleaves) hfills'
    | deinit =>
      refine ⟨?_, .closed (grows_deinit hd hmade).2⟩
      simp only [serve, FileWriter.deinit, close, hopen, Option.isSome_some, if_true] at hmade
      cases hmade
      exact hgrows'.growsAt (hfills.flush hd fault).1

/-- **A writer stays in the state that is known from its calls**, and a call changes no files but
those that it is about. -/
theorem Agrees.serve (h : w.Agrees d p) (hd : d.Sound) {r : Request} (hapart : r.KeepsApart d.home)
    (hmade : w.serve d r fault = (w', d', error)) :
    d.GrowsAt (r.sites p d.home) d' ∧ w'.Agrees d' (InProgress.after p ⟨r, d, error⟩) := by
  have hanswers := answers_serve h r fault
  rw [hmade] at hanswers
  have hfits (hr : r.refusal? p = none) (herror : error = none ∨ error = some .io) :
      d.GrowsAt (r.sites p d.home) d' ∧ w'.Agrees d' (InProgress.after p ⟨r, d, error⟩) := by
    have hserved : error.any isRefusal = false := by
      rcases herror with rfl | rfl <;> rfl
    cases p with
    | some p => exact h.write hd hr hmade hserved
    | none =>
      cases r with
      | video | audio | trailer | deinit => cases hr
      | init path audio =>
        refine ⟨growsAt_init hd hmade, ?_⟩
        cases h with
        | closed hclosed =>
          rcases init_of_closed hclosed hmade with ⟨rfl, -⟩ | ⟨rfl, hclosed'⟩
          · obtain ⟨-, files, hopen, hfills⟩ := fills_init hd hapart hmade
            exact .writes hopen hd (growsAt_init hd hmade) .nil .nil hfills
          · exact .closed hclosed'
  cases hanswers with
  | served hr => exact hfits hr (.inl rfl)
  | failed hr => exact hfits hr (.inr rfl)
  | @refused cause hr =>
    refine ⟨hd.growsAt_refl _, ?_⟩
    simp only [InProgress.after, Option.any_some, Request.isRefusal_of_refusal? hr, if_true]
    exact h

/-! ## Series of calls -/

/-- A call was to open a file at a place, and was not refused. -/
def Served.Concerns (s : Served) (loc home : Location) : Prop :=
  ∃ path params, s.request = .init path params ∧ s.error.any isRefusal = false ∧
    loc ∈ path.sites params home

/-- A recording in progress was so before, or was opened by the last call. -/
theorem InProgress.of_after {s : Served} {recording : InProgress}
    (h : InProgress.after p s = some recording) :
    (∃ old, p = some old ∧ old.path = recording.path ∧ old.audio = recording.audio) ∨
      s.request = .init recording.path recording.audio ∧ s.error = none := by
  unfold after at h
  split at h
  · exact .inl ⟨recording, h, rfl, rfl⟩
  · split at h
    · next hrequest =>
      split at h
      · next herror =>
        cases h
        exact .inr ⟨hrequest, herror⟩
      · cases h
    · obtain ⟨old, hold, rfl⟩ := Option.map_eq_some_iff.mp h
      exact .inl ⟨old, hold, rfl, rfl⟩
    · obtain ⟨old, hold, rfl⟩ := Option.map_eq_some_iff.mp h
      exact .inl ⟨old, hold, rfl, rfl⟩
    · obtain ⟨old, hold, rfl⟩ := Option.map_eq_some_iff.mp h
      exact .inl ⟨old, hold, rfl, rfl⟩
    · cases h

/-- A place that no call concerned is not one of those that the next call is about. -/
theorem Agrees.not_mem_sites (h : w.Agrees d p) {r : Request} {loc : Location}
    (hmade : w.serve d r fault = (w', d', error))
    (hp : ∀ recording ∈ p, loc ∉ recording.path.sites recording.audio d.home)
    (hcall : ¬ Served.Concerns ⟨r, d, error⟩ loc d.home) : loc ∉ r.sites p d.home := by
  cases p with
  | some recording => exact hp recording rfl
  | none =>
    cases r with
    | video | audio | trailer | deinit => exact List.not_mem_nil
    | init path params =>
      have hanswers := answers_serve h (.init path params) fault
      rw [hmade] at hanswers
      have hserved : error.any isRefusal = false := by
        cases hanswers with
        | served | failed => rfl
        | refused hr => cases hr
      exact fun hmem => hcall ⟨path, params, rfl, hserved, hmem⟩

/-- After any calls the writer is in the state that is known from them, and what can be read at a
place that no call concerned is what was there. -/
theorem Agrees.serveAll (h : w.Agrees d p) (hd : d.Sound) {calls : List (Request × Option Fault)}
    (hapart : ∀ c ∈ calls, c.1.KeepsApart d.home) :
    let o := w.serveAll d calls
    o.1.Agrees o.2.1 (o.2.2.foldl InProgress.after p) ∧ d.Grows o.2.1 ∧
      ∀ q data, d.read? q = some data →
        (∀ recording ∈ p, q.place d.home ∉ recording.path.sites recording.audio d.home) →
        (∀ s ∈ o.2.2, ¬ s.Concerns (q.place d.home) d.home) → o.2.1.read? q = some data := by
  induction calls generalizing w d p with
  | nil => exact ⟨h, hd.grows_refl, fun q data hread _ _ => hread⟩
  | cons call calls ih =>
    obtain ⟨r, fault⟩ := call
    obtain ⟨hfirst, hrest⟩ := List.forall_mem_cons.mp hapart
    rcases hmade : w.serve d r fault with ⟨w', d', error⟩
    obtain ⟨hgrows, hagrees⟩ := h.serve hd hfirst hmade
    have hhome := hgrows.grows.home
    rw [← hhome] at hrest
    obtain ⟨hend, hgrows', hread'⟩ := ih hagrees hgrows.grows.sound hrest
    simp only [FileWriter.serveAll, hmade, List.foldl_cons]
    refine ⟨hend, hgrows.grows.trans hgrows', fun q data hread hp hcalls => ?_⟩
    obtain ⟨hcall, hcalls⟩ := List.forall_mem_cons.mp hcalls
    have hoff := h.not_mem_sites hmade hp hcall
    rw [hhome] at hread'
    refine hread' q data (hgrows.read hd hoff hread) (fun recording hrecording hmem => ?_) hcalls
    rcases InProgress.of_after hrecording with ⟨old, hold, hpath, haudio⟩ | ⟨hrequest, herror⟩
    · exact hp old hold (by rwa [hpath, haudio])
    · refine hcall ⟨_, _, hrequest, ?_, hmem⟩
      rw [herror]
      rfl

/-- What the disk holds when a recording has ended: its video and its sound are what the calls to
write have left, and what else could be read when it began is read as it was. -/
structure InProgress.Kept (p : InProgress) (d : Disk) : Prop where
  video : ∃ content, Makes p.video content ∧ d.read? p.path = some content
  sound : ∀ params ∈ p.audio, ∃ content, Makes p.sound content ∧
    d.read? (p.path.audioSibling params.codec) = some content
  beside : ∀ q data, p.before.read? q = some data →
    q.place d.home ∉ p.path.sites p.audio d.home → d.read? q = some data

/-- A recording that is ended is kept. -/
theorem Agrees.deinit (h : w.Agrees d p) (hd : d.Sound)
    (hmade : w.deinit d fault = (w', d', none)) :
    ∃ recording, p = some recording ∧ recording.Kept d' := by
  cases h with
  | closed hclosed =>
    simp only [FileWriter.deinit, hclosed] at hmade
    cases hmade
  | @writes p files video sound hopen hbefore hgrows hvideo hsound hfills =>
    obtain ⟨hchanges, -, hread, hheard⟩ := read_deinit hd hopen hfills hmade
    have hmore := (grows_deinit hd hmade).1.growsAt hchanges
    rw [hgrows.grows.home] at hmore
    have hall := hgrows.trans hmore
    refine ⟨p, rfl, ⟨video, hvideo, hread⟩, fun params hparams => ⟨sound, hsound, ?_⟩, ?_⟩
    · exact hheard params hparams
    · intro q data hthere hbeside
      rw [hall.grows.home] at hbeside
      exact hall.read hbefore hbeside hthere

end FileWriter

end CameraRecorder

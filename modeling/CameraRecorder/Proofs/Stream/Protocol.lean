import CameraRecorder.Proofs.Stream.Stage
import Mathlib.Algebra.Order.Kleene
import Mathlib.Computability.Language
import Mathlib.Order.CompletePartialOrder
import Mathlib.Tactic.GCongr

/-!
# The protocol of the writer

What a writer is told is a word of a regular language: attempts to open a file that fail, and files
that are opened, filled beginning with a key frame, and closed, one after the other. The words are
read off the journal through a view (`shows`), which may hide the events between the calls; a hidden
entry is read as nothing. The invariant of a run is a language for each state of the worker
(`Stream.told`), in which whatever was told so far is found.
-/

namespace CameraRecorder

open scoped Computability

/-! ## The language -/

namespace Protocol

variable (shows : Entry → Bool) (handle : StreamHandle) (config : StreamConfig) (path : Path)

/-- An entry, read through a view. -/
def letter (e : Entry) : Language Entry := {[e].filter shows}

/-- A call that may fail. -/
def call (e : Entry) : Language Entry :=
  letter shows e * (1 + ⨆ cause, letter shows (.failed cause))

/-- The call to open a file. -/
def init : Entry :=
  .init config.format ((Stream.create handle config).writePath path) config.video config.audio

/-- A file that could not be opened. -/
def refused : Language Entry :=
  ⨆ path, ⨆ cause, letter shows (init handle config path) * letter shows (.failed cause)

/-- A file is opened. -/
def head : Language Entry :=
  letter shows (init handle config path) * letter shows (.event (.fileBegin path))

/-- The first frame of a file is a key frame. -/
def keyFrame : Language Entry :=
  ⨆ ticket : Ticket, ⨆ _ : ticket.frame.isKey = true, call shows (.video ticket)

/-- Any frame. There is audio only if the stream is configured so. -/
def frame : Language Entry :=
  (⨆ ticket, call shows (.video ticket)) +
    ⨆ _ : config.audio.isSome = true, ⨆ ticket, call shows (.audio ticket)

/-- A trailer, or none. -/
def trailer : Language Entry := 1 + ⨆ snapshot, ⨆ data, call shows (.trailer snapshot data)

/-- The end of a file is told. -/
def ended : Language Entry := ⨆ duration, letter shows (.event (.fileEnd path duration))

/-- All that is told of a file. -/
def file : Language Entry :=
  head shows handle config path * (keyFrame shows * (frame shows config)∗) *
    (trailer shows * call shows .deinit * ended shows path)

/-- All that a writer may be told. -/
def words : Language Entry := (refused shows handle config + ⨆ path, file shows handle config path)∗

/-! ## What was told at each stage of a file -/

/-- The file is open, and some frame was written. -/
def recorded : Language Entry :=
  words shows handle config *
    (head shows handle config path * (keyFrame shows * (frame shows config)∗))

/-- The file may be handed a video frame: its first if that is a key frame, or a later one. -/
def beforeVideo (ticket : Ticket) : Language Entry :=
  (⨆ _ : ticket.frame.isKey = true, words shows handle config * head shows handle config path) +
    recorded shows handle config path

variable {shows handle config path} {w : List Entry} {L : Language Entry}

theorem append_letter (shows : Entry → Bool) (h : w ∈ L) (e : Entry) :
    w ++ [e].filter shows ∈ L * letter shows e :=
  Language.append_mem_mul h rfl

/-- Whatever the reply, the call was made. -/
theorem append_reply {e : Entry} (h : w ∈ L * letter shows e) (error : Option WriterError) :
    w ++ (error.map Entry.failed).toList.filter shows ∈ L * call shows e := by
  rw [call, ← mul_assoc]
  refine Language.append_mem_mul h ?_
  cases error with
  | none => exact .inl rfl
  | some cause => exact .inr (Language.mem_iSup.mpr ⟨cause, rfl⟩)

theorem mem_of_le {M : Language Entry} (h : L ≤ M) (hw : w ∈ L) : w ∈ M := h hw

/-- Whatever is a word by itself may follow. -/
theorem words_mul (h : L ≤ refused shows handle config + ⨆ path, file shows handle config path) :
    words shows handle config * L ≤ words shows handle config :=
  calc words shows handle config * L
      ≤ words shows handle config *
          (refused shows handle config + ⨆ path, file shows handle config path) := by gcongr
    _ ≤ words shows handle config := kstar_mul_le_kstar

theorem file_le :
    file shows handle config path
      ≤ refused shows handle config + ⨆ path, file shows handle config path :=
  le_trans (le_iSup (file shows handle config) path) le_add_self

/-- An attempt to open a file that fails makes a word. -/
theorem append_refused (h : w ∈ words shows handle config * letter shows (init handle config path))
    (cause : WriterError) : w ++ [.failed cause].filter shows ∈ words shows handle config := by
  have h := append_letter shows h (.failed cause)
  rw [mul_assoc] at h
  refine mem_of_le (words_mul (le_trans ?_ le_self_add)) h
  exact le_iSup₂_of_le path cause le_rfl

/-- An attempt to open a file that succeeds opens one. -/
theorem append_begin (h : w ∈ words shows handle config * letter shows (init handle config path)) :
    w ++ [.event (.fileBegin path)].filter shows
      ∈ words shows handle config * head shows handle config path := by
  have h := append_letter shows h (.event (.fileBegin path))
  rwa [mul_assoc] at h

/-- A file that was recorded still is after one more frame. -/
theorem recorded_mul_frame :
    recorded shows handle config path * frame shows config ≤ recorded shows handle config path := by
  rw [recorded, mul_assoc, mul_assoc, mul_assoc]
  gcongr
  exact kstar_mul_le_kstar

/-- A file is recorded after its first frame. -/
theorem head_mul_keyFrame :
    words shows handle config * head shows handle config path * keyFrame shows
      ≤ recorded shows handle config path := by
  rw [recorded, mul_assoc]
  gcongr
  exact le_mul_of_one_le_right' one_le_kstar

/-- A recorded file that was closed makes a word. -/
theorem append_end
    (h : w ∈ recorded shows handle config path * trailer shows * call shows .deinit)
    (duration : Nat) :
    w ++ [.event (.fileEnd path duration)].filter shows ∈ words shows handle config := by
  refine mem_of_le ?_ (append_letter shows h (.event (.fileEnd path duration)))
  have hend : letter shows (.event (.fileEnd path duration)) ≤ ended shows path :=
    le_iSup (fun d => letter shows (.event (.fileEnd path d))) duration
  calc recorded shows handle config path * trailer shows * call shows .deinit *
        letter shows (.event (.fileEnd path duration))
      ≤ recorded shows handle config path * trailer shows * call shows .deinit *
          ended shows path := by gcongr
    _ = words shows handle config * file shows handle config path := by
      simp only [recorded, file, mul_assoc]
    _ ≤ words shows handle config := words_mul file_le

theorem beforeVideo_mul_call (ticket : Ticket) :
    beforeVideo shows handle config path ticket * call shows (.video ticket)
      ≤ recorded shows handle config path := by
  rw [beforeVideo, add_mul, add_le_iff]
  constructor
  · rw [Language.iSup_mul]
    refine iSup_le fun hkey => le_trans ?_ head_mul_keyFrame
    gcongr
    exact le_iSup₂_of_le ticket hkey le_rfl
  · refine le_trans ?_ recorded_mul_frame
    gcongr
    exact le_trans (le_iSup (fun t => call shows (.video t)) ticket) le_self_add

theorem beforeAudio_mul_call (ticket : Ticket) :
    (⨆ _ : config.audio.isSome = true, recorded shows handle config path) *
        call shows (.audio ticket)
      ≤ recorded shows handle config path := by
  rw [Language.iSup_mul]
  refine iSup_le fun haudio => le_trans ?_ recorded_mul_frame
  gcongr
  exact le_trans (le_iSup₂_of_le haudio ticket le_rfl) le_add_self

theorem mem_mul_trailer (h : w ∈ L) : w ∈ L * trailer shows := by
  have := Language.append_mem_mul h (show [] ∈ trailer shows from .inl rfl)
  rwa [List.append_nil] at this

theorem call_trailer_le (snapshot : Ticket) (data : Bytes) :
    call shows (.trailer snapshot data) ≤ trailer shows :=
  le_trans (le_iSup₂_of_le snapshot data le_rfl) le_add_self

/-! ## What was told during a task -/

variable (shows handle config path)

/-- What was told when a task is done with an open file. -/
def afterTask : Task → Language Entry
  | .beginning _ => words shows handle config * head shows handle config path
  | .writingVideo ticket =>
    beforeVideo shows handle config path ticket * letter shows (.video ticket)
  | .writingAudio ticket =>
    (⨆ _ : config.audio.isSome = true, recorded shows handle config path)
      * letter shows (.audio ticket)
  | .trailing snapshot data _ =>
    recorded shows handle config path * letter shows (.trailer snapshot data)
  | .finishing _ => recorded shows handle config path * trailer shows * letter shows .deinit
  | .publishing _ => recorded shows handle config path * trailer shows * call shows .deinit
  | .ending _ => words shows handle config
  | _ => recorded shows handle config path

/-- What was told when a task is done without a file. -/
def afterBareTask : Task → Language Entry
  | .creating _ _ path => words shows handle config * letter shows (init handle config path)
  | _ => words shows handle config

variable {shows handle config path}

/-! ## Whatever was told can be completed -/

theorem completes_finishing
    (h : w ∈ recorded shows handle config path * trailer shows * letter shows .deinit) :
    ∃ rest, w ++ rest ∈ words shows handle config := by
  have h := append_reply h none
  rw [Option.map_none, Option.toList_none, List.filter_nil, List.append_nil] at h
  exact ⟨_, append_end h 0⟩

theorem completes_recorded (h : w ∈ recorded shows handle config path * trailer shows) :
    ∃ rest, w ++ rest ∈ words shows handle config := by
  obtain ⟨rest, hrest⟩ := completes_finishing (append_letter shows h .deinit)
  rw [List.append_assoc] at hrest
  exact ⟨_, hrest⟩

theorem completes_called {e : Entry} (h : w ∈ L * letter shows e)
    (hle : L * call shows e ≤ recorded shows handle config path * trailer shows) :
    ∃ rest, w ++ rest ∈ words shows handle config := by
  have h := append_reply h none
  rw [Option.map_none, Option.toList_none, List.filter_nil, List.append_nil] at h
  exact completes_recorded (mem_of_le hle h)

theorem recorded_le : recorded shows handle config path
    ≤ recorded shows handle config path * trailer shows :=
  le_mul_of_one_le_right' le_self_add

theorem completes_head (h : w ∈ words shows handle config * head shows handle config path) :
    ∃ rest, w ++ rest ∈ words shows handle config := by
  -- any key frame will do
  let ticket : Ticket := ⟨0, ⟨[], 0, true⟩⟩
  have hbefore : w ∈ beforeVideo shows handle config path ticket :=
    .inl (Language.mem_iSup.mpr ⟨rfl, h⟩)
  obtain ⟨rest, hrest⟩ := completes_called (append_letter shows hbefore (.video ticket))
    ((beforeVideo_mul_call ticket).trans recorded_le)
  rw [List.append_assoc] at hrest
  exact ⟨_, hrest⟩

theorem completes_task {task : Task} (h : w ∈ afterTask shows handle config path task) :
    ∃ rest, w ++ rest ∈ words shows handle config := by
  cases task with
  | beginning _ => exact completes_head h
  | writingVideo ticket =>
    exact completes_called h ((beforeVideo_mul_call ticket).trans recorded_le)
  | writingAudio ticket =>
    exact completes_called h ((beforeAudio_mul_call ticket).trans recorded_le)
  | trailing snapshot data _ =>
    exact completes_called h (mul_le_mul' le_rfl (call_trailer_le snapshot data))
  | finishing _ => exact completes_finishing h
  | publishing _ => exact ⟨_, append_end h 0⟩
  | ending _ => exact ⟨[], by rwa [List.append_nil]⟩
  | _ => exact completes_recorded (mem_mul_trailer h)

theorem completes_bareTask {task : Task} (h : w ∈ afterBareTask shows handle config task) :
    ∃ rest, w ++ rest ∈ words shows handle config := by
  cases task with
  | creating _ _ path =>
    obtain ⟨rest, hrest⟩ := completes_head (append_begin h)
    rw [List.append_assoc] at hrest
    exact ⟨_, hrest⟩
  | _ => exact ⟨[], by rwa [List.append_nil]⟩

/-- A view that shows nothing but what is about files hides the rest. -/
theorem filter_hidden {es : List Entry} (hshows : ∀ e, shows e = true → e.isAboutFile = true)
    (h : ∀ e ∈ es, e.isAboutFile = false) : es.filter shows = [] := by
  refine List.filter_eq_nil_iff.mpr fun e he hshown => ?_
  have := hshows e hshown
  rw [h e he] at this
  cases this

end Protocol

/-- Whether nothing about a file is under way in a task. -/
def Task.isQuiet : Task → Bool
  | beginning _ | writingVideo _ | writingAudio _ | trailing .. | finishing _ | publishing _
  | ending _ | creating .. => false
  | _ => true

namespace Stream

open Protocol

variable {s s' : Stream} {m : Move} {es : List Entry} {shows : Entry → Bool}
  {handle : StreamHandle} {config : StreamConfig} {w : List Entry}

/-- What was told between two files, or between two frames of the open file. -/
def restWords (shows : Entry → Bool) (handle : StreamHandle) (config : StreamConfig) (s : Stream) :
    Language Entry :=
  match s.file with
  | some file => recorded shows handle config file.path
  | none => words shows handle config

/-- What was told so far, as far as the state of the stream shows. -/
def told (shows : Entry → Bool) (handle : StreamHandle) (config : StreamConfig) (s : Stream) :
    Language Entry :=
  match s.activity.task?, s.file with
  | some task, some file => afterTask shows handle config file.path task
  | some task, none => afterBareTask shows handle config task
  | none, _ => s.restWords shows handle config

theorem told_quiet (h : s.activity.task?.all Task.isQuiet = true) :
    s.told shows handle config = s.restWords shows handle config := by
  unfold told restWords
  cases htask : s.activity.task? with
  | none => rfl
  | some task =>
    rw [htask] at h
    cases hfile : s.file with
    | some file =>
      simp only
      cases task with
      | _ => first | rfl | cases h
    | none =>
      simp only
      cases task with
      | _ => first | rfl | cases h

theorem mem_told_with {en : Bool} {task : Task} {f : OpenFile} (h : s.activity = .awake en task)
    (hfile : s.file = some f) :
    w ∈ s.told shows handle config ↔ w ∈ afterTask shows handle config f.path task := by
  unfold told
  rw [h, hfile]
  rfl

theorem mem_told_without {en : Bool} {task : Task} (h : s.activity = .awake en task)
    (hfile : s.file = none) :
    w ∈ s.told shows handle config ↔ w ∈ afterBareTask shows handle config task := by
  unfold told
  rw [h, hfile]
  rfl

theorem told_with {en : Bool} {task : Task} {f : OpenFile} (h : s.activity = .awake en task)
    (hfile : s.file = some f) (hw : w ∈ afterTask shows handle config f.path task) :
    w ∈ s.told shows handle config :=
  (mem_told_with h hfile).mpr hw

theorem told_without {en : Bool} {task : Task} (h : s.activity = .awake en task)
    (hfile : s.file = none) (hw : w ∈ afterBareTask shows handle config task) :
    w ∈ s.told shows handle config :=
  (mem_told_without h hfile).mpr hw

/-- A move that tells nothing about files, from one quiet task to another. -/
theorem told_of_quiet (hw : w ∈ s.told shows handle config)
    (h : s.activity.task?.all Task.isQuiet = true) (h' : s'.activity.task?.all Task.isQuiet = true)
    (hpath : s'.file.map (·.path) = s.file.map (·.path)) (hes : es.filter shows = []) :
    w ++ es.filter shows ∈ s'.told shows handle config := by
  rw [told_quiet h] at hw
  rw [hes, List.append_nil, told_quiet h']
  unfold restWords at hw ⊢
  cases hfile : s.file with
  | none =>
    rw [hfile] at hw hpath
    rw [Option.map_eq_none_iff.mp hpath]
    exact hw
  | some f =>
    rw [hfile] at hw hpath
    obtain ⟨f', hf', hp⟩ := Option.map_eq_some_iff.mp hpath
    rw [hf']
    simpa only [hp] using hw

theorem path_collectThumbnail (s : Stream) :
    s.collectThumbnail.1.file.map (·.path) = s.file.map (·.path) := by
  obtain ⟨waiting, kept, h⟩ := s.exists_collectThumbnail
  cases hfile : s.file <;> simp [h, withSnapshots, hfile]

theorem path_latchThumbnail (s : Stream) :
    s.latchThumbnail.1.file.map (·.path) = s.file.map (·.path) := by
  obtain ⟨waiting, kept, h⟩ := s.exists_latchThumbnail
  cases hfile : s.file <;> simp [h, withSnapshots, hfile]

theorem filter_optional {α : Type} (o : Option α) {f : α → Entry}
    (hshows : ∀ e, shows e = true → e.isAboutFile = true) (h : ∀ a, (f a).isAboutFile = false) :
    (o.map f).toList.filter shows = [] := by
  cases o with
  | none => rfl
  | some a => exact filter_hidden hshows fun e he => by rw [List.mem_singleton.mp he]; exact h a

/-- **What is told keeps to the protocol, move by move.** -/
theorem Step.told (h : Step s m s' es) (hs : s.Shaped)
    (hsame : (Stream.create handle config).Same s)
    (hshows : ∀ e, shows e = true → e.isAboutFile = true) (hw : w ∈ s.told shows handle config) :
    w ++ es.filter shows ∈ s'.told shows handle config := by
  have hquiet {en : Bool} {task : Task} (h : s.activity = .awake en task)
      (hq : task.isQuiet = true) : s.activity.task?.all Task.isQuiet = true := by
    rw [h]
    exact hq
  have hcollect : s.collectThumbnail.2.filter shows = [] :=
    filter_hidden hshows fun e he =>
      isAboutFile_of_isSnapshot (s.isSnapshot_collectThumbnail e he)
  have hlatch : s.latchThumbnail.2.filter shows = [] :=
    filter_hidden hshows fun e he => isAboutFile_of_isSnapshot (s.isSnapshot_latchThumbnail e he)
  have hlatched {f : OpenFile} (hfile : s.file = some f) :
      ∃ f', s.latchThumbnail.1.file = some f' ∧ f'.path = f.path := by
    have := s.path_latchThumbnail
    rw [hfile] at this
    exact Option.map_eq_some_iff.mp this
  cases h with
  | idle =>
    rw [List.filter_nil, List.append_nil]
    exact hw
  | start | stop | shutDown =>
    rw [filter_hidden hshows (by simp [Entry.isAboutFile, Entry.isCall]), List.append_nil]
    exact hw
  | misnamed =>
    rw [filter_optional _ hshows fun _ => rfl, List.append_nil]
    exact hw
  | accept | displace =>
    rw [filter_hidden hshows (by simp [Entry.isAboutFile, Entry.isCall]), List.append_nil]
    unfold Stream.told restWords at hw ⊢
    rw [activity_setLane, file_setLane]
    exact hw
  | wake h _ | wakeInterrupted h _ _ =>
    refine told_of_quiet hw (by rw [h]; rfl) rfl rfl (filter_hidden hshows ?_)
    simp [Entry.isAboutFile, Entry.isCall]
  | take h htake _ | takeInterrupted h htake _ =>
    obtain ⟨l, l', -, rfl⟩ := takeFrame?_eq_some htake
    refine told_of_quiet hw (hquiet h rfl) rfl (by rw [file_setLane]) (filter_hidden hshows ?_)
    simp [Entry.isAboutFile, Entry.isCall]
  | sleep h _ | closeLast h _ _ | turnIdle h _ _ | collect h =>
    exact told_of_quiet hw (hquiet h rfl) rfl s.path_collectThumbnail hcollect
  | split h _ _ | tryOpen h _ | loseAudio h _ | loseDisabled h _ | askName h _ _
  | loseNonKey h _ _ _ => exact told_of_quiet hw (hquiet h rfl) rfl rfl rfl
  | askKeyFrame h _ _ _ =>
    refine told_of_quiet hw (hquiet h rfl) rfl rfl (filter_hidden hshows ?_)
    simp [Entry.isAboutFile, Entry.isCall]
  | nameless h =>
    exact told_of_quiet hw (hquiet h rfl) rfl rfl (filter_optional _ hshows fun _ => rfl)
  | asked h htask =>
    rcases htask with rfl | rfl <;> exact told_of_quiet hw (hquiet h rfl) rfl rfl rfl
  | retire h =>
    refine told_of_quiet hw (hquiet h rfl) ?_ rfl (filter_hidden hshows ?_)
    · unfold Stream.retire
      cases s.shutdown <;> rfl
    · unfold Stream.retire
      cases s.audio <;> simp [Entry.isAboutFile, Entry.isCall]
  -- a frame is handed over: it is not the first of its file, or it would have opened it
  | @writeVideo _ ticket f h hfile _ =>
    have hw : w ∈ beforeVideo shows handle config f.path ticket :=
      .inr ((mem_told_with h hfile).mp hw)
    exact told_with rfl hfile (append_letter shows hw (.video ticket))
  | @writeAudio _ ticket f h hfile =>
    -- the frame came out of an audio lane, so there is one
    have haudio : config.audio.isSome = true := by
      have := hs.hand ⟨.audio, ticket⟩
        (by rw [inHand_awake h]; exact List.mem_singleton.mpr rfl) rfl
      rwa [hsame.config] at this
    have hw : w ∈ ⨆ _ : config.audio.isSome = true, recorded shows handle config f.path :=
      Language.mem_iSup.mpr ⟨haudio, (mem_told_with h hfile).mp hw⟩
    exact told_with rfl hfile (append_letter shows hw (.audio ticket))
  | @appendTrailer _ next snapshot data h _ =>
    obtain ⟨f, hfile⟩ := hs.exists_file h rfl
    obtain ⟨f', hfile', hpath⟩ := hlatched hfile
    have hw := (mem_told_with h hfile).mp hw
    rw [List.filter_append, hlatch, List.nil_append]
    exact told_with rfl hfile' (hpath ▸ append_letter shows hw (.trailer snapshot data))
  | finishBare h _ =>
    obtain ⟨f, hfile⟩ := hs.exists_file h rfl
    obtain ⟨f', hfile', hpath⟩ := hlatched hfile
    have hw : w ∈ recorded shows handle config f.path * trailer shows :=
      mem_mul_trailer ((mem_told_with h hfile).mp hw)
    rw [List.filter_append, hlatch, List.nil_append]
    exact told_with rfl hfile' (hpath ▸ append_letter shows hw .deinit)
  | @name _ ticket generation path request h =>
    have hfile := hs.file_eq_none h rfl
    have hw : w ∈ words shows handle config := (mem_told_without h hfile).mp hw
    -- the settings are those that the stream was made with
    have hinit : Entry.init s.config.format (s.writePath path) s.config.video s.config.audio
        = init handle config path := by
      unfold init writePath
      rw [hsame.config, hsame.handle]
      rfl
    rw [List.filter_append, filter_optional _ hshows fun _ => rfl, List.nil_append, hinit]
    exact told_without rfl hfile (append_letter shows hw (init handle config path))
  | @create _ ticket generation path _ h _ =>
    exact told_with rfl rfl (append_begin ((mem_told_without h (hs.file_eq_none h rfl)).mp hw))
  | @fail _ ticket generation path cause h =>
    have hfile := hs.file_eq_none h rfl
    exact told_without rfl hfile (append_refused ((mem_told_without h hfile).mp hw) cause)
  | @begin _ ticket _ h =>
    obtain ⟨f, hfile⟩ := hs.exists_file h rfl
    -- nothing but a key frame opens a file, and it is the first to be written to it
    have hkey : ticket.frame.isKey = true := hs.key ticket (by rw [h]; rfl)
    have hw : w ∈ beforeVideo shows handle config f.path ticket :=
      .inl (Language.mem_iSup.mpr ⟨hkey, (mem_told_with h hfile).mp hw⟩)
    exact told_with rfl hfile (append_letter shows hw (.video ticket))
  | @videoWritten _ ticket f error h hfile _ =>
    have hw := append_reply ((mem_told_with h hfile).mp hw) error
    exact told_with rfl rfl (mem_of_le (beforeVideo_mul_call ticket) hw)
  | @askThumbnail _ ticket f error h hfile _ =>
    have hw := append_reply ((mem_told_with h hfile).mp hw) error
    have hhidden : [Entry.thumbnail s.handle.channelId].filter shows = [] :=
      filter_hidden hshows (by simp [Entry.isAboutFile, Entry.isCall])
    rw [List.filter_append, hhidden, List.append_nil]
    exact told_with rfl rfl (mem_of_le (beforeVideo_mul_call ticket) hw)
  | videoStray h hfile =>
    -- a frame is only written to an open file
    obtain ⟨f, hopen⟩ := hs.exists_file h rfl
    cases hfile.symm.trans hopen
  | @audioWritten _ ticket error h =>
    obtain ⟨f, hfile⟩ := hs.exists_file h rfl
    have hw := append_reply ((mem_told_with h hfile).mp hw) error
    exact told_with rfl hfile (mem_of_le (beforeAudio_mul_call ticket) hw)
  | @finish _ snapshot data next error h =>
    obtain ⟨f, hfile⟩ := hs.exists_file h rfl
    have hw := append_reply ((mem_told_with h hfile).mp hw) error
    have hw : w ++ _ ∈ recorded shows handle config f.path * trailer shows :=
      mem_of_le (mul_le_mul' le_rfl (call_trailer_le snapshot data)) hw
    rw [List.filter_append, ← List.append_assoc]
    exact told_with rfl hfile (append_letter shows hw .deinit)
  | publish h =>
    obtain ⟨f, hfile⟩ := hs.exists_file h rfl
    exact told_with rfl hfile (append_reply ((mem_told_with h hfile).mp hw) _)
  | tellEnd h =>
    -- the file is complete, and what was told is a word again
    obtain ⟨f, hfile⟩ := hs.exists_file h rfl
    have hw := append_end ((mem_told_with h hfile).mp hw) (s.durationMs f)
    rw [hfile]
    exact told_with rfl rfl hw
  | @resume _ next _ h =>
    obtain ⟨f, hfile⟩ := hs.exists_file h rfl
    have hw : w ∈ words shows handle config := (mem_told_with h hfile).mp hw
    rw [List.filter_nil, List.append_nil]
    refine told_without rfl rfl ?_
    cases next <;> exact hw

theorem completes_told (hw : w ∈ s.told shows handle config) :
    ∃ rest, w ++ rest ∈ words shows handle config := by
  unfold told restWords at hw
  cases hfile : s.file with
  | none =>
    cases htask : s.activity.task? with
    | none =>
      rw [hfile, htask] at hw
      exact ⟨[], by rwa [List.append_nil]⟩
    | some task =>
      rw [hfile, htask] at hw
      exact completes_bareTask hw
  | some f =>
    cases htask : s.activity.task? with
    | none =>
      rw [hfile, htask] at hw
      exact completes_recorded (mem_mul_trailer hw)
    | some task =>
      rw [hfile, htask] at hw
      exact completes_task hw

theorem told_run (hshows : ∀ e, shows e = true → e.isAboutFile = true) (ms : List Move) :
    ((Stream.create handle config).run ms).2.filter shows
      ∈ ((Stream.create handle config).run ms).1.told shows handle config := by
  have hfirst : ([] : List Entry).filter shows
      ∈ (Stream.create handle config).told shows handle config := Language.nil_mem_kstar _
  refine (run_induction (P := fun journal s =>
    s.Shaped ∧ (Stream.create handle config).Same s ∧
      journal.filter shows ∈ s.told shows handle config) ?_
    ⟨shaped_create handle config, .refl _, hfirst⟩ ms).2.2
  intro journal s m s' es hmove ⟨hs, hsame, hw⟩
  rw [List.filter_append]
  exact ⟨hmove.shaped hs, hsame.trans hmove.same, hmove.told hs hsame hshows hw⟩

/-! ## The protocol -/

/-- **What a writer is told keeps to the protocol**, whatever happens in between and whichever calls
fail. The calls are a prefix of a word; so are the calls together with the events that files begin
and end. Audio is only handed over if it is configured; at most one file is open at a time; and a
file is open between two wakes exactly when the worker is recording. -/
theorem writer_protocol (handle : StreamHandle) (config : StreamConfig) (ms : List Move) :
    let s := ((Stream.create handle config).run ms).1
    let journal := ((Stream.create handle config).run ms).2
    let begun := journal.countP Entry.isFileBegin
    let ended := journal.countP Entry.isFileEnd
    (∃ rest, journal.filter Entry.isCall ++ rest ∈ words Entry.isCall handle config) ∧
    (∃ rest, journal.filter Entry.isAboutFile ++ rest ∈ words Entry.isAboutFile handle config) ∧
    (∀ ticket, .audio ticket ∈ journal → config.audio.isSome = true) ∧
    (ended ≤ begun ∧ begun ≤ ended + 1) ∧
    (s.activity.task? = none → begun = ended + if s.phase = .recording then 1 else 0) := by
  intro s journal begun ended
  have hs := shaped_create handle config
  have hs' := shaped_run hs ms
  have hword : ∀ shows : Entry → Bool, (∀ e, shows e = true → e.isAboutFile = true) →
      ∃ rest, journal.filter shows ++ rest ∈ words shows handle config := by
    intro shows hshows
    exact completes_told (told_run hshows ms)
  have hbalance : 0 + begun = s.isOpen.toNat + ended := balances_run hs ms
  have hbit := s.isOpen.toNat_le
  refine ⟨hword _ ?_, hword _ fun e he => he, ?_, by omega, fun htask => ?_⟩
  · intro e he
    cases e <;> first | rfl | cases he
  · intro ticket hmem
    -- an audio frame that is handed over was taken out of an audio lane
    have hhanded : ⟨.audio, ticket⟩ ∈ handedItems journal := List.mem_filterMap.mpr ⟨_, hmem, rfl⟩
    have hsub := (Stream.create handle config).handed_sublist ms
    exact audio_of_taken_run hs ms _ (hsub.subset (List.mem_append_left _ hhanded)) rfl
  · have hopen : s.isOpen.toNat = if s.phase = .recording then 1 else 0 :=
      isOpen_toNat_resting hs' htask
    rw [← hopen]
    omega

end Stream

end CameraRecorder

import CameraRecorder.Config.Basic
import Mathlib.Data.List.Nodup
import Mathlib.Tactic.SplitIfs

/-!
# Which settings are usable

Validation makes a series of checks, in a fixed order for each stream and stream by stream, and the
first that fails gives the error (`Check.FirstFailure`). It lets settings pass exactly if they are
usable (`SessionConfig.IsUsable`), and otherwise complains of the first stream that is not, or that
reads the channel of an earlier one (`SessionConfig.FailsWith`).
-/

namespace CameraRecorder

/-! ## Checks -/

/-- A check, and the error that tells of its failure. -/
structure Check (ε : Type) where
  fails : Bool
  error : ε

namespace Check

variable {ε δ : Type} {cs : List (Check ε)} {e : ε}

/-- The check that reports another error. -/
def map (f : ε → δ) (c : Check ε) : Check δ := ⟨c.fails, f c.error⟩

/-- Makes checks until one fails. -/
def run : List (Check ε) → Except ε Unit
  | [] => .ok ()
  | c :: cs => if c.fails then .error c.error else run cs

/-- An error is that of the first check that fails. -/
def FirstFailure (cs : List (Check ε)) (e : ε) : Prop :=
  ∃ passed failed later, cs = passed ++ failed :: later ∧ (∀ c ∈ passed, c.fails = false) ∧
    failed.fails = true ∧ failed.error = e

theorem run_append (cs ds : List (Check ε)) : run (cs ++ ds) = run cs >>= fun _ => run ds := by
  induction cs with
  | nil => rfl
  | cons c cs ih =>
    cases hc : c.fails with
    | true => simp [run, hc, bind, Except.bind]
    | false => simpa [run, hc] using ih

theorem run_map (f : ε → δ) (cs : List (Check ε)) : run (cs.map (map f)) = (run cs).mapError f := by
  induction cs with
  | nil => rfl
  | cons c cs ih => cases hc : c.fails <;> simp [run, map, hc, ih, Except.mapError]

theorem run_eq_ok_iff : run cs = .ok () ↔ ∀ c ∈ cs, c.fails = false := by
  induction cs with
  | nil => simp [run]
  | cons c cs ih => cases hc : c.fails <;> simp [run, hc, ih]

theorem FirstFailure.cons_iff {c : Check ε} :
    FirstFailure (c :: cs) e ↔
      c.fails = true ∧ c.error = e ∨ c.fails = false ∧ FirstFailure cs e := by
  constructor
  · rintro ⟨passed, failed, later, h, hpassed, hfails, herror⟩
    cases passed with
    | nil =>
      obtain ⟨rfl, -⟩ := List.cons.inj h
      exact .inl ⟨hfails, herror⟩
    | cons first passed =>
      obtain ⟨rfl, hrest⟩ := List.cons.inj h
      obtain ⟨hfirst, hpassed⟩ := List.forall_mem_cons.mp hpassed
      exact .inr ⟨hfirst, passed, failed, later, hrest, hpassed, hfails, herror⟩
  · rintro (⟨hfails, herror⟩ | ⟨hpasses, passed, failed, later, rfl, hpassed, hfails, herror⟩)
    · exact ⟨[], c, cs, rfl, List.forall_mem_nil _, hfails, herror⟩
    · exact ⟨c :: passed, failed, later, rfl, List.forall_mem_cons.mpr ⟨hpasses, hpassed⟩, hfails,
        herror⟩

theorem run_eq_error_iff : run cs = .error e ↔ FirstFailure cs e := by
  induction cs with
  | nil =>
    constructor
    · intro h
      cases h
    · rintro ⟨passed, failed, later, h, -⟩
      cases passed <;> cases h
  | cons c cs ih =>
    rw [FirstFailure.cons_iff, ← ih]
    cases hc : c.fails <;> simp [run, hc]

end Check

/-! ## One stream -/

/-- The checks of a video track. -/
def VideoParams.checks (p : VideoParams) : List (Check MediaError) :=
  [⟨p.frameRate = 0, .frameRate⟩, ⟨p.gop = 0, .gop⟩,
    ⟨p.width = 0 ∨ p.height = 0, .dimensions p.width p.height⟩]

/-- The checks of an audio track. -/
def AudioParams.checks (p : AudioParams) : List (Check MediaError) :=
  [⟨p.channels = 0 ∨ 8 < p.channels, .channelCount p.channels⟩, ⟨p.sampleRate = 0, .sampleRate⟩]

theorem VideoParams.validate_eq (p : VideoParams) : p.validate = Check.run p.checks := by
  simp [validate, checks, Check.run]

theorem AudioParams.validate_eq (p : AudioParams) : p.validate = Check.run p.checks := by
  simp only [validate, checks, Check.run, decide_eq_true_eq]
  rfl

theorem AudioParams.checks_pass_iff {p : AudioParams} : (∀ k ∈ p.checks, k.fails = false) ↔
    1 ≤ p.channels ∧ p.channels ≤ 8 ∧ p.sampleRate ≠ 0 := by
  have hone : 1 ≤ p.channels ↔ p.channels ≠ 0 := by
    rw [UInt16.le_iff_toNat_le, ne_eq, ← UInt16.toNat_inj]
    exact Nat.one_le_iff_ne_zero
  simp [checks, hone, UInt16.not_lt, and_assoc]

namespace StreamConfig

/-- The checks of a stream alone. -/
def ownChecks (c : StreamConfig) : List (Check ConfigError) :=
  (c.video.checks ++ c.audio.toList.flatMap AudioParams.checks).map (.map (.media c.name)) ++
    [⟨c.splitDurationSecs = 0, .splitDuration c.name⟩,
      ⟨c.pools.videoCells = 0, .poolSize c.name "video"⟩,
      ⟨c.pools.thumbnailCells = 0, .poolSize c.name "thumbnail"⟩,
      ⟨c.audio.isSome ∧ c.pools.audioCells = 0, .poolSize c.name "audio"⟩]

/-- The checks of a stream after others that read the channels in `used`. -/
def checks (used : List UInt32) (c : StreamConfig) : List (Check ConfigError) :=
  c.ownChecks ++ [⟨c.channelId ∈ used, .duplicateChannel c.channelId⟩]

/-- What makes a stream usable, whatever channels the others read. -/
structure IsUsable (c : StreamConfig) : Prop where
  frameRate : c.video.frameRate ≠ 0
  gop : c.video.gop ≠ 0
  width : c.video.width ≠ 0
  height : c.video.height ≠ 0
  audio : ∀ p ∈ c.audio, 1 ≤ p.channels ∧ p.channels ≤ 8 ∧ p.sampleRate ≠ 0
  splitDuration : c.splitDurationSecs ≠ 0
  videoCells : c.pools.videoCells ≠ 0
  thumbnailCells : c.pools.thumbnailCells ≠ 0
  audioCells : c.audio.isSome → c.pools.audioCells ≠ 0

theorem validate_eq (c : StreamConfig) : c.validate = Check.run c.ownChecks := by
  rw [ownChecks, List.map_append, Check.run_append, Check.run_append, Check.run_map, Check.run_map,
    ← VideoParams.validate_eq]
  unfold validate
  cases c.video.validate with
  | error cause => rfl
  | ok =>
    cases haudio : c.audio with
    | none =>
      simp only [Option.toList_none, List.flatMap_nil, Check.run, decide_eq_true_eq]
      split_ifs <;> rfl
    | some audio =>
      simp only [Option.toList_some, List.flatMap_singleton, ← AudioParams.validate_eq]
      cases audio.validate with
      | error cause => rfl
      | ok =>
        simp only [Check.run, decide_eq_true_eq]
        split_ifs <;> rfl

/-- A stream is usable exactly if it passes its own checks. -/
theorem ownChecks_pass_iff {c : StreamConfig} :
    (∀ k ∈ c.ownChecks, k.fails = false) ↔ c.IsUsable := by
  simp only [ownChecks, List.forall_mem_append, List.forall_mem_map, Check.map,
    List.forall_mem_flatMap, AudioParams.checks_pass_iff, VideoParams.checks, List.forall_mem_cons,
    decide_eq_false_iff_not, not_or, not_and, Option.mem_toList]
  constructor
  · rintro ⟨⟨⟨hrate, hgop, ⟨hwidth, hheight⟩, -⟩, haudio⟩, hsplit, hvideo, hthumbnail, hcells, -⟩
    exact ⟨hrate, hgop, hwidth, hheight, haudio, hsplit, hvideo, hthumbnail, hcells⟩
  · rintro ⟨hrate, hgop, hwidth, hheight, haudio, hsplit, hvideo, hthumbnail, hcells⟩
    exact ⟨⟨⟨hrate, hgop, ⟨hwidth, hheight⟩, List.forall_mem_nil _⟩, haudio⟩, hsplit, hvideo,
      hthumbnail, hcells, List.forall_mem_nil _⟩

theorem validate_eq_ok_iff {c : StreamConfig} : c.validate = .ok () ↔ c.IsUsable := by
  rw [validate_eq, Check.run_eq_ok_iff, ownChecks_pass_iff]

theorem run_checks_eq_ok_iff {used : List UInt32} {c : StreamConfig} :
    Check.run (c.checks used) = .ok () ↔ c.IsUsable ∧ c.channelId ∉ used := by
  rw [Check.run_eq_ok_iff, checks, List.forall_mem_append, ownChecks_pass_iff,
    List.forall_mem_singleton, decide_eq_false_iff_not]

/-- In which order the other channels come does not matter. -/
theorem checks_congr {used used' : List UInt32} (c : StreamConfig)
    (h : c.channelId ∈ used ↔ c.channelId ∈ used') : c.checks used = c.checks used' := by
  simp only [checks, h]

end StreamConfig

/-! ## All streams -/

namespace SessionConfig

variable {used : List UInt32} {streams : List StreamConfig} {e : ConfigError}

/-- The checks of the first stream come before those of the others. -/
theorem validateStreams_cons (used : List UInt32) (stream : StreamConfig)
    (rest : List StreamConfig) :
    validateStreams used (stream :: rest)
      = Check.run (stream.checks used) >>= fun _ =>
          validateStreams (stream.channelId :: used) rest := by
  rw [validateStreams, StreamConfig.checks, Check.run_append, ← StreamConfig.validate_eq]
  cases stream.validate with
  | error cause => rfl
  | ok =>
    simp only [Check.run, decide_eq_true_eq]
    split_ifs <;> rfl

theorem validateStreams_cons_eq_ok_iff {stream : StreamConfig} :
    validateStreams used (stream :: streams) = .ok () ↔
      Check.run (stream.checks used) = .ok () ∧
        validateStreams (stream.channelId :: used) streams = .ok () := by
  rw [validateStreams_cons]
  cases Check.run (stream.checks used) <;> simp [bind, Except.bind]

/-- Streams pass if each is usable and reads a channel of its own. -/
theorem validateStreams_eq_ok_iff :
    validateStreams used streams = .ok () ↔
      (∀ s ∈ streams, s.IsUsable) ∧ (streams.map (·.channelId)).Nodup ∧
        ∀ s ∈ streams, s.channelId ∉ used := by
  induction streams generalizing used with
  | nil => simp [validateStreams]
  | cons stream streams ih =>
    have hfree : (∀ s ∈ streams, s.channelId ∉ stream.channelId :: used) ↔
        stream.channelId ∉ streams.map (·.channelId) ∧ ∀ s ∈ streams, s.channelId ∉ used := by
      simp only [List.mem_cons, not_or, List.mem_map, not_exists, not_and, forall_and]
    rw [validateStreams_cons_eq_ok_iff, StreamConfig.run_checks_eq_ok_iff, ih, hfree,
      List.forall_mem_cons, List.forall_mem_cons, List.map_cons, List.nodup_cons]
    tauto

/-- Otherwise the error is that of the first stream that does not pass its checks. -/
theorem validateStreams_eq_error_iff :
    validateStreams used streams = .error e ↔ ∃ before stream after,
      streams = before ++ stream :: after ∧ validateStreams used before = .ok () ∧
        Check.FirstFailure (stream.checks (before.map (·.channelId) ++ used)) e := by
  induction streams generalizing used with
  | nil =>
    constructor
    · intro h
      cases h
    · rintro ⟨before, stream, after, h, -⟩
      cases before <;> cases h
  | cons first streams ih =>
    have hlater (before : List StreamConfig) (stream : StreamConfig) :
        stream.checks (before.map (·.channelId) ++ first.channelId :: used)
          = stream.checks ((first :: before).map (·.channelId) ++ used) :=
      stream.checks_congr (by simp [or_left_comm])
    constructor
    · rw [validateStreams_cons]
      cases hfirst : Check.run (first.checks used) with
      | error cause =>
        intro h
        cases h
        exact ⟨[], first, streams, rfl, rfl, Check.run_eq_error_iff.mp hfirst⟩
      | ok =>
        intro h
        obtain ⟨before, stream, after, rfl, hbefore, hfails⟩ := ih.mp h
        rw [hlater] at hfails
        exact ⟨first :: before, stream, after, rfl,
          validateStreams_cons_eq_ok_iff.mpr ⟨hfirst, hbefore⟩, hfails⟩
    · rintro ⟨before, stream, after, h, hbefore, hfails⟩
      rw [validateStreams_cons]
      cases before with
      | nil =>
        obtain ⟨rfl, -⟩ := List.cons.inj h
        rw [List.map_nil, List.nil_append] at hfails
        rw [Check.run_eq_error_iff.mpr hfails]
        rfl
      | cons b before =>
        obtain ⟨rfl, rfl⟩ := List.cons.inj h
        obtain ⟨hfirst, hbefore⟩ := validateStreams_cons_eq_ok_iff.mp hbefore
        rw [← hlater] at hfails
        rw [hfirst]
        exact ih.mpr ⟨before, stream, after, rfl, hbefore, hfails⟩

/-! ## Sessions -/

/-- What makes the settings of a session usable. -/
structure IsUsable (c : SessionConfig) : Prop where
  count : 1 ≤ c.streams.length ∧ c.streams.length ≤ 8
  streams : ∀ s ∈ c.streams, s.IsUsable
  channels : (c.streams.map (·.channelId)).Nodup

/-- Why settings are refused: their number of streams, or the first stream that is not usable or
reads the channel of an earlier one. -/
inductive FailsWith (c : SessionConfig) : ConfigError → Prop
  | count (h : ¬ (1 ≤ c.streams.length ∧ c.streams.length ≤ 8)) :
    FailsWith c (.streamCount c.streams.length)
  | stream {before after : List StreamConfig} {stream : StreamConfig} {e : ConfigError}
    (hcount : 1 ≤ c.streams.length ∧ c.streams.length ≤ 8)
    (h : c.streams = before ++ stream :: after) (hbefore : ∀ s ∈ before, s.IsUsable)
    (hchannels : (before.map (·.channelId)).Nodup)
    (hfirst : Check.FirstFailure (stream.checks (before.map (·.channelId))) e) : FailsWith c e

/-- The streams are only looked at if their number is right. -/
theorem validate_eq_ite (c : SessionConfig) : c.validate =
    if 1 ≤ c.streams.length ∧ c.streams.length ≤ 8 then validateStreams [] c.streams
    else .error (.streamCount c.streams.length) := by
  have hcount : (c.streams.isEmpty ∨ maxStreams < c.streams.length) ↔
      ¬ (1 ≤ c.streams.length ∧ c.streams.length ≤ 8) := by
    rw [List.isEmpty_iff, ← List.length_eq_zero_iff, maxStreams]
    omega
  by_cases h : 1 ≤ c.streams.length ∧ c.streams.length ≤ 8
  · rw [validate, if_pos h, if_neg fun hno => hcount.mp hno h]
  · rw [validate, if_neg h, if_pos (hcount.mpr h)]

theorem validate_eq_ok_iff {c : SessionConfig} : c.validate = .ok () ↔ c.IsUsable := by
  rw [validate_eq_ite]
  split_ifs with hcount
  · rw [validateStreams_eq_ok_iff]
    exact ⟨fun ⟨hstreams, hchannels, _⟩ => ⟨hcount, hstreams, hchannels⟩,
      fun h => ⟨h.streams, h.channels, fun _ _ => List.not_mem_nil⟩⟩
  · constructor
    · intro h
      cases h
    · intro h
      exact absurd h.count hcount

theorem validate_eq_error_iff {c : SessionConfig} : c.validate = .error e ↔ c.FailsWith e := by
  rw [validate_eq_ite]
  split_ifs with hcount
  · rw [validateStreams_eq_error_iff]
    constructor
    · rintro ⟨before, stream, after, h, hbefore, hfirst⟩
      obtain ⟨husable, hchannels, -⟩ := validateStreams_eq_ok_iff.mp hbefore
      rw [List.append_nil] at hfirst
      exact .stream hcount h husable hchannels hfirst
    · intro h
      cases h with
      | count hno => exact absurd hcount hno
      | @stream before after stream _ _ h hbefore hchannels hfirst =>
        refine ⟨before, stream, after, h, ?_, by rwa [List.append_nil]⟩
        exact validateStreams_eq_ok_iff.mpr ⟨hbefore, hchannels, fun _ _ => List.not_mem_nil⟩
  · constructor
    · intro h
      cases h
      exact .count hcount
    · intro h
      cases h with
      | count => rfl
      | stream hyes => exact absurd hyes hcount

end SessionConfig

end CameraRecorder

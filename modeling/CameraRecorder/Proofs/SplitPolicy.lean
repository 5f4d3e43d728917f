import CameraRecorder.Proofs.Config.Validation
import CameraRecorder.SplitPolicy
import Mathlib.Tactic.Ring

/-!
# Where files end, and when their snapshots are due

The distances of a stream's policy as plain integers: a key frame ends a file exactly if it comes at
least so far behind the first frame, whatever the timestamps are. A file ends one frame before its
duration is over, if there is a key frame then; a snapshot that is due when the duration is over is
not asked for in such a file (`SplitPolicy.requestAt_le_iff`).
-/

namespace CameraRecorder

/-- Usable settings have a frame rate, a distance between key frames and a file duration. -/
theorem StreamConfig.pos_of_validate {c : StreamConfig} (h : c.validate = .ok ()) :
    0 < c.video.frameRate.toNat ∧ 0 < c.video.gop.toNat ∧ 0 < c.splitDurationSecs.toNat := by
  have hpos {n : UInt32} (hn : n ≠ 0) : 0 < n.toNat :=
    Nat.pos_of_ne_zero fun h0 => hn (UInt32.toNat_inj.mp h0)
  have husable := validate_eq_ok_iff.mp h
  exact ⟨hpos husable.frameRate, hpos husable.gop, hpos husable.splitDuration⟩

namespace SplitPolicy

/-- Files of a stream with a frame rate are as long as its settings say, less the length of a frame
in whole microseconds. -/
theorem splitAfterUs_create (durationSecs : UInt32) {video : VideoParams}
    (hrate : 0 < video.frameRate.toNat) :
    (create durationSecs video).splitAfterUs
      = durationSecs.toNat * 1000000 - (1000000 / video.frameRate.toNat : Nat) := by
  show _ - ((1000000 / max video.frameRate.toNat 1 : Nat) : Int) = _
  rw [Nat.max_eq_left hrate]
  rfl

/-- Whether a split is due does not depend on where distances saturate. -/
theorem splitDue_since_iff (durationSecs : UInt32) (video : VideoParams) (now start : Timestamp) :
    (create durationSecs video).splitDue (now.since start) = true ↔
      (create durationSecs video).splitAfterUs ≤ now.toInt - start.toInt := by
  have hduration := durationSecs.toNat_lt
  have hinterval : video.frameIntervalUs ≤ microsPerSecond := Nat.div_le_self ..
  have hbound : (create durationSecs video).splitAfterUs
      = durationSecs.toNat * microsPerSecond - video.frameIntervalUs := rfl
  rw [splitDue, decide_eq_true_iff]
  refine Timestamp.le_since_iff ?_ ?_
  · rw [hbound, Int64.toInt_minValue]
    unfold microsPerSecond at *
    omega
  · rw [hbound, Int64.toInt_maxValue]
    unfold microsPerSecond at *
    omega

/-! ## Files at their own rate -/

/-- How many frames a file holds when its snapshot is asked for. -/
def requestAt (p : SplitPolicy) : Nat := max 1 p.thumbnailAtFrame

/-- Frames that fill a duration, less the length of one frame, are as many as the duration has, or
one less; and one less only if the length of a frame is a whole number of microseconds. -/
theorem le_succ_of_far {d f n : Nat} (hd : 0 < d) (hf : 0 < f) (hfast : f ≤ 1000000)
    (hfar : d * 1000000 ≤ (n + 1) * (1000000 / f)) :
    d * f ≤ n + 1 ∧ (d * f = n + 1 → f ∣ 1000000) := by
  have hinterval : 0 < 1000000 / f := Nat.div_pos hfast hf
  have hwhole : 1000000 / f * f ≤ 1000000 := Nat.div_mul_le_self ..
  have hframes : d * f * (1000000 / f) = d * (1000000 / f * f) := by ring
  have hle : d * f * (1000000 / f) ≤ (n + 1) * (1000000 / f) :=
    calc d * f * (1000000 / f) = d * (1000000 / f * f) := hframes
      _ ≤ d * 1000000 := Nat.mul_le_mul_left d hwhole
      _ ≤ (n + 1) * (1000000 / f) := hfar
  refine ⟨Nat.le_of_mul_le_mul_right hle hinterval, fun heq => ?_⟩
  rw [← heq, hframes] at hfar
  have hfull := Nat.le_of_mul_le_mul_left hfar hd
  exact ⟨1000000 / f, by rw [Nat.mul_comm]; omega⟩

/-- A whole number of frames is far enough for a split if, with one frame more, they fill the
duration. -/
theorem splitAfterUs_le_iff (durationSecs : UInt32) {video : VideoParams}
    (hrate : 0 < video.frameRate.toNat) (n : Nat) :
    (create durationSecs video).splitAfterUs ≤ n * (video.frameIntervalUs : Int) ↔
      durationSecs.toNat * 1000000 ≤ (n + 1) * (1000000 / video.frameRate.toNat) := by
  have hinterval : video.frameIntervalUs = 1000000 / video.frameRate.toNat := by
    rw [VideoParams.frameIntervalUs, VideoParams.divisorRate, Nat.max_eq_left hrate]
    rfl
  rw [splitAfterUs_create durationSecs hrate, hinterval]
  generalize 1000000 / video.frameRate.toNat = interval
  rw [Nat.succ_mul, sub_le_iff_le_add]
  exact_mod_cast Iff.rfl

/-- The snapshot is due after all frames of the duration, or of as many seconds less as there are
whole ones between key frames. -/
theorem requestAt_create (durationSecs : UInt32) {video : VideoParams}
    (hrate : 0 < video.frameRate.toNat) :
    (create durationSecs video).requestAt = max 1
      ((durationSecs.toNat - video.gop.toNat / video.frameRate.toNat)
        * video.frameRate.toNat) := by
  rw [requestAt, create, VideoParams.divisorRate, Nat.max_eq_left hrate]

/-- **When a file at its own rate gets its request.** The frames come at the rate of the track, with
a key frame every `gop` frames, and the file ends with the first one that is far enough. Then its
snapshot is asked for unless there is less than a second between key frames, the length of a frame
is a whole number of microseconds, and a key frame comes one frame before the duration is over. -/
theorem requestAt_le_iff {durationSecs : UInt32} {video : VideoParams} {frames : Nat}
    (hduration : 0 < durationSecs.toNat) (hrate : 0 < video.frameRate.toNat)
    (hfast : video.frameRate.toNat ≤ 1000000) (hpos : 0 < frames)
    (hkey : video.gop.toNat ∣ frames)
    (hfar : (create durationSecs video).splitAfterUs ≤ frames * (video.frameIntervalUs : Int))
    (hfirst : ∀ k, 0 < k → k < frames → video.gop.toNat ∣ k →
      ¬ (create durationSecs video).splitAfterUs ≤ k * (video.frameIntervalUs : Int)) :
    (create durationSecs video).requestAt ≤ frames ↔
      ¬ (video.gop.toNat < video.frameRate.toNat ∧ video.frameRate.toNat ∣ 1000000 ∧
        video.gop.toNat ∣ durationSecs.toNat * video.frameRate.toNat - 1) := by
  simp only [splitAfterUs_le_iff durationSecs hrate] at hfar hfirst
  rw [requestAt_create durationSecs hrate]
  generalize durationSecs.toNat = d at *
  generalize video.frameRate.toNat = f at *
  generalize video.gop.toNat = gop at *
  obtain ⟨hframes, hwhole⟩ := le_succ_of_far hduration hrate hfast hfar
  by_cases hlead : f ≤ gop
  · -- the request comes at least a second before the duration is over
    have hone : 1 ≤ gop / f := (Nat.one_le_div_iff hrate).mpr hlead
    have hearly : (d - gop / f) * f ≤ (d - 1) * f := Nat.mul_le_mul_right f (by omega)
    have hsecond : (d - 1) * f + f = d * f := by
      rw [← Nat.succ_mul, Nat.succ_eq_add_one, Nat.sub_add_cancel hduration]
    refine iff_of_true (by omega) ?_
    rintro ⟨hshort, -⟩
    omega
  · rw [Nat.div_eq_of_lt (not_le.mp hlead), Nat.sub_zero]
    have hsecond : f ≤ d * f := Nat.le_mul_of_pos_left f hduration
    constructor
    · rintro hle ⟨hshort, hdvd, hlast⟩
      -- the key frame one frame before the end would have ended the file
      have hgop : 0 < gop := Nat.pos_of_dvd_of_pos hkey hpos
      refine hfirst (d * f - 1) (by omega) (by omega) hlast ?_
      rw [Nat.sub_add_cancel (by omega), Nat.mul_assoc, Nat.mul_div_cancel' hdvd]
    · intro hno
      by_contra hlate
      have hlast : d * f = frames + 1 := by omega
      refine hno ⟨not_le.mp hlead, hwhole hlast, ?_⟩
      rwa [hlast, Nat.add_sub_cancel]

/-! ## Durations -/

/-- The duration of a finished file in whole milliseconds, over unbounded integers: how far the last
frame is behind the first, as far as 64 bits go, or the nominal length of the frames if that is less
than a millisecond. -/
def exactDurationMs (video : VideoParams) (first last : Int) (frames : Nat) : Nat :=
  if 1000 ≤ last - first then (min (last - first) Int64.maxValue.toInt / 1000).toNat
  else frames * (1000 / max video.frameRate.toNat 1)

/-- The reported duration is exact, whatever the timestamps are. -/
theorem fileDurationMs_create (durationSecs : UInt32) (video : VideoParams)
    (first last : Timestamp) (frames : Nat) :
    (create durationSecs video).fileDurationMs first last frames
      = exactDurationMs video first.toInt last.toInt frames := by
  have hmin : Int64.minValue.toInt = -9223372036854775808 := rfl
  have hmax : Int64.maxValue.toInt = 9223372036854775807 := rfl
  unfold fileDurationMs exactDurationMs
  by_cases hlong : 1000 ≤ last.toInt - first.toInt
  · have hsince : last.since first = min (last.toInt - first.toInt) Int64.maxValue.toInt := by
      unfold Timestamp.since
      omega
    have hdiv : (last.since first).tdiv 1000 = last.since first / 1000 :=
      Int.tdiv_eq_ediv_of_nonneg (by omega)
    simp only [hdiv, if_pos hlong]
    rw [if_pos (by omega), hsince]
  · have hshort : last.since first < 1000 := by
      unfold Timestamp.since
      omega
    -- the quotient is truncated towards zero, so it is not positive on either side of it
    have hdiv : (last.since first).tdiv 1000 ≤ 0 := by
      by_cases hneg : 0 ≤ last.since first
      · rw [Int.tdiv_eq_ediv_of_nonneg hneg]
        omega
      · have hflip := Int.tdiv_nonneg (a := -last.since first) (b := 1000) (by omega) (by omega)
        rw [Int.neg_tdiv] at hflip
        omega
    simp only [if_neg hlong]
    rw [if_neg (by omega)]
    rfl

end SplitPolicy

end CameraRecorder

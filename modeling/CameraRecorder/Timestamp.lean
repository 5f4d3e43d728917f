/-!
# Presentation timestamps

Timestamps count microseconds in 64 bits with a sign. Distances between them saturate, so they
never wrap around.
-/

namespace CameraRecorder

/-- Presentation timestamp in microseconds. -/
abbrev Timestamp := Int64

/-- Microseconds in a second. -/
def microsPerSecond : Nat := 1000000

/-- The distance from `start` to `now`, cut to the range of a 64-bit number. -/
def Timestamp.since (now start : Timestamp) : Int :=
  max Int64.minValue.toInt (min Int64.maxValue.toInt (now.toInt - start.toInt))

/-- Saturation never changes how a distance compares with a bound inside the 64-bit range. -/
theorem Timestamp.le_since_iff {now start : Timestamp} {bound : Int}
    (lo : Int64.minValue.toInt < bound) (hi : bound ≤ Int64.maxValue.toInt) :
    bound ≤ now.since start ↔ bound ≤ now.toInt - start.toInt := by
  unfold Timestamp.since
  omega

end CameraRecorder

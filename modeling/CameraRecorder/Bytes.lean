/-!
# Byte strings

Recorded media, file contents and file names are all strings of bytes. Numbers inside them are
written with the most significant byte first.
-/

namespace CameraRecorder

/-- A string of bytes. -/
abbrev Bytes := List UInt8

/-- The last `width` base-256 digits of `n`, most significant first. -/
def bigEndian : Nat → Nat → Bytes
  | 0, _ => []
  | width + 1, n => bigEndian width (n / 256) ++ [UInt8.ofNat n]

/-- The number whose base-256 digits are `bytes`, most significant first. -/
def ofBigEndian (bytes : Bytes) : Nat :=
  bytes.foldl (fun n b => n * 256 + b.toNat) 0

@[simp] theorem length_bigEndian (width n : Nat) : (bigEndian width n).length = width := by
  induction width generalizing n with
  | zero => rfl
  | succ width ih => simp [bigEndian, ih]

theorem ofBigEndian_append_singleton (bytes : Bytes) (b : UInt8) :
    ofBigEndian (bytes ++ [b]) = ofBigEndian bytes * 256 + b.toNat := by
  simp [ofBigEndian]

/-- Reading what was written gives the number back, cut to the width. -/
theorem ofBigEndian_bigEndian (width n : Nat) :
    ofBigEndian (bigEndian width n) = n % Nat.pow 256 width := by
  induction width generalizing n with
  | zero => exact (Nat.mod_one n).symm
  | succ width ih =>
    have hb : (UInt8.ofNat n).toNat = n % 256 := by simp
    show _ = n % (Nat.pow 256 width * 256)
    rw [bigEndian, ofBigEndian_append_singleton, ih, hb, Nat.mul_comm (Nat.pow 256 width),
      Nat.mod_mul]
    omega

/-- The bytes that encode a text. -/
def Bytes.ofString (s : String) : Bytes := s.toUTF8.toList

/-- The text that the bytes encode, if they encode one. -/
def Bytes.toString? (bytes : Bytes) : Option String := String.fromUTF8? bytes.toByteArray

theorem toList_loop_eq (bytes : ByteArray) (i : Nat) (front : Bytes) :
    ByteArray.toList.loop bytes i front = front.reverse ++ bytes.data.toList.drop i := by
  fun_induction ByteArray.toList.loop bytes i front with
  | case1 i front h ih =>
    have hi : i < bytes.data.toList.length := by simpa using h
    have hget : bytes.get! i = bytes.data.toList[i] := by simp [ByteArray.get!, h]
    rw [ih, List.drop_eq_getElem_cons hi, hget]
    simp
  | case2 i front h =>
    have hi : bytes.data.toList.length ≤ i := by simpa using h
    simp [List.drop_eq_nil_of_le hi]

theorem Bytes.ofString_eq_toList (s : String) : ofString s = s.toByteArray.data.toList := by
  rw [ofString, ByteArray.toList, toList_loop_eq]
  rfl

/-- A text is encoded one character after the other. -/
theorem Bytes.ofString_eq (s : String) : ofString s = s.toList.flatMap String.utf8EncodeChar := by
  have h : (String.ofList s.toList).toByteArray = s.toList.utf8Encode := String.toByteArray_ofList
  rw [String.ofList_toList] at h
  rw [ofString_eq_toList, h, List.utf8Encode, List.data_toByteArray]

theorem Bytes.ofString_append (s t : String) : ofString (s ++ t) = ofString s ++ ofString t := by
  simp [ofString_eq]

/-- Different texts have different bytes. -/
theorem Bytes.ofString_inj {s t : String} : ofString s = ofString t ↔ s = t := by
  refine ⟨fun h => ?_, congrArg ofString⟩
  rw [ofString_eq_toList, ofString_eq_toList] at h
  rw [← String.toByteArray_inj]
  exact ByteArray.ext (Array.toList_inj.mp h)

/-- An encoded text is decoded again. -/
theorem Bytes.toString?_ofString (s : String) : toString? (ofString s) = some s := by
  have h : (ofString s).toByteArray = s.toByteArray := by
    rw [ofString_eq_toList]
    exact ByteArray.ext (by rw [List.data_toByteArray])
  rw [toString?, h, String.fromUTF8?, dif_pos s.isValidUTF8]
  rfl

end CameraRecorder

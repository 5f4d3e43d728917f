import CameraRecorder.ThumbnailBox
import Mathlib.Data.List.Induction

/-!
# What is written is what is read

A box is read from some bytes exactly if they begin with that box as it is written
(`decode_eq_ok_iff`): nothing is lost between writing and reading, whatever follows the box, and no
other bytes pass for it. A box of which the end is missing is told to be truncated. Reading looks at
no byte that is not there (`decodeChecked`).
-/

namespace CameraRecorder

/-! ## Numbers in bytes -/

theorem ofBigEndian_lt (bytes : Bytes) : ofBigEndian bytes < Nat.pow 256 bytes.length := by
  induction bytes using List.reverseRecOn with
  | nil => decide
  | append_singleton bytes b ih =>
    have hb : b.toNat < 256 := b.toNat_lt
    rw [ofBigEndian_append_singleton, List.length_append]
    show _ < Nat.pow 256 bytes.length * 256
    omega

/-- Writing what was read gives the bytes back. -/
theorem bigEndian_ofBigEndian (bytes : Bytes) :
    bigEndian bytes.length (ofBigEndian bytes) = bytes := by
  induction bytes using List.reverseRecOn with
  | nil => rfl
  | append_singleton bytes b ih =>
    have hb : b.toNat < 256 := b.toNat_lt
    have hrest : (ofBigEndian bytes * 256 + b.toNat) / 256 = ofBigEndian bytes := by omega
    have hlast : UInt8.ofNat (ofBigEndian bytes * 256 + b.toNat) = b := by
      apply UInt8.toNat_inj.mp
      simp only [UInt8.toNat_ofNat']
      omega
    rw [ofBigEndian_append_singleton, List.length_append, List.length_singleton, bigEndian, hrest,
      ih, hlast]

namespace ThumbnailBox

variable {b : ThumbnailBox} {bytes e rest : Bytes}

/-! ## The head of a box -/

/-- Everything before the payload. -/
def head (b : ThumbnailBox) : Bytes :=
  bigEndian 4 b.encodedLength ++ tag ++ [b.params.kind.code] ++
    bigEndian 4 b.params.width.toNat ++ bigEndian 4 b.params.height.toNat ++
    bigEndian 4 b.params.virtualWidth.toNat ++ bigEndian 4 b.params.virtualHeight.toNat

@[simp] theorem length_head (b : ThumbnailBox) : b.head.length = headLength := by
  simp [head, tag, headLength]

theorem encode_eq_ok_iff :
    b.encode = .ok e ↔ b.encodedLength < UInt32.size ∧ e = b.head ++ b.payload := by
  unfold encode
  by_cases hsize : b.encodedLength < UInt32.size
  · simp [hsize, head, eq_comm]
  · simp [hsize]

theorem encode_eq_error (hsize : ¬ b.encodedLength < UInt32.size) :
    b.encode = .error (.tooLarge b.payload.length) := by
  simp [encode, hsize]

/-! ## Words -/

theorem wordAt_lt (bytes : Bytes) (offset : Nat) : wordAt bytes offset < UInt32.size := by
  have hlt := ofBigEndian_lt ((bytes.drop offset).take 4)
  have hlength : ((bytes.drop offset).take 4).length ≤ 4 := List.length_take_le ..
  have hpow : Nat.pow 256 ((bytes.drop offset).take 4).length ≤ Nat.pow 256 4 :=
    Nat.pow_le_pow_right (by decide) hlength
  exact Nat.lt_of_lt_of_le hlt hpow

@[simp] theorem toNat_wordAt (bytes : Bytes) (offset : Nat) :
    (UInt32.ofNat (wordAt bytes offset)).toNat = wordAt bytes offset :=
  UInt32.toNat_ofNat_of_lt' (wordAt_lt bytes offset)

/-- A word is read where it was written. -/
theorem wordAt_eq {n offset : Nat} (before rest : Bytes)
    (hbytes : bytes = before ++ (bigEndian 4 n ++ rest)) (hoffset : before.length = offset)
    (hn : n < UInt32.size) : wordAt bytes offset = n := by
  have htake : (bigEndian 4 n ++ rest).take 4 = bigEndian 4 n := by simp
  rw [wordAt, hbytes, ← hoffset, List.drop_left, htake, ofBigEndian_bigEndian]
  exact Nat.mod_eq_of_lt hn

/-- Four bytes are the word that they make. -/
theorem bigEndian_wordAt {offset : Nat} (h : offset + 4 ≤ bytes.length) :
    bigEndian 4 (wordAt bytes offset) = (bytes.drop offset).take 4 := by
  have hlength : ((bytes.drop offset).take 4).length = 4 := by
    simp only [List.length_take, List.length_drop]
    omega
  have hback := bigEndian_ofBigEndian ((bytes.drop offset).take 4)
  rwa [hlength] at hback

theorem wordAt_take {offset k : Nat} (h : offset + 4 ≤ k) :
    wordAt (bytes.take k) offset = wordAt bytes offset := by
  rw [wordAt, wordAt, List.drop_take, List.take_take, Nat.min_eq_left (by omega)]

/-! ## Reading a box -/

/-- **When a box is read**, and what it is then. -/
theorem decode_eq_ok : decode bytes = .ok b ↔
    headLength ≤ bytes.length ∧ (bytes.drop 4).take 3 = tag ∧ headLength ≤ wordAt bytes 0 ∧
      wordAt bytes 0 ≤ bytes.length ∧ bytes.getD 7 0 = b.params.kind.code ∧
      geometryOf b.params.kind bytes = b.params ∧
      (bytes.take (wordAt bytes 0)).drop headLength = b.payload := by
  obtain ⟨params, payload⟩ := b
  unfold decode decodeAmong
  dsimp only
  constructor
  · intro h
    split at h
    · cases h
    · rename_i hlength
      split at h
      · cases h
      · rename_i htag
        split at h
        · cases h
        · rename_i hhead
          split at h
          · cases h
          · rename_i hfits
            split at h
            · cases h
            · rename_i kind hkind
              cases h
              exact ⟨Nat.not_lt.mp hlength, not_not.mp htag, Nat.not_lt.mp hhead,
                Nat.not_lt.mp hfits, ThumbnailKind.ofCode?_eq_some_iff.mp hkind, rfl, rfl⟩
  · rintro ⟨hlength, htag, hhead, hfits, hcode, hgeometry, hpayload⟩
    rw [if_neg (Nat.not_lt.mpr hlength), if_neg (not_not.mpr htag), if_neg (Nat.not_lt.mpr hhead),
      if_neg (Nat.not_lt.mpr hfits), ThumbnailKind.ofCode?_eq_some_iff.mpr hcode]
    simp only [hgeometry, hpayload]

/-! ## Reading what was written -/

theorem wordAt_head (b : ThumbnailBox) (rest : Bytes) (hsize : b.encodedLength < UInt32.size) :
    wordAt (b.head ++ rest) 0 = b.encodedLength :=
  wordAt_eq [] _ (by simp [head]; rfl) rfl hsize

theorem tag_head (b : ThumbnailBox) (rest : Bytes) :
    ((b.head ++ rest).drop 4).take 3 = tag := by
  simp [head, tag]

theorem code_head (b : ThumbnailBox) (rest : Bytes) :
    (b.head ++ rest).getD 7 0 = b.params.kind.code := by
  simp [head, tag, List.getElem?_append]

/-- The geometry is read from where it was written. -/
theorem geometryOf_head (b : ThumbnailBox) (rest : Bytes) :
    geometryOf b.params.kind (b.head ++ rest) = b.params := by
  let front := bigEndian 4 b.encodedLength ++ tag ++ [b.params.kind.code]
  let width := bigEndian 4 b.params.width.toNat
  let height := bigEndian 4 b.params.height.toNat
  let virtualWidth := bigEndian 4 b.params.virtualWidth.toNat
  have hfront : front.length = 8 := by simp [front, tag]
  have hwidth : wordAt (b.head ++ rest) 8 = b.params.width.toNat :=
    wordAt_eq front _ (by simp [head, front]; rfl) hfront b.params.width.toNat_lt
  have hheight : wordAt (b.head ++ rest) 12 = b.params.height.toNat :=
    wordAt_eq (front ++ width) _ (by simp [head, front, width]; rfl) (by simp [hfront, width])
      b.params.height.toNat_lt
  have hvirtualWidth : wordAt (b.head ++ rest) 16 = b.params.virtualWidth.toNat :=
    wordAt_eq (front ++ width ++ height) _ (by simp [head, front, width, height]; rfl)
      (by simp [hfront, width, height]) b.params.virtualWidth.toNat_lt
  have hvirtualHeight : wordAt (b.head ++ rest) 20 = b.params.virtualHeight.toNat :=
    wordAt_eq (front ++ width ++ height ++ virtualWidth) rest
      (by simp [head, front, width, height, virtualWidth])
      (by simp [hfront, width, height, virtualWidth]) b.params.virtualHeight.toNat_lt
  simp [geometryOf, hwidth, hheight, hvirtualWidth, hvirtualHeight]

/-- A box is read from what was written for it, whatever follows. -/
theorem decode_append (h : b.encode = .ok e) (rest : Bytes) : decode (e ++ rest) = .ok b := by
  obtain ⟨hsize, rfl⟩ := encode_eq_ok_iff.mp h
  rw [List.append_assoc, decode_eq_ok, wordAt_head b _ hsize, tag_head, code_head, geometryOf_head]
  have hpayload : ((b.head ++ (b.payload ++ rest)).take b.encodedLength).drop headLength
      = b.payload := by
    have hwhole : b.encodedLength = (b.head ++ b.payload).length := by simp [encodedLength]
    rw [← List.append_assoc, hwhole, List.take_left, ← length_head b, List.drop_left]
  refine ⟨?_, rfl, ?_, ?_, rfl, rfl, hpayload⟩
  · simp
  · simp [encodedLength]
  · simp [encodedLength]

/-! ## Writing what was read -/

/-- The bytes before the payload, field by field. -/
theorem take_headLength (bytes : Bytes) :
    bytes.take headLength = bytes.take 4 ++ (bytes.drop 4).take 3 ++ (bytes.drop 7).take 1 ++
      (bytes.drop 8).take 4 ++ (bytes.drop 12).take 4 ++ (bytes.drop 16).take 4 ++
      (bytes.drop 20).take 4 := by
  rw [show headLength = 4 + 3 + 1 + 4 + 4 + 4 + 4 from rfl]
  simp only [List.take_add, List.append_assoc]

/-- A box that is read has the head that the bytes begin with. -/
theorem head_of_decode (h : decode bytes = .ok b) :
    b.encodedLength = wordAt bytes 0 ∧ b.head = bytes.take headLength := by
  obtain ⟨hlength, htag, hhead, hfits, hcode, hgeometry, hpayload⟩ := decode_eq_ok.mp h
  have hlong : 24 ≤ bytes.length := hlength
  have hsize : b.encodedLength = wordAt bytes 0 := by
    rw [encodedLength, ← hpayload]
    simp only [List.length_drop, List.length_take]
    omega
  have hkind : (bytes.drop 7).take 1 = [b.params.kind.code] := by
    have hseven : 7 < bytes.length := by omega
    have hbyte : bytes.getD 7 0 = bytes[7] := by
      simp [List.getElem?_eq_getElem hseven]
    rw [← hcode, hbyte, List.drop_eq_getElem_cons hseven]
    rfl
  have hwidth : b.params.width.toNat = wordAt bytes 8 := by
    rw [← hgeometry]
    exact toNat_wordAt bytes 8
  have hheight : b.params.height.toNat = wordAt bytes 12 := by
    rw [← hgeometry]
    exact toNat_wordAt bytes 12
  have hvirtualWidth : b.params.virtualWidth.toNat = wordAt bytes 16 := by
    rw [← hgeometry]
    exact toNat_wordAt bytes 16
  have hvirtualHeight : b.params.virtualHeight.toNat = wordAt bytes 20 := by
    rw [← hgeometry]
    exact toNat_wordAt bytes 20
  refine ⟨hsize, ?_⟩
  rw [take_headLength, htag, hkind, head, hsize, hwidth, hheight, hvirtualWidth, hvirtualHeight,
    bigEndian_wordAt (by omega), bigEndian_wordAt (by omega), bigEndian_wordAt (by omega),
    bigEndian_wordAt (by omega), bigEndian_wordAt (by omega), List.drop_zero]

/-- Bytes from which a box is read begin with what is written for it. -/
theorem encode_of_decode (h : decode bytes = .ok b) :
    b.encode = .ok (bytes.take b.encodedLength) := by
  obtain ⟨hsize, hhead⟩ := head_of_decode h
  obtain ⟨-, -, hlong, -, -, -, hpayload⟩ := decode_eq_ok.mp h
  apply encode_eq_ok_iff.mpr
  constructor
  · rw [hsize]
    exact wordAt_lt bytes 0
  · have hfront : bytes.take headLength = (bytes.take (wordAt bytes 0)).take headLength := by
      rw [List.take_take, Nat.min_eq_left hlong]
    rw [hhead, hsize, ← hpayload, hfront, List.take_append_drop]

/-- **A box is read exactly from bytes that begin with it**, as it is written. -/
theorem decode_eq_ok_iff :
    decode bytes = .ok b ↔ ∃ e rest, b.encode = .ok e ∧ bytes = e ++ rest := by
  constructor
  · intro h
    exact ⟨_, bytes.drop b.encodedLength, encode_of_decode h, (List.take_append_drop ..).symm⟩
  · rintro ⟨e, rest, he, rfl⟩
    exact decode_append he rest

/-! ## Boxes of which the end is missing -/

theorem length_of_encode (h : b.encode = .ok e) : e.length = b.encodedLength := by
  obtain ⟨-, rfl⟩ := encode_eq_ok_iff.mp h
  simp [encodedLength]

/-- The head is missing in part. -/
theorem decode_short (h : bytes.length < headLength) :
    decode bytes = .error (.truncated headLength bytes.length) := by
  unfold decode decodeAmong
  rw [if_pos h]

/-- The head is there, and some of the payload is missing. -/
theorem decode_cut (hlength : headLength ≤ bytes.length) (htag : (bytes.drop 4).take 3 = tag)
    (hcut : bytes.length < wordAt bytes 0) :
    decode bytes = .error (.truncated (wordAt bytes 0) bytes.length) := by
  unfold decode decodeAmong
  rw [if_neg (Nat.not_lt.mpr hlength), if_neg (not_not.mpr htag), if_neg (by omega), if_pos hcut]

/-- A box of which the end is missing is told to be truncated, with the length that it lacks. -/
theorem decode_take (h : b.encode = .ok e) {k : Nat} (hk : k < e.length) :
    decode (e.take k)
      = .error (.truncated (if k < headLength then headLength else e.length) k) := by
  have hlength : (e.take k).length = k := by simp [Nat.le_of_lt hk]
  by_cases hhead : k < headLength
  · rw [decode_short (by rw [hlength]; exact hhead), if_pos hhead, hlength]
  · have hlong : 24 ≤ k := Nat.not_lt.mp hhead
    obtain ⟨hsize, rfl⟩ := encode_eq_ok_iff.mp h
    have hword : wordAt ((b.head ++ b.payload).take k) 0 = (b.head ++ b.payload).length := by
      rw [wordAt_take (by omega), wordAt_head b _ hsize, length_of_encode h]
    have htag : (((b.head ++ b.payload).take k).drop 4).take 3 = tag := by
      rw [List.drop_take, List.take_take, Nat.min_eq_left (by omega), tag_head]
    have hcut := decode_cut (by rw [hlength]; exact hlong) htag (by rw [hword, hlength]; exact hk)
    rw [hcut, if_neg hhead, hword, hlength]

/-! ## No byte that is not there -/

/-- The bytes from one offset up to another, if they are all there. -/
def slice? (bytes : Bytes) (start stop : Nat) : Option Bytes :=
  if start ≤ stop ∧ stop ≤ bytes.length then some ((bytes.take stop).drop start) else none

/-- The number written in the four bytes at an offset, if they are all there. -/
def word? (bytes : Bytes) (offset : Nat) : Option Nat :=
  (slice? bytes offset (offset + 4)).map ofBigEndian

/-- Reads a box as `decode` does, but looks at every byte with care: there is no answer if it is
not there. -/
def decodeChecked (bytes : Bytes) : Option (Except BoxError ThumbnailBox) := do
  if bytes.length < headLength then
    return .error (.truncated headLength bytes.length)
  if (← slice? bytes 4 7) ≠ tag then
    return .error .badTag
  let size ← word? bytes 0
  if size < headLength then
    return .error .badTag
  if bytes.length < size then
    return .error (.truncated size bytes.length)
  let kindCode ← bytes[7]?
  match ThumbnailKind.ofCode? kindCode with
  | none => return .error (.unknownType kindCode)
  | some kind =>
    return .ok {
      params := {
        kind
        width := .ofNat (← word? bytes 8)
        height := .ofNat (← word? bytes 12)
        virtualWidth := .ofNat (← word? bytes 16)
        virtualHeight := .ofNat (← word? bytes 20) }
      payload := ← slice? bytes headLength size }

theorem slice?_eq_some {start stop : Nat} (hstart : start ≤ stop) (hstop : stop ≤ bytes.length) :
    slice? bytes start stop = some ((bytes.take stop).drop start) :=
  if_pos ⟨hstart, hstop⟩

theorem word?_eq_some {offset : Nat} (h : offset + 4 ≤ bytes.length) :
    word? bytes offset = some (wordAt bytes offset) := by
  have hslice := slice?_eq_some (Nat.le_add_right offset 4) h
  rw [word?, hslice, Option.map_some, wordAt, List.drop_take, Nat.add_sub_cancel_left]

/-- Reading looks at no byte that is not there. -/
theorem decodeChecked_eq (bytes : Bytes) : decodeChecked bytes = some (decode bytes) := by
  unfold decodeChecked decode decodeAmong
  by_cases hlength : bytes.length < headLength
  · simp [hlength]
  · have hlong : 24 ≤ bytes.length := Nat.not_lt.mp hlength
    have hword {offset : Nat} (h : offset ≤ 20) : word? bytes offset = some (wordAt bytes offset) :=
      word?_eq_some (by omega)
    have htag : slice? bytes 4 7 = some ((bytes.drop 4).take 3) := by
      rw [slice?_eq_some (by decide) (by omega), List.drop_take]
    have hkind : bytes[7]? = some (bytes.getD 7 0) := by
      simp [List.getElem?_eq_getElem (show 7 < bytes.length by omega)]
    simp only [hlength, htag, hkind, hword, Nat.zero_le, Option.bind_eq_bind, Option.bind_some]
    by_cases hmarked : (bytes.drop 4).take 3 = tag
    · by_cases hhead : wordAt bytes 0 < headLength
      · simp [hmarked, hhead]
      · by_cases hfits : bytes.length < wordAt bytes 0
        · simp [hmarked, hhead, hfits]
        · have hpayload : slice? bytes headLength (wordAt bytes 0)
              = some ((bytes.take (wordAt bytes 0)).drop headLength) :=
            slice?_eq_some (Nat.not_lt.mp hhead) (Nat.not_lt.mp hfits)
          simp only [hmarked, hhead, hfits, hpayload]
          cases ThumbnailKind.ofCode? (bytes.getD 7 0) <;> simp [geometryOf, hword]
    · simp [hmarked]

/-! ## The format -/

/-- **What is written is what is read.** A box whose length fits in 32 bits is written in so many
bytes and read back from them, whatever follows; while some of them are missing, it is told how many
are needed. A larger box is refused. Whatever is read as a box is what is written for it, and no
bytes make the reader look at one that is not there. -/
theorem reads_what_is_written (b : ThumbnailBox) :
    (headLength + b.payload.length < UInt32.size →
      ∃ e, b.encode = .ok e ∧ e.length = b.encodedLength ∧
        (∀ rest, decode (e ++ rest) = .ok b) ∧
        ∀ k < e.length, decode (e.take k)
          = .error (.truncated (if k < headLength then headLength else e.length) k)) ∧
    (UInt32.size ≤ headLength + b.payload.length →
      b.encode = .error (.tooLarge b.payload.length)) ∧
    ∀ bytes, (decode bytes = .ok b → b.encode = .ok (bytes.take b.encodedLength)) ∧
      decodeChecked bytes = some (decode bytes) := by
  refine ⟨?_, ?_, ?_⟩
  · intro hsize
    have he : b.encode = .ok (b.head ++ b.payload) := encode_eq_ok_iff.mpr ⟨hsize, rfl⟩
    refine ⟨_, he, length_of_encode he, ?_, ?_⟩
    · intro rest
      exact decode_append he rest
    · intro k hk
      exact decode_take he hk
  · intro hlarge
    exact encode_eq_error (Nat.not_lt.mpr hlarge)
  · intro bytes
    exact ⟨encode_of_decode, decodeChecked_eq bytes⟩

/-- A box of three bytes, with a byte behind it and without its last byte; and a box that is too
large. -/
theorem reads_what_is_written_small :
    let b : ThumbnailBox := ⟨{}, [1, 2, 3]⟩
    let large : ThumbnailBox := ⟨{}, List.replicate UInt32.size 0⟩
    (∃ e, b.encode = .ok e ∧ decode (e ++ [9]) = .ok b ∧
      decode (e.take 26) = .error (.truncated 27 26) ∧ b.encode = .ok ((e ++ [9]).take 27)) ∧
    large.encode = .error (.tooLarge UInt32.size) := by
  intro b large
  constructor
  · obtain ⟨hwrites, -, hreads⟩ := reads_what_is_written b
    obtain ⟨e, he, hlength, hback, hcut⟩ := hwrites (by decide)
    have hlength : e.length = 27 := hlength
    refine ⟨e, he, hback [9], ?_, (hreads (e ++ [9])).1 (hback [9])⟩
    have h := hcut 26 (by omega)
    rwa [hlength] at h
  · obtain ⟨-, hlarge, -⟩ := reads_what_is_written large
    have hlength : large.payload.length = UInt32.size := List.length_replicate
    rw [← hlength]
    exact hlarge (by omega)

end ThumbnailBox

end CameraRecorder

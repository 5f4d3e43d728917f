import CameraRecorder.Bytes
import CameraRecorder.Media.Params

/-!
# Thumbnail boxes

A finished file ends with a box that holds a snapshot. All numbers are big-endian:

```text
size (4) | "thm" | kind (1) | width (4) | height (4) |
  virtual width (4) | virtual height (4) | payload
```

The size counts the whole box. A reader looks for the last place where a box can be decoded.
-/

namespace CameraRecorder

/-- Why bytes are no thumbnail box, or a snapshot fits in none. -/
inductive BoxError where
  | truncated (needed available : Nat)
  | badTag
  | unknownType (code : UInt8)
  | tooLarge (payload : Nat)
deriving DecidableEq, Repr

def BoxError.message : BoxError → String
  | truncated needed available => s!"Box truncated: need {needed} bytes, have {available}"
  | badTag => "Not a thumbnail box"
  | unknownType code => s!"Unknown thumbnail type {code}"
  | tooLarge payload => s!"Thumbnail too large for a 32-bit box ({payload} bytes)"

/-- A snapshot together with its geometry. -/
structure ThumbnailBox where
  params : ThumbnailParams
  payload : Bytes
deriving DecidableEq, Repr

namespace ThumbnailBox

/-- The bytes `thm`, which mark a box after its size. -/
def tag : Bytes := [0x74, 0x68, 0x6d]

/-- Length of everything before the payload. -/
def headLength : Nat := 24

/-- Length of the written box. -/
def encodedLength (b : ThumbnailBox) : Nat := headLength + b.payload.length

/-- The box as it stands in a file, if its size fits in 32 bits. -/
def encode (b : ThumbnailBox) : Except BoxError Bytes :=
  if b.encodedLength < UInt32.size then
    .ok (bigEndian 4 b.encodedLength ++ tag ++ [b.params.kind.code] ++
      bigEndian 4 b.params.width.toNat ++ bigEndian 4 b.params.height.toNat ++
      bigEndian 4 b.params.virtualWidth.toNat ++ bigEndian 4 b.params.virtualHeight.toNat ++
      b.payload)
  else .error (.tooLarge b.payload.length)

/-- The number written in the four bytes at an offset. -/
def wordAt (bytes : Bytes) (offset : Nat) : Nat := ofBigEndian ((bytes.drop offset).take 4)

/-- The geometry written after the header of a box. -/
def geometryOf (kind : ThumbnailKind) (bytes : Bytes) : ThumbnailParams where
  kind := kind
  width := UInt32.ofNat (wordAt bytes 8)
  height := UInt32.ofNat (wordAt bytes 12)
  virtualWidth := UInt32.ofNat (wordAt bytes 16)
  virtualHeight := UInt32.ofNat (wordAt bytes 20)

/-- Reads the box that `bytes` begin with, of which there are `available`. -/
def decodeAmong (available : Nat) (bytes : Bytes) : Except BoxError ThumbnailBox :=
  let size := wordAt bytes 0
  let kindCode := bytes.getD 7 0
  if available < headLength then .error (.truncated headLength available)
  else if (bytes.drop 4).take 3 ≠ tag then .error .badTag
  else if size < headLength then .error .badTag
  else if available < size then .error (.truncated size available)
  else match ThumbnailKind.ofCode? kindCode with
    | none => .error (.unknownType kindCode)
    | some kind => .ok ⟨geometryOf kind bytes, (bytes.take size).drop headLength⟩

/-- Reads the box that `bytes` begin with. What follows the box is ignored. -/
def decode (bytes : Bytes) : Except BoxError ThumbnailBox := decodeAmong bytes.length bytes

/-- Every offset, counted on from `start`, with the bytes from there, at which the tag stands where
a box has it. -/
def candidates (start : Nat) : Bytes → List (Nat × Bytes)
  | [] => []
  | b :: rest =>
    if (rest.drop 3).take 3 = tag then (start, b :: rest) :: candidates (start + 1) rest
    else candidates (start + 1) rest

/-- What follows an offset are the bytes that are left. -/
theorem length_of_mem_candidates {start : Nat} {bytes : Bytes} {found : Nat × Bytes}
    (h : found ∈ candidates start bytes) :
    found.1 + found.2.length = start + bytes.length := by
  induction bytes generalizing start with
  | nil => simp [candidates] at h
  | cons b rest ih =>
    have later (h : found ∈ candidates (start + 1) rest) :
        found.1 + found.2.length = start + (b :: rest).length := by
      have := ih h
      simp only [List.length_cons]
      omega
    rw [candidates] at h
    split at h
    · rcases List.mem_cons.1 h with rfl | h
      · rfl
      · exact later h
    · exact later h

/-- The last box in `bytes` and its offset: the candidates are tried from the end. -/
def findLast (bytes : Bytes) : Option (Nat × ThumbnailBox) :=
  let total := bytes.length
  (candidates 0 bytes).reverse.findSome? fun (offset, rest) =>
    match decodeAmong (total - offset) rest with
    | .ok box => some (offset, box)
    | .error _ => none

/-- Each candidate is tried as a box of its own. -/
theorem findLast_eq (bytes : Bytes) :
    findLast bytes = (candidates 0 bytes).reverse.findSome? fun found =>
      match decode found.2 with
      | .ok box => some (found.1, box)
      | .error _ => none := by
  have tried {found : Nat × Bytes} (h : found ∈ candidates 0 bytes) :
      decodeAmong (bytes.length - found.1) found.2 = decode found.2 := by
    have := length_of_mem_candidates h
    rw [decode, show bytes.length - found.1 = found.2.length by omega]
  rw [findLast]
  generalize hl : (candidates 0 bytes).reverse = l
  replace tried : ∀ found ∈ l, decodeAmong (bytes.length - found.1) found.2 = decode found.2 :=
    fun found h => tried (List.mem_reverse.1 (hl ▸ h))
  clear hl
  induction l with
  | nil => rfl
  | cons found l ih =>
    simp only [List.findSome?_cons, tried found (List.mem_cons_self ..)]
    rw [ih fun found h => tried found (List.mem_cons_of_mem _ h)]

end ThumbnailBox

end CameraRecorder

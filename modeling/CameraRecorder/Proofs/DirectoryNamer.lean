import CameraRecorder.DirectoryNamer
import CameraRecorder.Proofs.Path.Extension
import Mathlib.Data.List.Nodup

/-!
# Files of a directory namer do not collide

A file name is read from its end: its running number stands between the last underscore and the
first dot after it, and what stands before that underscore begins with the camera. So two paths that
a namer gives, the marks of files in progress and the audio siblings included, only meet if they
were given in one answer to streams of one name. Whether they meet there is a matter of formats and
codecs alone (`SessionConfig.NamesApart`).
-/

namespace CameraRecorder

open CameraRecorder.Path (dot slash)

/-! ## The paths of a file -/

namespace StreamConfig

/-- The paths that belong to a file of the stream: its own, the one it has while it is in progress,
and its audio sibling's. -/
def filePaths (s : StreamConfig) (p : Path) : List Path :=
  p :: p.inProgress :: (s.audio.map fun params => p.audioSibling params.codec).toList

/-- The codec of the audio track. -/
def audioCodec? (s : StreamConfig) : Option AudioCodec := s.audio.map (·.codec)

/-- What those paths end in, behind the first dot. -/
def endings (format : ContainerFormat) (codec : Option AudioCodec) : List Bytes :=
  let extension := Bytes.ofString format.fileExtension
  extension :: (extension ++ dot :: Path.inProgressExtension) ::
    (codec.map fun c => Bytes.ofString c.tag).toList

end StreamConfig

namespace SessionConfig

/-- Streams of one name have different formats, and different codecs if both have audio. -/
def NamesApart (c : SessionConfig) : Prop :=
  c.streams.Pairwise fun s t => s.name = t.name →
    s.format ≠ t.format ∧ ∀ a ∈ s.audioCodec?, ∀ b ∈ t.audioCodec?, a ≠ b

instance (c : SessionConfig) : Decidable c.NamesApart :=
  inferInstanceAs (Decidable (List.Pairwise _ _))

/-- The paths of the files that one answer names. -/
def answerPaths (c : SessionConfig) : Except NameError (List Path) → List Path
  | .error _ => []
  | .ok paths => (c.streams.zip paths).flatMap fun (s, p) => s.filePaths p

/-- The paths of all files that are named in a series of answers. -/
def filePaths (c : SessionConfig) (answers : List (Except NameError (List Path))) : List Path :=
  answers.flatMap c.answerPaths

end SessionConfig

namespace StreamConfig

variable {f g : ContainerFormat} {c c' : Option AudioCodec}

theorem nodup_endings (f : ContainerFormat) (c : Option AudioCodec) : (endings f c).Nodup := by
  simp only [endings, Bytes.ofString_eq]
  cases f <;> rcases c with _ | _ | _ <;> decide

theorem disjoint_endings_iff : List.Disjoint (endings f c) (endings g c') ↔
    f ≠ g ∧ ∀ a ∈ c, ∀ b ∈ c', a ≠ b := by
  have h : (∀ e ∈ endings f c, e ∉ endings g c') ↔ f ≠ g ∧ ∀ a ∈ c, ∀ b ∈ c', a ≠ b := by
    simp only [endings, Bytes.ofString_eq]
    cases f <;> cases g <;> rcases c with _ | _ | _ <;> rcases c' with _ | _ | _ <;> decide
  exact h

theorem underscore_not_mem_endings {e : Bytes} (h : e ∈ endings f c) : 0x5f ∉ e := by
  have hall : ∀ e ∈ endings f c, (0x5f : UInt8) ∉ e := by
    simp only [endings, Bytes.ofString_eq]
    cases f <;> rcases c with _ | _ | _ <;> decide
  exact hall e h

end StreamConfig

/-! ## Numbers -/

theorem ofString_of_digits {s : String} (h : ∀ c ∈ s.toList, c.isDigit = true) {b : UInt8}
    (hb : b ∈ Bytes.ofString s) : 0x30 ≤ b ∧ b ≤ 0x39 := by
  rw [Bytes.ofString_eq, List.mem_flatMap] at hb
  obtain ⟨c, hc, hb⟩ := hb
  obtain ⟨hlow, hhigh⟩ : 48 ≤ c.val.toNat ∧ c.val.toNat ≤ 57 := Char.isDigit_iff_toNat.mp (h c hc)
  have hone : c.utf8Size = 1 :=
    Char.utf8Size_eq_one_iff.mpr (UInt32.le_iff_toNat_le.mpr (by
      simp only [UInt32.reduceToNat]
      omega))
  obtain rfl : b = c.val.toUInt8 := by
    rw [String.utf8EncodeChar_eq_singleton hone] at hb
    exact List.mem_singleton.mp hb
  have hbyte : c.val.toUInt8.toNat = c.val.toNat := by
    rw [UInt32.toNat_toUInt8]
    omega
  simp only [UInt8.le_iff_toNat_le, hbyte, UInt8.reduceToNat]
  omega

theorem toList_fourDigits (n : Nat) : (fourDigits n).toList
    = List.replicate (4 - (Nat.toDigits 10 n).length) '0' ++ Nat.toDigits 10 n := by
  simp [fourDigits]

/-- Zeros in front of a number do not change it. -/
theorem ofDigitChars_fourDigits (n : Nat) : Nat.ofDigitChars 10 (fourDigits n).toList 0 = n := by
  have hzeros (k : Nat) : Nat.ofDigitChars 10 (List.replicate k '0') 0 = 0 := by
    induction k with
    | zero => rfl
    | succ k ih => simpa [Nat.ofDigitChars, List.replicate_succ] using ih
  rw [toList_fourDigits, Nat.ofDigitChars_append, hzeros, Nat.ofDigitChars_ten_toDigits]

theorem fourDigits_inj {m n : Nat} : fourDigits m = fourDigits n ↔ m = n :=
  ⟨fun h => by rw [← ofDigitChars_fourDigits m, h, ofDigitChars_fourDigits], congrArg _⟩

theorem isDigit_of_mem_fourDigits {n : Nat} {c : Char} (h : c ∈ (fourDigits n).toList) :
    c.isDigit = true := by
  rw [toList_fourDigits, List.mem_append] at h
  rcases h with h | h
  · rw [List.eq_of_mem_replicate h]
    rfl
  · exact Nat.isDigit_of_mem_toDigits (by decide) (by decide) h

theorem isDigit_of_mem_toString {n : UInt32} {c : Char} (h : c ∈ (toString n).toList) :
    c.isDigit = true := by
  have hrepr : (toString n).toList = Nat.toDigits 10 n.toNat := Nat.toList_repr
  rw [hrepr] at h
  exact Nat.isDigit_of_mem_toDigits (by decide) (by decide) h

theorem not_mem_of_digits {s : String} (h : ∀ c ∈ s.toList, c.isDigit = true) {b : UInt8}
    (hb : b < 0x30 ∨ 0x39 < b) : b ∉ Bytes.ofString s := by
  intro hmem
  obtain ⟨hlow, hhigh⟩ := ofString_of_digits h hmem
  rcases hb with hb | hb
  · exact absurd hlow (UInt8.not_le.mpr hb)
  · exact absurd hhigh (UInt8.not_le.mpr hb)

/-! ## Reading a name -/

/-- The first of equal bytes divides a string in one way. -/
theorem append_cons_inj {b : UInt8} {front front' rest rest' : Bytes} (h : b ∉ front)
    (h' : b ∉ front') (heq : front ++ b :: rest = front' ++ b :: rest') :
    front = front' ∧ rest = rest' := by
  induction front generalizing front' with
  | nil =>
    cases front' with
    | nil => exact ⟨rfl, (List.cons.inj heq).2⟩
    | cons c front' => exact absurd (List.mem_cons.mpr (.inl (List.cons.inj heq).1)) h'
  | cons c front ih =>
    cases front' with
    | nil => exact absurd (List.mem_cons.mpr (.inl (List.cons.inj heq).1.symm)) h
    | cons c' front' =>
      obtain ⟨rfl, htail⟩ := List.cons.inj heq
      obtain ⟨rfl, rfl⟩ :=
        ih (List.not_mem_of_not_mem_cons h) (List.not_mem_of_not_mem_cons h') htail
      exact ⟨rfl, rfl⟩

/-- The last of equal bytes divides a string in one way. -/
theorem append_cons_inj_right {b : UInt8} {front front' rest rest' : Bytes} (h : b ∉ rest)
    (h' : b ∉ rest') (heq : front ++ b :: rest = front' ++ b :: rest') :
    front = front' ∧ rest = rest' := by
  have hreverse : rest.reverse ++ b :: front.reverse = rest'.reverse ++ b :: front'.reverse := by
    simpa using congrArg List.reverse heq
  obtain ⟨hrest, hfront⟩ := append_cons_inj (mt List.mem_reverse.mp h) (mt List.mem_reverse.mp h')
    hreverse
  exact ⟨List.reverse_injective hfront, List.reverse_injective hrest⟩

namespace DirectoryNamer

variable {d : Path} {cameraId cameraId' sequence sequence' : UInt32} {name name' : String}

/-- The path of one file. -/
def pathOf (d : Path) (cameraId sequence : UInt32) (stream : String × ContainerFormat) : Path :=
  d.join (.ofString (nameOf cameraId sequence stream))

/-- What a directory puts in front of the names in it. -/
def front (d : Path) : Bytes :=
  if d.bytes.isEmpty ∨ d.bytes.getLast? = some slash then d.bytes else d.bytes ++ [slash]

/-- What stands in front of the running number. -/
def stem (d : Path) (cameraId : UInt32) (name : String) : Bytes :=
  front d ++ Bytes.ofString (toString cameraId) ++ 0x5f :: Bytes.ofString name

/-- What stands in front of the extension. -/
def numbered (d : Path) (cameraId sequence : UInt32) (name : String) : Bytes :=
  stem d cameraId name ++ 0x5f :: Bytes.ofString (fourDigits sequence.toNat)

theorem pathOf_eq (d : Path) (cameraId sequence : UInt32) (name : String) (f : ContainerFormat) :
    pathOf d cameraId sequence (name, f)
      = ⟨numbered d cameraId sequence name ++ dot :: Bytes.ofString f.fileExtension⟩ := by
  have hunderscore : Bytes.ofString "_" = [0x5f] := by
    rw [Bytes.ofString_eq]
    decide
  have hdot : Bytes.ofString "." = [dot] := by
    rw [Bytes.ofString_eq]
    decide
  have hbytes : Bytes.ofString (nameOf cameraId sequence (name, f))
      = Bytes.ofString (toString cameraId) ++ 0x5f :: (Bytes.ofString name ++ 0x5f ::
        (Bytes.ofString (fourDigits sequence.toNat) ++ dot :: Bytes.ofString f.fileExtension)) := by
    simp only [nameOf, Bytes.ofString_append, hunderscore, hdot, List.append_assoc,
      List.cons_append, List.nil_append]
  have hrelative : (Path.ofString (nameOf cameraId sequence (name, f))).isAbsolute = false := by
    have hslash : slash ∉ Bytes.ofString (toString cameraId) :=
      not_mem_of_digits (fun _ => isDigit_of_mem_toString) (.inl (by decide))
    rw [Path.isAbsolute, Path.ofString, hbytes, decide_eq_false_iff_not]
    cases hcamera : Bytes.ofString (toString cameraId) with
    | nil => simp [slash]
    | cons b others =>
      rw [hcamera] at hslash
      simpa using Ne.symm (List.ne_of_not_mem_cons hslash)
  unfold pathOf Path.join numbered stem front
  rw [if_neg (by simp [hrelative]), Path.ofString, hbytes]
  split <;> simp

/-- What stands in front of the extension does not end in a slash. -/
theorem exists_numbered_eq (d : Path) (cameraId sequence : UInt32) (name : String) :
    ∃ base b, b ≠ slash ∧ numbered d cameraId sequence name = base ++ [b] := by
  rcases List.eq_nil_or_concat (0x5f :: Bytes.ofString (fourDigits sequence.toNat)) with
    hnil | ⟨digits, b, hdigits⟩
  · cases hnil
  · refine ⟨stem d cameraId name ++ digits, b, ?_, by simp [numbered, hdigits]⟩
    have hmem : b ∈ 0x5f :: Bytes.ofString (fourDigits sequence.toNat) := by simp [hdigits]
    rintro rfl
    rcases List.mem_cons.mp hmem with h | h
    · exact absurd h (by decide)
    · exact not_mem_of_digits (fun _ => isDigit_of_mem_fourDigits) (.inl (by decide)) h

/-- The paths of a file differ in what stands behind its number. -/
theorem filePaths_pathOf (d : Path) (cameraId sequence : UInt32) (s : StreamConfig) :
    s.filePaths (pathOf d cameraId sequence (s.name, s.format))
      = (StreamConfig.endings s.format s.audioCodec?).map fun e =>
        ⟨numbered d cameraId sequence s.name ++ dot :: e⟩ := by
  obtain ⟨hsome, hslash, hdot, hpart⟩ :
      let extension := Bytes.ofString s.format.fileExtension
      extension ≠ [] ∧ slash ∉ extension ∧ dot ∉ extension ∧
        extension ≠ Path.inProgressExtension := by
    simp only [Bytes.ofString_eq]
    cases s.format <;> decide
  obtain ⟨base, b, hb, hbase⟩ := exists_numbered_eq d cameraId sequence s.name
  have hsibling (params : AudioParams) :
      (pathOf d cameraId sequence (s.name, s.format)).audioSibling params.codec
        = ⟨numbered d cameraId sequence s.name ++ dot :: Bytes.ofString params.codec.tag⟩ := by
    rw [pathOf_eq, hbase, List.append_assoc, List.append_assoc]
    exact Path.audioSibling_mk hb hsome hslash hdot hpart params.codec
  rw [StreamConfig.filePaths, StreamConfig.endings, StreamConfig.audioCodec?]
  simp only [hsibling]
  rw [pathOf_eq]
  cases s.audio with
  | none => simp [Path.inProgress, Path.append]
  | some params => simp [Path.inProgress, Path.append]

/-- A path tells its number, and its name to those who know the camera. -/
theorem numbered_inj {e e' : Bytes} (he : 0x5f ∉ e) (he' : 0x5f ∉ e')
    (h : numbered d cameraId sequence name ++ dot :: e
      = numbered d cameraId' sequence' name' ++ dot :: e') :
    sequence = sequence' ∧ e = e' ∧ stem d cameraId name = stem d cameraId' name' := by
  have hfree (sequence : UInt32) {e : Bytes} (he : 0x5f ∉ e) :
      0x5f ∉ Bytes.ofString (fourDigits sequence.toNat) ++ dot :: e := by
    simp only [List.mem_append, List.mem_cons, not_or]
    exact ⟨not_mem_of_digits (fun _ => isDigit_of_mem_fourDigits) (.inr (by decide)), by decide, he⟩
  have hnumber (sequence : UInt32) : dot ∉ Bytes.ofString (fourDigits sequence.toNat) :=
    not_mem_of_digits (fun _ => isDigit_of_mem_fourDigits) (.inl (by decide))
  unfold numbered at h
  rw [List.append_assoc, List.append_assoc] at h
  obtain ⟨hstem, htail⟩ := append_cons_inj_right (hfree sequence he) (hfree sequence' he') h
  obtain ⟨hdigits, hending⟩ := append_cons_inj (hnumber sequence) (hnumber sequence') htail
  refine ⟨?_, hending, hstem⟩
  exact UInt32.toNat_inj.mp (fourDigits_inj.mp (Bytes.ofString_inj.mp hdigits))

theorem numbered_append_injective (d : Path) (cameraId sequence : UInt32) (name : String) :
    Function.Injective fun e : Bytes =>
      (⟨numbered d cameraId sequence name ++ dot :: e⟩ : Path) := by
  intro e e' h
  exact (List.cons.inj (List.append_cancel_left (Path.mk.inj h))).2

/-! ## One answer -/

/-- All the paths that belong to one file of each stream. -/
def batchPaths (d : Path) (streams : List StreamConfig) (cameraId sequence : UInt32) : List Path :=
  streams.flatMap fun s => s.filePaths (pathOf d cameraId sequence (s.name, s.format))

theorem nodup_filePaths (d : Path) (cameraId sequence : UInt32) (s : StreamConfig) :
    (s.filePaths (pathOf d cameraId sequence (s.name, s.format))).Nodup := by
  rw [filePaths_pathOf]
  exact (StreamConfig.nodup_endings _ _).map (numbered_append_injective d cameraId sequence s.name)

/-- Two files named in one answer collide exactly if their streams have one name and share an
ending. -/
theorem disjoint_filePaths_iff {s t : StreamConfig} :
    List.Disjoint (s.filePaths (pathOf d cameraId sequence (s.name, s.format)))
      (t.filePaths (pathOf d cameraId sequence (t.name, t.format))) ↔
    (s.name = t.name →
      s.format ≠ t.format ∧ ∀ a ∈ s.audioCodec?, ∀ b ∈ t.audioCodec?, a ≠ b) := by
  rw [filePaths_pathOf, filePaths_pathOf, ← StreamConfig.disjoint_endings_iff]
  constructor
  · intro h hname e he he'
    rw [hname] at h
    exact h (List.mem_map_of_mem he) (List.mem_map_of_mem he')
  · intro h p hp hp'
    obtain ⟨e, he, rfl⟩ := List.mem_map.mp hp
    obtain ⟨e', he', heq⟩ := List.mem_map.mp hp'
    obtain ⟨-, rfl, hstem⟩ := numbered_inj (StreamConfig.underscore_not_mem_endings he')
      (StreamConfig.underscore_not_mem_endings he) (Path.mk.inj heq)
    have hname : Bytes.ofString t.name = Bytes.ofString s.name :=
      (List.cons.inj (List.append_cancel_left hstem)).2
    exact h (Bytes.ofString_inj.mp hname).symm he he'

theorem nodup_batchPaths_iff {config : SessionConfig} :
    (batchPaths d config.streams cameraId sequence).Nodup ↔ config.NamesApart := by
  rw [batchPaths, List.nodup_flatMap, SessionConfig.NamesApart]
  have hall : ∀ s ∈ config.streams,
      (s.filePaths (pathOf d cameraId sequence (s.name, s.format))).Nodup :=
    fun s _ => nodup_filePaths d cameraId sequence s
  rw [and_iff_right hall]
  exact List.Pairwise.iff fun _ _ => disjoint_filePaths_iff

/-- Files with different numbers do not collide. -/
theorem disjoint_batchPaths {streams streams' : List StreamConfig} (h : sequence ≠ sequence') :
    List.Disjoint (batchPaths d streams cameraId sequence)
      (batchPaths d streams' cameraId' sequence') := by
  intro p hp hp'
  obtain ⟨s, -, hp⟩ := List.mem_flatMap.mp hp
  obtain ⟨t, -, hp'⟩ := List.mem_flatMap.mp hp'
  rw [filePaths_pathOf] at hp hp'
  obtain ⟨e, he, rfl⟩ := List.mem_map.mp hp
  obtain ⟨e', he', heq⟩ := List.mem_map.mp hp'
  obtain ⟨hsequence, -, -⟩ := numbered_inj (StreamConfig.underscore_not_mem_endings he')
    (StreamConfig.underscore_not_mem_endings he) (Path.mk.inj heq)
  exact h hsequence.symm

/-! ## All answers -/

/-- The answers to a series of requests, each for a camera and a number of streams, and the namer
after them. -/
def requestAll (n : DirectoryNamer) :
    List (UInt32 × Nat) → List (Except NameError (List Path)) × DirectoryNamer
  | [] => ([], n)
  | (cameraId, count) :: calls =>
    let (answer, n) := n.request cameraId count
    let (answers, n) := n.requestAll calls
    (answer :: answers, n)

/-- The namer of a session once it has used up some numbers. -/
def createAt (d : Path) (config : SessionConfig) (sequence : UInt32) : DirectoryNamer :=
  { create d config with sequence }

/-- A request for another number of streams leaves the namer as it was. -/
theorem request_of_ne {n : DirectoryNamer} {count : Nat} (h : count ≠ n.streams.length)
    (cameraId : UInt32) : ∃ e, n.request cameraId count = (.error e, n) :=
  ⟨_, if_pos h⟩

variable {config : SessionConfig} {calls : List (UInt32 × Nat)}

theorem length_streams_createAt :
    (createAt d config sequence).streams.length = config.streams.length := by
  simp [createAt, create]

/-- Any other request is answered with the paths of the next number. -/
theorem request_eq (config : SessionConfig) (d : Path) (cameraId sequence : UInt32) :
    (createAt d config sequence).request cameraId config.streams.length
      = (.ok (config.streams.map fun s => pathOf d cameraId sequence (s.name, s.format)),
        createAt d config (sequence + 1)) := by
  rw [request, if_neg (not_not.mpr length_streams_createAt.symm)]
  simp [createAt, create, pathOf, Function.comp_def]

theorem answerPaths_request (config : SessionConfig) (d : Path) (cameraId sequence : UInt32) :
    config.answerPaths
        (.ok (config.streams.map fun s => pathOf d cameraId sequence (s.name, s.format)))
      = batchPaths d config.streams cameraId sequence := by
  have hzip (streams : List StreamConfig) (f : StreamConfig → Path) :
      ((streams.zip (streams.map f)).flatMap fun (s, p) => s.filePaths p)
        = streams.flatMap fun s => s.filePaths (f s) := by
    induction streams with
    | nil => rfl
    | cons s streams ih => simp [ih]
  exact hzip config.streams _

/-- What a series of requests does is what its first request does, and then the others: a refused
request changes nothing, any other is answered with the next number. -/
theorem requestAll_cons (config : SessionConfig) (d : Path) (cameraId sequence : UInt32)
    (count : Nat) (calls : List (UInt32 × Nat)) :
    (count ≠ config.streams.length ∧ ∃ e,
      (createAt d config sequence).requestAll ((cameraId, count) :: calls)
        = (.error e :: ((createAt d config sequence).requestAll calls).1,
          ((createAt d config sequence).requestAll calls).2)) ∨
    (count = config.streams.length ∧
      (createAt d config sequence).requestAll ((cameraId, count) :: calls)
        = (.ok (config.streams.map fun s => pathOf d cameraId sequence (s.name, s.format)) ::
            ((createAt d config (sequence + 1)).requestAll calls).1,
          ((createAt d config (sequence + 1)).requestAll calls).2)) := by
  by_cases h : count = config.streams.length
  · subst h
    exact .inr ⟨rfl, by rw [requestAll, request_eq]⟩
  · obtain ⟨e, he⟩ := request_of_ne (n := createAt d config sequence)
      (by rwa [length_streams_createAt]) cameraId
    exact .inl ⟨h, e, by rw [requestAll, he]⟩

/-- After any requests the namer is as it was, its number aside. -/
theorem requestAll_snd (config : SessionConfig) (d : Path) (sequence : UInt32)
    (calls : List (UInt32 × Nat)) :
    ∃ later, ((createAt d config sequence).requestAll calls).2 = createAt d config later := by
  induction calls generalizing sequence with
  | nil => exact ⟨sequence, rfl⟩
  | cons call calls ih =>
    obtain ⟨cameraId, count⟩ := call
    rcases requestAll_cons config d cameraId sequence count calls with ⟨-, e, h⟩ | ⟨-, h⟩
    · rw [h]
      exact ih sequence
    · rw [h]
      exact ih (sequence + 1)

/-- The requests for the right number of streams are answered, each with one path for each
stream. -/
theorem requestAll_answers (config : SessionConfig) (d : Path) (sequence : UInt32)
    (calls : List (UInt32 × Nat)) :
    List.Forall₂ (fun call answer =>
        if call.2 = config.streams.length then
          ∃ paths, answer = .ok paths ∧ paths.length = config.streams.length
        else ∃ e, answer = .error e)
      calls ((createAt d config sequence).requestAll calls).1 := by
  induction calls generalizing sequence with
  | nil => exact .nil
  | cons call calls ih =>
    obtain ⟨cameraId, count⟩ := call
    rcases requestAll_cons config d cameraId sequence count calls with ⟨hcount, e, h⟩ | ⟨hcount, h⟩
    · rw [h]
      refine .cons ?_ (ih sequence)
      rw [if_neg hcount]
      exact ⟨e, rfl⟩
    · rw [h]
      refine .cons ?_ (ih (sequence + 1))
      rw [if_pos hcount]
      exact ⟨_, rfl, List.length_map _⟩

theorem toNat_succ (h : sequence.toNat + (calls.length + 1) < UInt32.size) :
    (sequence + 1).toNat = sequence.toNat + 1 := by
  rw [UInt32.size] at h
  rw [UInt32.toNat_add, UInt32.toNat_one]
  omega

/-- The files named from a number on bear that number or a later one. -/
theorem exists_mem_batchPaths (h : sequence.toNat + calls.length < UInt32.size) {p : Path}
    (hp : p ∈ config.filePaths ((createAt d config sequence).requestAll calls).1) :
    ∃ cameraId later, sequence.toNat ≤ later.toNat ∧
      p ∈ batchPaths d config.streams cameraId later := by
  induction calls generalizing sequence with
  | nil => cases hp
  | cons call calls ih =>
    obtain ⟨cameraId, count⟩ := call
    rw [List.length_cons] at h
    rcases requestAll_cons config d cameraId sequence count calls with ⟨-, e, hall⟩ | ⟨-, hall⟩
    · rw [hall] at hp
      exact ih (by omega) hp
    · rw [hall, SessionConfig.filePaths, List.flatMap_cons, answerPaths_request] at hp
      rcases List.mem_append.mp hp with hp | hp
      · exact ⟨cameraId, sequence, le_rfl, hp⟩
      · have hsucc := toNat_succ h
        obtain ⟨cameraId', later, hlater, hp⟩ := ih (by omega) hp
        exact ⟨cameraId', later, by omega, hp⟩

theorem nodup_filePaths_iff (h : sequence.toNat + calls.length < UInt32.size) :
    (config.filePaths ((createAt d config sequence).requestAll calls).1).Nodup ↔
      config.NamesApart ∨ ∀ call ∈ calls, call.2 ≠ config.streams.length := by
  induction calls generalizing sequence with
  | nil => exact ⟨fun _ => .inr (List.forall_mem_nil _), fun _ => List.nodup_nil⟩
  | cons call calls ih =>
    obtain ⟨cameraId, count⟩ := call
    rw [List.length_cons] at h
    rcases requestAll_cons config d cameraId sequence count calls with
      ⟨hcount, e, hall⟩ | ⟨hcount, hall⟩
    · rw [hall, List.forall_mem_cons]
      exact (ih (by omega)).trans (by simp [hcount])
    · have hsucc := toNat_succ h
      have hrest := @ih (sequence + 1) (by omega)
      -- what is named later bears a later number
      have hlater : List.Disjoint (batchPaths d config.streams cameraId sequence)
          (config.filePaths ((createAt d config (sequence + 1)).requestAll calls).1) := by
        intro p hp hp'
        obtain ⟨cameraId', later, hle, hp'⟩ := exists_mem_batchPaths (by omega) hp'
        refine disjoint_batchPaths ?_ hp hp'
        rintro rfl
        omega
      rw [hall, SessionConfig.filePaths, List.flatMap_cons, answerPaths_request,
        ← SessionConfig.filePaths, List.nodup_append', nodup_batchPaths_iff, hrest]
      simp only [hlater, and_true, List.forall_mem_cons, hcount, ne_eq, not_true_eq_false,
        false_and, or_false]
      exact ⟨And.left, fun hapart => ⟨hapart, .inl hapart⟩⟩

/-- **Files only collide if streams of one name share a format or a codec.** The paths of all files
that a namer gives, in whatever order cameras ask, with the paths that the files have while they are
in progress and those of their audio siblings, are all different exactly if streams of one name have
different formats and codecs, or no request is for the right number of streams. A request for
another number fails and uses no number up. -/
theorem files_collide_only_by_name (config : SessionConfig) (directory : Path)
    (calls : List (UInt32 × Nat)) (h : calls.length < UInt32.size) :
    let served := (create directory config).requestAll calls
    ((config.filePaths served.1).Nodup ↔
      config.NamesApart ∨ ∀ call ∈ calls, call.2 ≠ config.streams.length) ∧
    List.Forall₂ (fun call answer =>
        if call.2 = config.streams.length then
          ∃ paths, answer = .ok paths ∧ paths.length = config.streams.length
        else ∃ e, answer = .error e)
      calls served.1 ∧
    ∀ cameraId count, count ≠ config.streams.length →
      ∃ e, served.2.request cameraId count = (.error e, served.2) := by
  intro served
  have hfew : (0 : UInt32).toNat + calls.length < UInt32.size := by simpa using h
  refine ⟨nodup_filePaths_iff (d := directory) hfew, requestAll_answers config directory 0 calls,
    fun cameraId count hcount => ?_⟩
  obtain ⟨later, hlater⟩ := requestAll_snd config directory 0 calls
  have hserved : served.2 = createAt directory config later := hlater
  rw [hserved]
  exact request_of_ne (by rwa [length_streams_createAt]) cameraId

/-- Two streams of one name, the second in the given format. -/
def twoNamedAlike (format : ContainerFormat) : SessionConfig where
  cameraId := 0
  streams := [
    { name := "a_1/b", channelId := 0, video := ⟨.h264, 64, 32, 5, 5, 0⟩,
      audio := some ⟨.mp3, 8000, 1, 64⟩ },
    { name := "a_1/b", channelId := 1, video := ⟨.h264, 64, 32, 5, 5, 0⟩, format,
      audio := some ⟨.mp2, 8000, 1, 64⟩ }]

theorem files_collide_only_by_name_in_other_formats :
    [(0, 2), (7, 1), (12, 2)].length < UInt32.size ∧ (twoNamedAlike .flv).NamesApart ∧
    ((twoNamedAlike .flv).filePaths
      ((create ⟨[slash]⟩ (twoNamedAlike .flv)).requestAll [(0, 2), (7, 1), (12, 2)]).1).Nodup :=
  ⟨by decide, by decide,
    (files_collide_only_by_name (twoNamedAlike .flv) ⟨[slash]⟩ [(0, 2), (7, 1), (12, 2)]
      (by decide)).1.mpr (.inl (by decide))⟩

/-- Usable settings may still give two streams one path. -/
theorem files_of_one_name_collide :
    (twoNamedAlike .mp4).validate = .ok () ∧
    ¬ ((twoNamedAlike .mp4).filePaths
      ((create ⟨[slash]⟩ (twoNamedAlike .mp4)).requestAll [(0, 2)]).1).Nodup := by
  refine ⟨rfl, fun hnodup => ?_⟩
  have hfew : (0 : UInt32).toNat + [((0 : UInt32), 2)].length < UInt32.size := by decide
  have hcases := (nodup_filePaths_iff (d := ⟨[slash]⟩) hfew).mp hnodup
  exact absurd hcases (by decide)

end DirectoryNamer

end CameraRecorder

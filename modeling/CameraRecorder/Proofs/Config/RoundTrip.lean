import CameraRecorder.Config.Text
import CameraRecorder.Proofs.Json.Object

/-!
# Settings survive being written

Settings may be written in many ways: the members of every object in any order, those that hold
their default left out, blanks anywhere. `SessionConfig.Written` says which values may be written
for a session, and each of them is read as the session it was written for.

For each type there are three facts: the full value is one that may be written, each value that may
be written is read as the full one, and the full one stands for the settings.
-/

namespace CameraRecorder

open Json (Assembled ReadsAs)

namespace Json

theorem reads_word16 (n : UInt16) : ReadsAs .word16 (.ofNat n.toNat) (.ofNat n.toNat) :=
  reads_below (by decide) n.toNat_lt

theorem reads_word32 (n : UInt32) : ReadsAs .word32 (.ofNat n.toNat) (.ofNat n.toNat) :=
  reads_below (by decide) n.toNat_lt

theorem reads_word64 (n : UInt64) : ReadsAs .word64 (.ofNat n.toNat) (.ofNat n.toNat) :=
  reads_below (by decide) n.toNat_lt

@[simp] theorem member?_head (name : String) (value : Json) (members : List (String × Json)) :
    (object ((name, value) :: members)).member? name = some value := by
  simp [member?]

@[simp] theorem member?_tail {name other : String} (h : name ≠ other) (value : Json)
    (members : List (String × Json)) :
    (object ((other, value) :: members)).member? name = (object members).member? name := by
  rw [member?, List.lookup_cons, beq_false_of_ne h, member?]

@[simp] theorem nat?_ofNat (n : Nat) : (ofNat n).nat? = some n := rfl

end Json

/-! ## Names of formats, codecs and kinds -/

theorem ContainerFormat.reads (f : ContainerFormat) : ReadsAs reader f.toJson f.toJson :=
  Json.reads_choice (by cases f <;> simp)

theorem VideoCodec.reads (c : VideoCodec) : ReadsAs reader c.toJson c.toJson :=
  Json.reads_choice (by cases c <;> simp)

theorem AudioCodec.reads (c : AudioCodec) : ReadsAs reader c.toJson c.toJson :=
  Json.reads_choice (by cases c <;> simp)

theorem ThumbnailKind.reads (k : ThumbnailKind) : ReadsAs reader k.toJson k.toJson :=
  Json.reads_choice (by cases k <;> simp)

theorem ContainerFormat.ofJson?_toJson (f : ContainerFormat) : ofJson? f.toJson = some f := by
  cases f <;> rfl

theorem VideoCodec.ofJson?_toJson (c : VideoCodec) : ofJson? c.toJson = some c := by
  cases c <;> rfl

theorem AudioCodec.ofJson?_toJson (c : AudioCodec) : ofJson? c.toJson = some c := by
  cases c <;> rfl

theorem ThumbnailKind.ofJson?_toJson (k : ThumbnailKind) : ofJson? k.toJson = some k := by
  cases k <;> rfl

/-! ## Tracks and snapshots -/

namespace VideoParams

/-- What may be written for a video track. -/
def Written (p : VideoParams) : Json → Prop :=
  Assembled [
    .exact "codec" p.codec.toJson,
    .exact "width" (.ofNat p.width.toNat),
    .exact "height" (.ofNat p.height.toNat),
    .exact "frameRate" (.ofNat p.frameRate.toNat),
    .exact "gop" (.ofNat p.gop.toNat),
    .exact "bitrateKbps" (.ofNat p.bitrateKbps.toNat) (p.bitrateKbps = 0)]

theorem written_toJson (p : VideoParams) : p.Written p.toJson :=
  ⟨_, _, .keep rfl (.keep rfl (.keep rfl (.keep rfl (.keep rfl (.keep rfl .nil))))), .refl _, rfl⟩

theorem reads {p : VideoParams} {written : Json} (h : p.Written written) :
    ReadsAs reader written p.toJson := by
  refine Json.reads_object ?_ (by decide) h
  refine .exact p.codec.reads False.elim ?_
  refine .exact (Json.reads_word32 p.width) False.elim ?_
  refine .exact (Json.reads_word32 p.height) False.elim ?_
  refine .exact (Json.reads_word32 p.frameRate) False.elim ?_
  refine .exact (Json.reads_word32 p.gop) False.elim ?_
  exact .exact (Json.reads_word32 p.bitrateKbps) (fun h => by rw [h]; rfl) .nil

theorem ofJson?_toJson (p : VideoParams) : ofJson? p.toJson = some p := by
  simp [ofJson?, toJson, Json.natMember?, VideoCodec.ofJson?_toJson]

end VideoParams

namespace AudioParams

/-- What may be written for an audio track. -/
def Written (p : AudioParams) : Json → Prop :=
  Assembled [
    .exact "codec" p.codec.toJson,
    .exact "sampleRate" (.ofNat p.sampleRate.toNat),
    .exact "channels" (.ofNat p.channels.toNat),
    .exact "bitrateKbps" (.ofNat p.bitrateKbps.toNat) (p.bitrateKbps = 0)]

theorem written_toJson (p : AudioParams) : p.Written p.toJson :=
  ⟨_, _, .keep rfl (.keep rfl (.keep rfl (.keep rfl .nil))), .refl _, rfl⟩

theorem reads {p : AudioParams} {written : Json} (h : p.Written written) :
    ReadsAs reader written p.toJson := by
  refine Json.reads_object ?_ (by decide) h
  refine .exact p.codec.reads False.elim ?_
  refine .exact (Json.reads_word32 p.sampleRate) False.elim ?_
  refine .exact (Json.reads_word16 p.channels) False.elim ?_
  exact .exact (Json.reads_word32 p.bitrateKbps) (fun h => by rw [h]; rfl) .nil

theorem ofJson?_toJson (p : AudioParams) : ofJson? p.toJson = some p := by
  simp [ofJson?, toJson, Json.natMember?, AudioCodec.ofJson?_toJson]

end AudioParams

namespace ThumbnailParams

/-- What may be written for the geometry of snapshots. -/
def Written (p : ThumbnailParams) : Json → Prop :=
  Assembled [
    .exact "kind" p.kind.toJson (p.kind = .jpeg),
    .exact "width" (.ofNat p.width.toNat),
    .exact "height" (.ofNat p.height.toNat),
    .exact "virtualWidth" (.ofNat p.virtualWidth.toNat),
    .exact "virtualHeight" (.ofNat p.virtualHeight.toNat)]

theorem written_toJson (p : ThumbnailParams) : p.Written p.toJson :=
  ⟨_, _, .keep rfl (.keep rfl (.keep rfl (.keep rfl (.keep rfl .nil)))), .refl _, rfl⟩

theorem reads {p : ThumbnailParams} {written : Json} (h : p.Written written) :
    ReadsAs reader written p.toJson := by
  refine Json.reads_object ?_ (by decide) h
  refine .exact p.kind.reads (fun h => by rw [h]) ?_
  refine .exact (Json.reads_word32 p.width) False.elim ?_
  refine .exact (Json.reads_word32 p.height) False.elim ?_
  refine .exact (Json.reads_word32 p.virtualWidth) False.elim ?_
  exact .exact (Json.reads_word32 p.virtualHeight) False.elim .nil

theorem ofJson?_toJson (p : ThumbnailParams) : ofJson? p.toJson = some p := by
  simp [ofJson?, toJson, Json.natMember?, ThumbnailKind.ofJson?_toJson]

end ThumbnailParams

/-! ## Buffers, streams and sessions -/

namespace PoolConfig

/-- What may be written for the sizes of buffers: any of them is left out at its usual value. -/
def Written (p : PoolConfig) : Json → Prop :=
  let usual : PoolConfig := {}
  Assembled [
    .exact "videoCells" (.ofNat p.videoCells.toNat) (p.videoCells = usual.videoCells),
    .exact "audioCells" (.ofNat p.audioCells.toNat) (p.audioCells = usual.audioCells),
    .exact "thumbnailCells" (.ofNat p.thumbnailCells.toNat)
      (p.thumbnailCells = usual.thumbnailCells),
    .exact "acquireTimeoutMs" (.ofNat p.acquireTimeoutMs.toNat)
      (p.acquireTimeoutMs = usual.acquireTimeoutMs),
    .exact "dropNonKeyOnOverflow" (.flag p.dropNonKeyOnOverflow)
      (p.dropNonKeyOnOverflow = usual.dropNonKeyOnOverflow)]

theorem written_toJson (p : PoolConfig) : p.Written p.toJson :=
  ⟨_, _, .keep rfl (.keep rfl (.keep rfl (.keep rfl (.keep rfl .nil)))), .refl _, rfl⟩

theorem reads {p : PoolConfig} {written : Json} (h : p.Written written) :
    ReadsAs reader written p.toJson := by
  refine Json.reads_object ?_ (by decide) h
  refine .exact (Json.reads_word64 p.videoCells) (fun h => by rw [h]) ?_
  refine .exact (Json.reads_word64 p.audioCells) (fun h => by rw [h]) ?_
  refine .exact (Json.reads_word64 p.thumbnailCells) (fun h => by rw [h]) ?_
  refine .exact (Json.reads_word64 p.acquireTimeoutMs) (fun h => by rw [h]) ?_
  exact .exact (Json.reads_flag p.dropNonKeyOnOverflow) (fun h => by rw [h]) .nil

theorem ofJson?_toJson (p : PoolConfig) : ofJson? p.toJson = some p := by
  simp [ofJson?, toJson, Json.natMember?, Json.flag?]

end PoolConfig

namespace StreamConfig

/-- What may be written for a track that need not be there. -/
def AudioWritten : Option AudioParams → Json → Prop
  | none, written => written = .null
  | some audio, written => audio.Written written

/-- What may be written for a stream. -/
def Written (c : StreamConfig) : Json → Prop :=
  Assembled [
    .exact "name" (.text c.name),
    .exact "channelId" (.ofNat c.channelId.toNat),
    .exact "format" c.format.toJson (c.format = .mp4),
    { name := "video", form := c.video.Written },
    { name := "audio", form := AudioWritten c.audio, optional := c.audio = none },
    { name := "thumbnail", form := c.thumbnail.Written, optional := c.thumbnail = {} },
    .exact "splitDurationSecs" (.ofNat c.splitDurationSecs.toNat) (c.splitDurationSecs = 60),
    { name := "pools", form := c.pools.Written, optional := c.pools = {} }]

theorem audioWritten_toJson :
    (audio : Option AudioParams) → AudioWritten audio (.ofOption AudioParams.toJson audio)
  | none => rfl
  | some audio => audio.written_toJson

theorem written_toJson (c : StreamConfig) : c.Written c.toJson :=
  ⟨_, _, .keep rfl (.keep rfl (.keep rfl (.keep c.video.written_toJson
    (.keep (audioWritten_toJson c.audio) (.keep c.thumbnail.written_toJson
      (.keep rfl (.keep c.pools.written_toJson .nil))))))), .refl _, rfl⟩

theorem reads_audio {audio : Option AudioParams} {written : Json} (h : AudioWritten audio written) :
    ReadsAs (.nullable AudioParams.reader) written (.ofOption AudioParams.toJson audio) := by
  cases audio with
  | none =>
    cases h
    exact Json.reads_nullable_null _
  | some audio =>
    have hreads := audio.reads h
    obtain ⟨chosen, members, -, -, rfl⟩ := h
    exact Json.reads_nullable_object hreads

theorem reads {c : StreamConfig} {written : Json} (h : c.Written written) :
    ReadsAs reader written c.toJson := by
  refine Json.reads_object ?_ (by decide) h
  refine .exact (Json.reads_text c.name) False.elim ?_
  refine .exact (Json.reads_word32 c.channelId) False.elim ?_
  refine .exact c.format.reads (fun h => by rw [h]) ?_
  refine .cons rfl (fun _ => VideoParams.reads) False.elim ?_
  refine .cons rfl (fun _ => reads_audio) (fun h => by rw [show c.audio = none from h]; rfl) ?_
  refine .cons rfl (fun _ => ThumbnailParams.reads)
    (fun h => by rw [show c.thumbnail = {} from h]) ?_
  refine .exact (Json.reads_word32 c.splitDurationSecs) (fun h => by rw [h]; rfl) ?_
  exact .cons rfl (fun _ => PoolConfig.reads) (fun h => by rw [show c.pools = {} from h]) .nil

theorem audioOfJson?_ofOption :
    (audio : Option AudioParams) →
      audioOfJson? (.ofOption AudioParams.toJson audio) = some audio
  | none => rfl
  | some audio => by
    show (AudioParams.ofJson? audio.toJson).map some = _
    rw [AudioParams.ofJson?_toJson]
    rfl

theorem ofJson?_toJson (c : StreamConfig) : ofJson? c.toJson = some c := by
  simp [ofJson?, toJson, Json.natMember?, Json.text?, ContainerFormat.ofJson?_toJson,
    VideoParams.ofJson?_toJson, audioOfJson?_ofOption, ThumbnailParams.ofJson?_toJson,
    PoolConfig.ofJson?_toJson]

end StreamConfig

namespace SessionConfig

/-- What may be written for a session. -/
def Written (c : SessionConfig) : Json → Prop :=
  Assembled [
    .exact "cameraId" (.ofNat c.cameraId.toNat),
    { name := "streams"
      form := fun written =>
        ∃ items, List.Forall₂ StreamConfig.Written c.streams items ∧ written = .list items }]

/-- A document that a session may be written as. -/
def WrittenAs (c : SessionConfig) (text : String) : Prop :=
  ∃ written, c.Written written ∧ Json.Holds text.toList written

theorem written_toJson (c : SessionConfig) : c.Written c.toJson := by
  have hstreams : List.Forall₂ StreamConfig.Written c.streams
      (c.streams.map StreamConfig.toJson) :=
    List.forall₂_map_right_iff.mpr (List.forall₂_same.mpr fun s _ => s.written_toJson)
  exact ⟨_, _, .keep rfl (.keep ⟨_, hstreams, rfl⟩ .nil), .refl _, rfl⟩

theorem reads {c : SessionConfig} {written : Json} (h : c.Written written) :
    ReadsAs reader written c.toJson := by
  refine Json.reads_object ?_ (by decide) h
  refine .exact (Json.reads_word32 c.cameraId) False.elim ?_
  refine .cons rfl ?_ False.elim .nil
  rintro _ ⟨items, hitems, rfl⟩
  refine Json.reads_list (List.forall₂_map_right_iff.mpr ?_)
  exact (hitems.imp fun _ _ => StreamConfig.reads).flip

theorem ofJson?_toJson (c : SessionConfig) : ofJson? c.toJson = some c := by
  have hstreams : (c.streams.map StreamConfig.toJson).mapM StreamConfig.ofJson? =
      some c.streams := by
    induction c.streams with
    | nil => rfl
    | cons s streams ih => simp [StreamConfig.ofJson?_toJson, ih]
  simp [ofJson?, toJson, Json.natMember?, Json.items?, hstreams]

/-- A session is read back from each document it may be written as. -/
theorem parse_of_writtenAs {c : SessionConfig} {text : String} (h : c.WrittenAs text) :
    parse text = .ok c := by
  obtain ⟨written, hwritten, hholds⟩ := h
  rw [parse, (reads hwritten).document hholds, Json.ok_bind, ofJson?_toJson]
  rfl

/-- Both printed forms of a session are documents it may be written as. -/
theorem writtenAs_printed (c : SessionConfig) :
    c.WrittenAs (String.ofList c.toJson.compact) ∧ c.WrittenAs (String.ofList c.toJson.pretty) := by
  constructor
  · refine ⟨c.toJson, c.written_toJson, ?_⟩
    rw [String.toList_ofList]
    exact (Json.spells_compact _).holds
  · refine ⟨c.toJson, c.written_toJson, ?_⟩
    rw [String.toList_ofList]
    exact (Json.spells_pretty _).holds

/-- Loading a file that holds a usable session gives it. -/
theorem load_of_parse {c : SessionConfig} {text : String} (hparse : parse text = .ok c)
    (hvalid : c.validate = .ok ()) : load (some (Bytes.ofString text)) = .ok c := by
  rw [load, Option.bind_some, Bytes.toString?_ofString]
  show ((parse text).mapError LoadError.text >>= fun config => do
    config.validate.mapError LoadError.config
    return config) = .ok c
  rw [hparse]
  show ((c.validate.mapError LoadError.config) >>= fun _ => Except.ok c) = .ok c
  rw [hvalid]
  rfl

/-- A session is read back from both of its printed forms, and from every other document it may be
written as: with the members of each object in any order and any of those left out that hold their
default. If the session is usable, loading a file with such a document gives it as well. -/
theorem round_trip (c : SessionConfig) :
    parse (String.ofList c.toJson.compact) = .ok c ∧
      parse (String.ofList c.toJson.pretty) = .ok c ∧
      c.WrittenAs (String.ofList c.toJson.compact) ∧
      c.WrittenAs (String.ofList c.toJson.pretty) ∧
      ∀ text, c.WrittenAs text →
        parse text = .ok c ∧
          (c.validate = .ok () → load (some (Bytes.ofString text)) = .ok c) := by
  have hprinted := c.writtenAs_printed
  refine ⟨parse_of_writtenAs hprinted.1, parse_of_writtenAs hprinted.2, hprinted.1, hprinted.2, ?_⟩
  intro text htext
  exact ⟨parse_of_writtenAs htext, load_of_parse (parse_of_writtenAs htext)⟩

/-- A session with one stream, of which the name has to be escaped. -/
def quotedSample : SessionConfig where
  cameraId := 7
  streams := [{
    name := "gate \"north\"\n\tü"
    channelId := 4294967295
    video := ⟨.h265, 1920, 1080, 30, 60, 0⟩
    audio := some ⟨.mp2, 48000, 1, 0⟩ }]

/-- The sample with the last members first and without those that hold their default, apart from
the duration of its files. -/
def quotedSampleWritten : Json :=
  .object [
    ("streams", .list [.object [
      ("splitDurationSecs", .number 60),
      ("audio", .object [
        ("channels", .number 1), ("sampleRate", .number 48000), ("codec", .text "mp2")]),
      ("video", .object [
        ("gop", .number 60), ("frameRate", .number 30), ("height", .number 1080),
        ("width", .number 1920), ("codec", .text "h265")]),
      ("channelId", .number 4294967295),
      ("name", .text "gate \"north\"\n\tü")]]),
    ("cameraId", .number 7)]

theorem written_quotedSample : quotedSample.Written quotedSampleWritten := by
  have hvideo : VideoParams.Written ⟨.h265, 1920, 1080, 30, 60, 0⟩ _ :=
    ⟨_, _, .keep rfl (.keep rfl (.keep rfl (.keep rfl (.keep rfl (.leave rfl .nil))))),
      List.reverse_perm _, rfl⟩
  have haudio : AudioParams.Written ⟨.mp2, 48000, 1, 0⟩ _ :=
    ⟨_, _, .keep rfl (.keep rfl (.keep rfl (.leave rfl .nil))), List.reverse_perm _, rfl⟩
  have hstream : StreamConfig.Written (quotedSample.streams.head (by decide)) _ :=
    ⟨_, _, .keep rfl (.keep rfl (.leave rfl (.keep hvideo (.keep haudio (.leave rfl
      (.keep rfl (.leave rfl .nil))))))), List.reverse_perm _, rfl⟩
  exact ⟨_, _, .keep rfl (.keep ⟨_, .cons hstream .nil, rfl⟩ .nil), List.reverse_perm _, rfl⟩

/-- The sample is read and loaded from a document with its members rearranged and left out. -/
theorem round_trip_rearranged :
    let text := String.ofList quotedSampleWritten.compact
    quotedSample.WrittenAs text ∧ quotedSample.validate = .ok () ∧ parse text = .ok quotedSample ∧
      load (some (Bytes.ofString text)) = .ok quotedSample := by
  have hwritten : quotedSample.WrittenAs (String.ofList quotedSampleWritten.compact) := by
    refine ⟨quotedSampleWritten, written_quotedSample, ?_⟩
    rw [String.toList_ofList]
    exact (Json.spells_compact _).holds
  have hvalid : quotedSample.validate = .ok () := by decide
  have hread := (round_trip quotedSample).2.2.2.2 _ hwritten
  exact ⟨hwritten, hvalid, hread.1, hread.2 hvalid⟩

end SessionConfig

end CameraRecorder

import CameraRecorder.Proofs.Disk.Places
import CameraRecorder.Proofs.Path.Extension
import CameraRecorder.Stream.Worker

/-!
# The audio file beside a video file

The sound of a recording goes to one file, whether or not the video is written under the mark of a
file in progress. That file is never the marked one, and it is the video file itself exactly if the
video has the codec's name for an extension.
-/

namespace CameraRecorder.Path

variable {p q : Path} {init : List Bytes} {name other ext : Bytes}

/-! ## Paths that differ in the last piece -/

/-- A path is absolute if nothing stands before its first slash. -/
theorem isAbsolute_iff_segments : p.isAbsolute = true ↔ ∃ s rest, p.segments = [] :: s :: rest := by
  obtain ⟨bytes⟩ := p
  cases bytes with
  | nil => simp [isAbsolute, segments, split]
  | cons b bytes =>
    cases hrest : split bytes with
    | nil => exact absurd hrest (split_ne_nil bytes)
    | cons s rest => by_cases hb : b = slash <;> simp [isAbsolute, segments, split, hb, hrest]

theorem isAbsolute_congr (hp : p.segments = init ++ [name]) (hq : q.segments = init ++ [other]) :
    p.isAbsolute = q.isAbsolute := by
  rw [Bool.eq_iff_iff, isAbsolute_iff_segments, isAbsolute_iff_segments, hp, hq]
  cases init with
  | nil => simp
  | cons first init => cases init <;> simp

/-- Files of one directory are at one place only if they have one name. -/
theorem place_eq_iff (hp : p.segments = init ++ [name]) (hq : q.segments = init ++ [other])
    (hname : isIdle name = false) (hother : isIdle other = false) (hname' : name ≠ above)
    (hother' : other ≠ above) (home : Location) : p.place home = q.place home ↔ name = other := by
  have hstart : p.start home = q.start home := by
    rw [start, start, isAbsolute_congr hp hq]
  rw [place, place, hstart, names_of_segments hp hname, names_of_segments hq hother,
    Location.after_concat, Location.after_concat, Location.next, Location.next, if_neg hname',
    if_neg hother']
  simp [Location.inside]

/-! ## Another extension -/

theorem stem_ne_nil (hsome : name ≠ []) : (splitName name).1 ≠ [] := by
  rcases splitName_cases name with h | ⟨stem, ext, hstem, -, -, h⟩
  · rwa [h]
  · rwa [h]

theorem isPrefix_stem (name : Bytes) : (splitName name).1 <+: name := by
  rcases splitName_cases name with h | ⟨stem, ext, -, -, hname, h⟩
  · simp only [h, List.prefix_rfl]
  · rw [h, hname]
    exact List.prefix_append _ _

/-- The pieces of a path with another extension. -/
theorem segments_withExtension (h : p.segments = init ++ [name]) (hidle : isIdle name = false)
    (habove : name ≠ above) (hext : ext ≠ []) (hslash : slash ∉ ext) :
    (p.withExtension ext).segments = init ++ [(splitName name).1 ++ dot :: ext] := by
  have hpieces : ∀ piece ∈ init ++ [name], slash ∉ piece := by
    intro piece hpiece
    rw [← h] at hpiece
    exact slash_not_mem_split hpiece
  rw [withExtension_eq h hidle habove hext, segments, ofSegments, split_glue (by simp)]
  refine List.forall_mem_append.mpr ⟨fun piece hpiece => hpieces piece (by simp [hpiece]),
    List.forall_mem_singleton.mpr fun hmem => ?_⟩
  rcases List.mem_append.mp hmem with hstem | hmem
  · exact hpieces name (by simp) ((isPrefix_stem name).subset hstem)
  · rcases List.mem_cons.mp hmem with hdot | hmem
    · exact absurd hdot (by decide)
    · exact hslash hmem

/-! ## Marked paths -/

theorem segments_inProgress (h : p.segments = init ++ [name]) :
    p.inProgress.segments = init ++ [name ++ dot :: inProgressExtension] := by
  obtain ⟨init', last, hlast, hmarked⟩ := p.exists_segments_inProgress
  obtain ⟨rfl, hname⟩ := List.append_inj' (h.symm.trans hlast) rfl
  cases hname
  exact hmarked

theorem inProgressExtension_ne_nil : inProgressExtension ≠ [] := by decide

theorem splitName_inProgress (hsome : name ≠ []) :
    splitName (name ++ dot :: inProgressExtension) = (name, some inProgressExtension) :=
  splitName_append hsome (by decide)

theorem fileExtension?_inProgress (h : p.segments = init ++ [name]) (hsome : name ≠ []) :
    p.inProgress.fileExtension? = some inProgressExtension := by
  obtain ⟨hidle, habove⟩ := isIdle_append_extension hsome inProgressExtension_ne_nil
  rw [fileExtension?_eq (segments_inProgress h) hidle habove, splitName_inProgress hsome]

/-- A path whose mark is taken away is as it was. -/
theorem withExtension_nil_inProgress (h : p.segments = init ++ [name]) (hsome : name ≠ []) :
    p.inProgress.withExtension [] = p := by
  obtain ⟨hidle, habove⟩ := isIdle_append_extension hsome inProgressExtension_ne_nil
  rw [withExtension_eq_ite (segments_inProgress h) hidle habove, splitName_inProgress hsome]
  simp only [List.isEmpty_nil, if_true, List.append_nil]
  rw [← h, ofSegments_segments]

/-! ## Siblings -/

theorem ofString_tag (codec : AudioCodec) : slash ∉ Bytes.ofString codec.tag ∧
    dot ∉ Bytes.ofString codec.tag ∧ Bytes.ofString codec.tag ≠ inProgressExtension := by
  rw [Bytes.ofString_eq]
  cases codec <;> decide

/-- The mark of a file in progress does not change where its sound goes. -/
theorem audioSibling_inProgress (h : p.segments = init ++ [name]) (hsome : name ≠ [])
    (hpart : p.fileExtension? ≠ some inProgressExtension) (codec : AudioCodec) :
    p.inProgress.audioSibling codec = p.audioSibling codec := by
  rw [audioSibling_eq hpart, audioSibling, if_pos (fileExtension?_inProgress h hsome),
    withExtension_nil_inProgress h hsome]

/-- The pieces of a sibling's path. -/
theorem segments_audioSibling (h : p.segments = init ++ [name]) (hidle : isIdle name = false)
    (habove : name ≠ above) (hpart : p.fileExtension? ≠ some inProgressExtension)
    (codec : AudioCodec) : (p.audioSibling codec).segments
      = init ++ [(splitName name).1 ++ dot :: Bytes.ofString codec.tag] := by
  rw [audioSibling_eq hpart]
  exact segments_withExtension h hidle habove (ofString_tag_ne_nil codec) (ofString_tag codec).1

/-- The last piece of a path stays as it is exactly if it has the extension already. -/
theorem stem_append_eq_iff (hsome : name ≠ []) (hdot : dot ∉ ext) :
    (splitName name).1 ++ dot :: ext = name ↔ (splitName name).2 = some ext := by
  constructor
  · intro h
    rw [← h, splitName_append (stem_ne_nil hsome) hdot]
  · intro h
    rcases splitName_cases name with hnone | ⟨stem, ext', -, -, hname, hcut⟩
    · rw [hnone] at h
      cases h
    · rw [hcut] at h ⊢
      rw [← Option.some.inj h, hname]

/-- The name of the sibling is not the marked one: the two have different extensions. -/
theorem stem_append_tag_ne (hsome : name ≠ []) (codec : AudioCodec) :
    (splitName name).1 ++ dot :: Bytes.ofString codec.tag ≠ name ++ dot :: inProgressExtension := by
  obtain ⟨-, hdot, hpart⟩ := ofString_tag codec
  intro heq
  have hcut := congrArg (fun n => (splitName n).2) heq
  simp only [splitName_append (stem_ne_nil hsome) hdot, splitName_inProgress hsome] at hcut
  exact hpart (Option.some.inj hcut)

/-- **The sound of a recording goes to one file.** If a path names a file that is not marked as in
progress already, the audio file beside it is the same with and without the mark, so all streams
name it alike; it is at another place than the marked file; and it is the file itself, by name and
by place, exactly if that has the codec's name for an extension. -/
theorem sound_goes_beside_video (hname : p.segments.getLast? = some name) (hsome : name ≠ [])
    (hhere : name ≠ here) (habove : name ≠ above)
    (hpart : p.fileExtension? ≠ some inProgressExtension) (codec : AudioCodec) :
    p.inProgress.audioSibling codec = p.audioSibling codec ∧
      (∀ stream : Stream, (stream.writePath p).audioSibling codec = p.audioSibling codec) ∧
      p.audioSibling codec ≠ p.inProgress ∧
      (p.audioSibling codec = p ↔ p.fileExtension? = some (Bytes.ofString codec.tag)) ∧
      ∀ home, (p.audioSibling codec).place home ≠ p.inProgress.place home ∧
        ((p.audioSibling codec).place home = p.place home ↔
          p.fileExtension? = some (Bytes.ofString codec.tag)) := by
  obtain ⟨init, h⟩ := List.getLast?_eq_some_iff.mp hname
  have hidle : isIdle name = false := by simp [isIdle, hsome, hhere]
  obtain ⟨hidleSibling, haboveSibling⟩ :=
    isIdle_append_extension (stem_ne_nil hsome) (ofString_tag_ne_nil codec)
  obtain ⟨hidleMarked, haboveMarked⟩ :=
    isIdle_append_extension hsome inProgressExtension_ne_nil
  have hmark := audioSibling_inProgress h hsome hpart codec
  have hsibling := segments_audioSibling h hidle habove hpart codec
  have hsame : (splitName name).1 ++ dot :: Bytes.ofString codec.tag = name
      ↔ p.fileExtension? = some (Bytes.ofString codec.tag) := by
    rw [fileExtension?_eq h hidle habove, stem_append_eq_iff hsome (ofString_tag codec).2.1]
  have hmarked (home : Location) : (p.audioSibling codec).place home ≠ p.inProgress.place home := by
    rw [ne_eq, place_eq_iff hsibling (segments_inProgress h) hidleSibling hidleMarked haboveSibling
      haboveMarked]
    exact stem_append_tag_ne hsome codec
  have hplace (home : Location) : (p.audioSibling codec).place home = p.place home
      ↔ p.fileExtension? = some (Bytes.ofString codec.tag) := by
    rw [place_eq_iff hsibling h hidleSibling hidle haboveSibling habove, hsame]
  refine ⟨hmark, fun stream => ?_, fun heq => ?_, ⟨fun heq => ?_, fun heq => ?_⟩,
    fun home => ⟨hmarked home, hplace home⟩⟩
  · rw [Stream.writePath]
    split
    · exact hmark
    · rfl
  · exact hmarked .root (congrArg (·.place .root) heq)
  · exact (hplace .root).mp (congrArg (·.place .root) heq)
  · rw [← ofSegments_segments (p.audioSibling codec), hsibling, hsame.mpr heq, ← h,
      ofSegments_segments]

/-- `a/.b.`, a hidden file whose extension is empty. -/
def hiddenVideo : Path := ⟨[0x61, 0x2f, 0x2e, 0x62, 0x2e]⟩

/-- `a/.b.mp2`, which has the name of a codec for an extension. -/
def soundNamedVideo : Path := ⟨[0x61, 0x2f, 0x2e, 0x62, 0x2e, 0x6d, 0x70, 0x32]⟩

/-- The sound of the one goes to the other, whether or not the video is marked. That of the other
goes to the video itself, unless it has another codec. -/
theorem sound_goes_beside_hidden_video :
    hiddenVideo.audioSibling .mp2 = soundNamedVideo ∧
      hiddenVideo.inProgress.audioSibling .mp2 = soundNamedVideo ∧
      soundNamedVideo.inProgress.audioSibling .mp2 = soundNamedVideo ∧
      soundNamedVideo.audioSibling .mp3 ≠ soundNamedVideo := by
  have hhidden : hiddenVideo.audioSibling .mp2 = soundNamedVideo := by decide +kernel
  have hextension : soundNamedVideo.fileExtension? = some (Bytes.ofString AudioCodec.mp2.tag) := by
    decide +kernel
  have hlast : hiddenVideo.segments.getLast? = some [0x2e, 0x62, 0x2e] := by decide
  have hlast' : soundNamedVideo.segments.getLast?
      = some [0x2e, 0x62, 0x2e, 0x6d, 0x70, 0x32] := by decide
  obtain ⟨hmark, -⟩ := sound_goes_beside_video hlast (by decide) (by decide) (by decide)
    (by decide) .mp2
  have hnamed (codec : AudioCodec) := sound_goes_beside_video hlast' (by decide) (by decide)
    (by decide) (by decide) codec
  refine ⟨hhidden, hmark.trans hhidden, ?_, ?_⟩
  · exact (hnamed .mp2).1.trans ((hnamed .mp2).2.2.2.1.mpr hextension)
  · rw [ne_eq, (hnamed .mp3).2.2.2.1]
    decide +kernel

end CameraRecorder.Path

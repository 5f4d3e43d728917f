import CameraRecorder.Proofs.Path

/-!
# Extensions

The extension of a file name begins at its last dot. Another extension only changes what stands
behind that dot, so a file's audio sibling differs from it in the extension alone.
-/

namespace CameraRecorder

namespace Path

variable {p : Path} {init : List Bytes} {name base ext : Bytes} {b : UInt8}

theorem splitName_append {stem : Bytes} (hstem : stem ≠ []) (h : dot ∉ ext) :
    splitName (stem ++ dot :: ext) = (stem, some ext) := by
  have hbefore : ∀ b ∈ ext.reverse, decide (b ≠ dot) = true := by
    intro b hb
    rw [decide_eq_true_iff]
    rintro rfl
    exact h (List.mem_reverse.mp hb)
  have hreverse : (stem ++ dot :: ext).reverse = ext.reverse ++ dot :: stem.reverse := by simp
  have hdrop : (stem ++ dot :: ext).reverse.dropWhile (· ≠ dot) = dot :: stem.reverse := by
    rw [hreverse, List.dropWhile_append_of_pos hbefore]
    simp
  have htake : (stem ++ dot :: ext).reverse.takeWhile (· ≠ dot) = ext.reverse := by
    rw [hreverse, List.takeWhile_append_of_pos hbefore]
    simp
  obtain ⟨b, others, hothers⟩ := List.exists_cons_of_ne_nil (List.reverse_ne_nil_iff.mpr hstem)
  rw [splitName, hdrop, hothers, htake]
  simp [← hothers]

/-- A name has no extension, or is cut at its last dot. -/
theorem splitName_cases (name : Bytes) :
    splitName name = (name, none) ∨ ∃ stem ext, stem ≠ [] ∧ dot ∉ ext ∧
      name = stem ++ dot :: ext ∧ splitName name = (stem, some ext) := by
  cases hdrop : name.reverse.dropWhile (· ≠ dot) with
  | nil => exact .inl (by rw [splitName, hdrop])
  | cons d before =>
    have hd : d = dot := by
      have hhead := List.head?_dropWhile_not (· ≠ dot) name.reverse
      rw [hdrop] at hhead
      simpa using hhead
    cases before with
    | nil => exact .inl (by rw [splitName, hdrop])
    | cons b stem =>
      have hcut := List.takeWhile_append_dropWhile (p := (· ≠ dot)) (l := name.reverse)
      rw [hdrop, hd] at hcut
      refine .inr ⟨(b :: stem).reverse, (name.reverse.takeWhile (· ≠ dot)).reverse, by simp, ?_, ?_,
        by rw [splitName, hdrop]⟩
      · intro hmem
        simpa using List.mem_takeWhile_imp (List.mem_reverse.mp hmem)
      · simpa using (congrArg List.reverse hcut).symm

/-- More bytes at the end of the last piece are more bytes at the end of the path. -/
theorem glue_append (init : List Bytes) (last more : Bytes) :
    glue (init ++ [last ++ more]) = glue (init ++ [last]) ++ more := by
  induction init with
  | nil => rfl
  | cons piece init ih =>
    have hglue (end_ : Bytes) :
        glue (piece :: (init ++ [end_])) = piece ++ slash :: glue (init ++ [end_]) := by
      cases init <;> rfl
    rw [List.cons_append, List.cons_append, hglue, hglue, ih]
    simp

/-- A last piece that stands for something, and not for the directory above, names the file. -/
theorem fileName?_eq (h : p.segments = init ++ [name]) (hidle : isIdle name = false)
    (habove : name ≠ above) : p.fileName? = some name := by
  simp [fileName?, names, h, List.filter_append, hidle, habove]

theorem fileExtension?_eq (h : p.segments = init ++ [name]) (hidle : isIdle name = false)
    (habove : name ≠ above) : p.fileExtension? = (splitName name).2 := by
  rw [fileExtension?, fileName?_eq h hidle habove, Option.bind_some]

/-- Another extension changes the last piece only. -/
theorem withExtension_eq_ite (h : p.segments = init ++ [name]) (hidle : isIdle name = false)
    (habove : name ≠ above) (ext : Bytes) :
    p.withExtension ext
      = ofSegments (init ++ [(splitName name).1 ++ if ext.isEmpty then [] else dot :: ext]) := by
  have htrim : trimIdle (init ++ [name]) = init ++ [name] := by simp [trimIdle, hidle]
  rw [withExtension, fileName?_eq h hidle habove]
  simp [h, htrim]

theorem withExtension_eq (h : p.segments = init ++ [name]) (hidle : isIdle name = false)
    (habove : name ≠ above) (hext : ext ≠ []) :
    p.withExtension ext = ofSegments (init ++ [(splitName name).1 ++ dot :: ext]) := by
  rw [withExtension_eq_ite h hidle habove, if_neg (by simpa using hext)]

/-! ## Names with an extension -/

theorem isIdle_eq_false_of_length {piece : Bytes} (h : 2 ≤ piece.length) :
    isIdle piece = false := by
  have hsome : piece ≠ [] := by
    rintro rfl
    simp at h
  have hhere : piece ≠ here := by
    rintro rfl
    simp [here] at h
  simp [isIdle, hsome, hhere]

/-- A name with an extension stands for something, and not for the directory above. -/
theorem isIdle_append_extension (hsome : name ≠ []) (hext : ext ≠ []) :
    isIdle (name ++ dot :: ext) = false ∧ name ++ dot :: ext ≠ above := by
  have hname := List.length_pos_iff.mpr hsome
  have hext' := List.length_pos_iff.mpr hext
  have hlong : 3 ≤ (name ++ dot :: ext).length := by
    rw [List.length_append, List.length_cons]
    omega
  refine ⟨isIdle_eq_false_of_length (by omega), fun h => ?_⟩
  rw [h] at hlong
  simp [above] at hlong

/-- The last piece of a path that ends in an extension. -/
theorem exists_segments_extension (base : Bytes) (hb : b ≠ slash) (hext : ext ≠ [])
    (hslash : slash ∉ ext) :
    ∃ init last, split base = init ++ [last] ∧
      segments ⟨base ++ b :: dot :: ext⟩ = init ++ [(last ++ [b]) ++ dot :: ext] ∧
      isIdle ((last ++ [b]) ++ dot :: ext) = false ∧ (last ++ [b]) ++ dot :: ext ≠ above := by
  have hmore : slash ∉ b :: dot :: ext := by
    simp only [List.mem_cons, not_or]
    exact ⟨hb.symm, by decide, hslash⟩
  obtain ⟨init, last, hbase, hall⟩ := exists_split_append base hmore
  refine ⟨init, last, hbase, ?_, isIdle_append_extension (by simp) hext⟩
  rw [segments, hall]
  simp

theorem fileExtension?_mk (hb : b ≠ slash) (hext : ext ≠ []) (hslash : slash ∉ ext)
    (hdot : dot ∉ ext) : fileExtension? ⟨base ++ b :: dot :: ext⟩ = some ext := by
  obtain ⟨init, last, -, hall, hidle, habove⟩ := exists_segments_extension base hb hext hslash
  rw [fileExtension?_eq hall hidle habove, splitName_append (by simp) hdot]

/-- The new extension takes the place of the old one. -/
theorem withExtension_mk {new : Bytes} (hb : b ≠ slash) (hext : ext ≠ []) (hslash : slash ∉ ext)
    (hdot : dot ∉ ext) (hnew : new ≠ []) :
    withExtension ⟨base ++ b :: dot :: ext⟩ new = ⟨base ++ b :: dot :: new⟩ := by
  obtain ⟨init, last, hbase, hall, hidle, habove⟩ := exists_segments_extension base hb hext hslash
  rw [withExtension_eq hall hidle habove hnew, splitName_append (by simp) hdot, ofSegments,
    List.append_assoc, glue_append, ← hbase, glue_split]
  rfl

/-! ## Audio siblings -/

theorem audioSibling_eq (h : p.fileExtension? ≠ some inProgressExtension) (codec : AudioCodec) :
    p.audioSibling codec = p.withExtension (Bytes.ofString codec.tag) := by
  rw [audioSibling, if_neg h]

theorem ofString_tag_ne_nil (codec : AudioCodec) : Bytes.ofString codec.tag ≠ [] := by
  rw [Bytes.ofString_eq]
  cases codec <;> decide

/-- The audio file beside a file with an extension has the name of the codec in its place. -/
theorem audioSibling_mk (hb : b ≠ slash) (hext : ext ≠ []) (hslash : slash ∉ ext)
    (hdot : dot ∉ ext) (hpart : ext ≠ inProgressExtension) (codec : AudioCodec) :
    audioSibling ⟨base ++ b :: dot :: ext⟩ codec
      = ⟨base ++ b :: dot :: Bytes.ofString codec.tag⟩ := by
  have hfinished : fileExtension? ⟨base ++ b :: dot :: ext⟩ ≠ some inProgressExtension := by
    rw [fileExtension?_mk hb hext hslash hdot]
    exact fun h => hpart (Option.some.inj h)
  rw [audioSibling_eq hfinished,
    withExtension_mk hb hext hslash hdot (ofString_tag_ne_nil codec)]

end Path

end CameraRecorder

import CameraRecorder.Disk.FileWriter
import Mathlib.Data.List.DropRight

/-!
# The names of a path

What a path leads to is told by where it begins and by its names. The directory that a file is in
begins where the file's path does and has all its names but the last (`Path.names_parent`); marking
a file as in progress only changes the last piece of its path.
-/

namespace CameraRecorder

namespace Path

/-! ## Pieces -/

theorem slash_not_mem_split {bytes piece : Bytes} (h : piece ∈ split bytes) : slash ∉ piece := by
  induction bytes generalizing piece with
  | nil =>
    obtain rfl := List.mem_singleton.mp h
    exact List.not_mem_nil
  | cons b rest ih =>
    simp only [split] at h
    by_cases hb : b = slash
    · rw [if_pos hb] at h
      rcases List.mem_cons.mp h with rfl | h
      · exact List.not_mem_nil
      · exact ih h
    · rw [if_neg hb] at h
      cases hrest : split rest with
      | nil => exact absurd hrest (split_ne_nil rest)
      | cons first others =>
        rw [hrest] at h ih
        rcases List.mem_cons.mp h with rfl | h
        · have hfirst := ih List.mem_cons_self
          simp [hfirst, Ne.symm hb]
        · exact ih (List.mem_cons_of_mem _ h)

/-- A piece ends at the first slash. -/
theorem split_append_slash {piece : Bytes} (h : slash ∉ piece) (rest : Bytes) :
    split (piece ++ slash :: rest) = piece :: split rest := by
  induction piece with
  | nil => simp [split]
  | cons b piece ih =>
    obtain ⟨hb, hpiece⟩ := not_or.mp (List.mem_cons.not.mp h)
    simp [split, ih hpiece, Ne.symm hb]

theorem split_of_not_mem {piece : Bytes} (h : slash ∉ piece) : split piece = [piece] := by
  induction piece with
  | nil => rfl
  | cons b piece ih =>
    obtain ⟨hb, hpiece⟩ := not_or.mp (List.mem_cons.not.mp h)
    simp [split, ih hpiece, Ne.symm hb]

/-- Pieces that are put together are cut where they were put together. -/
theorem split_glue {pieces : List Bytes} (hsome : pieces ≠ []) (h : ∀ s ∈ pieces, slash ∉ s) :
    split (glue pieces) = pieces := by
  induction pieces with
  | nil => exact absurd rfl hsome
  | cons piece pieces ih =>
    obtain ⟨hpiece, hpieces⟩ := List.forall_mem_cons.mp h
    cases pieces with
    | nil => exact split_of_not_mem hpiece
    | cons next pieces =>
      show split (piece ++ slash :: glue (next :: pieces)) = _
      rw [split_append_slash hpiece, ih (List.cons_ne_nil _ _) hpieces]

/-- Bytes without a slash are added to the last piece. -/
theorem exists_split_append (bytes : Bytes) {more : Bytes} (h : slash ∉ more) :
    ∃ init last, split bytes = init ++ [last] ∧
      split (bytes ++ more) = init ++ [last ++ more] := by
  induction bytes with
  | nil => exact ⟨[], [], rfl, split_of_not_mem h⟩
  | cons b rest ih =>
    obtain ⟨init, last, hrest, hmore⟩ := ih
    by_cases hb : b = slash
    · exact ⟨[] :: init, last, by simp [split, hb, hrest], by simp [split, hb, hmore]⟩
    · cases init with
      | nil => exact ⟨[], b :: last, by simp [split, hb, hrest], by simp [split, hb, hmore]⟩
      | cons first init =>
        exact ⟨(b :: first) :: init, last, by simp [split, hb, hrest],
          by simp [split, hb, hmore]⟩

/-! ## What stands for nothing -/

theorem trimIdle_eq (pieces : List Bytes) : trimIdle pieces = pieces.rdropWhile isIdle := rfl

/-- Trimming takes no name away. -/
theorem filter_trimIdle (pieces : List Bytes) :
    (trimIdle pieces).filter (!isIdle ·) = pieces.filter (!isIdle ·) := by
  have hidle : (pieces.reverse.takeWhile isIdle).filter (!isIdle ·) = [] := by
    refine List.filter_eq_nil_iff.mpr fun s hs => ?_
    simp [List.mem_takeWhile_imp hs]
  have hall : pieces.reverse.filter (!isIdle ·)
      = (pieces.reverse.dropWhile isIdle).filter (!isIdle ·) := by
    conv_lhs => rw [← List.takeWhile_append_dropWhile (p := isIdle) (l := pieces.reverse)]
    rw [List.filter_append, hidle, List.nil_append]
  rw [trimIdle, List.filter_reverse, ← hall, List.filter_reverse, List.reverse_reverse]

/-- What is left after trimming ends in a name. -/
theorem trimIdle_eq_nil_or (pieces : List Bytes) :
    trimIdle pieces = [] ∨
      ∃ init name, trimIdle pieces = init ++ [name] ∧ isIdle name = false := by
  rcases List.eq_nil_or_concat (trimIdle pieces) with hnil | ⟨init, name, h⟩
  · exact .inl hnil
  · rw [List.concat_eq_append] at h
    have hsome : pieces.rdropWhile isIdle ≠ [] := by
      rw [← trimIdle_eq, h]
      simp
    refine .inr ⟨init, name, h, ?_⟩
    have hlast := List.rdropWhile_last_not isIdle pieces hsome
    simpa [← trimIdle_eq, h] using hlast

theorem isPrefix_trimIdle (pieces : List Bytes) : trimIdle pieces <+: pieces :=
  List.rdropWhile_prefix isIdle pieces

/-- Without the last name, the names are all but the last. -/
theorem filter_dropLast_trimIdle (pieces : List Bytes) :
    (trimIdle pieces).dropLast.filter (!isIdle ·) = (pieces.filter (!isIdle ·)).dropLast := by
  rw [← filter_trimIdle pieces]
  rcases trimIdle_eq_nil_or pieces with h | ⟨init, name, h, hname⟩
  · rw [h]
    rfl
  · rw [h, List.filter_append, List.dropLast_concat]
    simp [hname]

/-! ## The directory of a file -/

/-- The pieces of the path of a file's directory. -/
def parentPieces (p : Path) : List Bytes := trimIdle (trimIdle p.segments).dropLast

theorem filter_parentPieces (p : Path) : p.parentPieces.filter (!isIdle ·) = p.names.dropLast := by
  rw [parentPieces, filter_trimIdle, filter_dropLast_trimIdle, names]

theorem isPrefix_parentPieces (p : Path) : p.parentPieces <+: p.segments :=
  ((isPrefix_trimIdle _).trans (List.dropLast_prefix _)).trans (isPrefix_trimIdle _)

theorem parent_eq (p : Path) :
    p.parent = if p.parentPieces = [] then ⟨p.bytes.takeWhile (· = slash)⟩
    else ofSegments p.parentPieces := by
  unfold parent
  cases h : p.parentPieces with
  | nil =>
    rw [parentPieces] at h
    rw [h]
    rfl
  | cons piece pieces =>
    rw [parentPieces] at h
    rw [h]
    rfl

/-- The names of a path that ends in one. -/
theorem names_of_segments {p : Path} {init : List Bytes} {name : Bytes}
    (h : p.segments = init ++ [name]) (hname : isIdle name = false) :
    p.names = init.filter (!isIdle ·) ++ [name] := by
  rw [names, h, List.filter_append]
  simp [hname]

/-- **The directory of a file has the names of the file but the last.** -/
theorem names_parent (p : Path) : p.parent.names = p.names.dropLast := by
  rw [parent_eq, ← filter_parentPieces]
  by_cases h : p.parentPieces = []
  · rw [if_pos h, h]
    -- nothing but slashes is left
    have hnone : ∀ bytes : Bytes, (∀ b ∈ bytes, b = slash) →
        (split bytes).filter (!isIdle ·) = [] := by
      intro bytes hall
      induction bytes with
      | nil => rfl
      | cons b rest ih =>
        obtain ⟨rfl, hrest⟩ := List.forall_mem_cons.mp hall
        simpa [split, isIdle] using ih hrest
    refine hnone _ fun b hb => ?_
    simpa using List.mem_takeWhile_imp hb
  · rw [if_neg h, names, segments, ofSegments, split_glue h fun s hs => ?_]
    exact slash_not_mem_split (p.isPrefix_parentPieces.subset hs)

/-- The first pieces of a path begin as the path does, if they end in a name. -/
theorem head?_glue {init : List Bytes} {name bytes : Bytes} (h : init ++ [name] <+: split bytes)
    (hname : name ≠ []) : (glue (init ++ [name])).head? = bytes.head? := by
  have hglue (first : Bytes) (init : List Bytes) :
      glue (first :: init ++ [name]) = first ++ slash :: glue (init ++ [name]) := by
    cases init <;> rfl
  cases bytes with
  | nil =>
    obtain rfl : init = [] := List.eq_nil_of_length_eq_zero (by simpa [split] using h.length_le)
    obtain ⟨rfl, -⟩ := List.cons_prefix_cons.mp h
    exact absurd rfl hname
  | cons b rest =>
    have hfirst : (split (b :: rest)).head? = some (if b = slash then [] else
        b :: (split rest).headD []) := by
      by_cases hb : b = slash
      · simp [split, hb]
      · cases hrest : split rest with
        | nil => exact absurd hrest (split_ne_nil rest)
        | cons piece pieces => simp [split, hb, hrest]
    obtain ⟨others, hothers⟩ := h
    cases init with
    | nil =>
      rw [← hothers] at hfirst
      by_cases hb : b = slash <;> simp_all [glue]
    | cons first init =>
      rw [hglue]
      rw [← hothers] at hfirst
      by_cases hb : b = slash <;> simp_all

/-- The directory of a file begins where the file's path does. -/
theorem isAbsolute_parent (p : Path) : p.parent.isAbsolute = p.isAbsolute := by
  rw [parent_eq]
  have hprefix := p.isPrefix_parentPieces
  rcases trimIdle_eq_nil_or (trimIdle p.segments).dropLast with h | ⟨init, name, h, hname⟩ <;>
    rw [← parentPieces] at h
  · rw [if_pos h]
    obtain ⟨bytes⟩ := p
    cases bytes with
    | nil => rfl
    | cons b rest => by_cases hb : b = slash <;> simp [isAbsolute, hb]
  · rw [h] at hprefix ⊢
    have hsome : name ≠ [] := by
      rintro rfl
      cases hname
    rw [if_neg (by simp), isAbsolute, isAbsolute, ofSegments, head?_glue hprefix hsome]

/-! ## Files in progress -/

/-- The mark of a file in progress is added to the last piece. -/
theorem exists_segments_inProgress (p : Path) :
    ∃ init last, p.segments = init ++ [last] ∧
      p.inProgress.segments = init ++ [last ++ dot :: inProgressExtension] :=
  exists_split_append p.bytes (by decide)

theorem inProgress_ne (p : Path) : p.inProgress ≠ p := by
  intro h
  have hlength := congrArg (·.bytes.length) h
  simp [inProgress, append, inProgressExtension] at hlength

theorem isAbsolute_inProgress (p : Path) : p.inProgress.isAbsolute = p.isAbsolute := by
  obtain ⟨bytes⟩ := p
  cases bytes with
  | nil => rfl
  | cons b rest => rfl

end Path

end CameraRecorder

import CameraRecorder.Proofs.ThumbnailBox.Codec

/-!
# The last box

The last box in some bytes is the one that can be read at the greatest offset (`findLast_eq_some`).
It can be found from the end, in a window that shrinks (`findLastWithin`): the last tag in the
window either marks a box, or the window is cut within it, so that the tag itself no longer fits and
every earlier one still does. Whatever stands before the last box, tags and whole boxes included,
makes no difference.
-/

namespace CameraRecorder

namespace ThumbnailBox

variable {b : ThumbnailBox} {bytes : Bytes} {i : Nat}

/-! ## Where the tag stands -/

/-- The tag stands at an offset. -/
def TagAt (bytes : Bytes) (offset : Nat) : Prop := (bytes.drop offset).take 3 = tag

instance (bytes : Bytes) (offset : Nat) : Decidable (TagAt bytes offset) :=
  inferInstanceAs (Decidable ((bytes.drop offset).take 3 = tag))

/-- A box has the tag behind its size. -/
theorem tagAt_of_decode (h : decode (bytes.drop i) = .ok b) : TagAt bytes (i + 4) := by
  obtain ⟨-, htag, -⟩ := decode_eq_ok.mp h
  rwa [List.drop_drop] at htag

theorem length_of_decode (h : decode bytes = .ok b) : headLength ≤ bytes.length :=
  (decode_eq_ok.mp h).1

theorem TagAt.getElem? {t k : Nat} (h : TagAt bytes t) (hk : k < 3) : bytes[t + k]? = tag[k]? := by
  rw [← List.getElem?_drop, ← List.getElem?_take_of_lt hk, h]

/-- The tag does not overlap with itself. -/
theorem TagAt.not_next {t : Nat} (h : TagAt bytes t) : ¬ TagAt bytes (t + 1) := by
  intro hnext
  have hsecond : bytes[t + 1]? = some 0x68 := h.getElem? (by decide)
  have hfirst : bytes[t + 1 + 0]? = some 0x74 := hnext.getElem? (by decide)
  rw [hsecond] at hfirst
  cases hfirst

/-! ## Candidates -/

/-- The last box among the candidates, whose offsets are counted on from `start`. -/
def lastAmong (start : Nat) (bytes : Bytes) : Option (Nat × ThumbnailBox) :=
  (candidates start bytes).reverse.findSome? fun found =>
    match decode found.2 with
    | .ok box => some (found.1, box)
    | .error _ => none

/-- The last box is one that begins later, or else the one that the bytes begin with. -/
theorem lastAmong_cons (start : Nat) (byte : UInt8) (rest : Bytes) :
    lastAmong start (byte :: rest)
      = (lastAmong (start + 1) rest).or
          ((decode (byte :: rest)).toOption.map fun box => (start, box)) := by
  unfold lastAmong
  rw [candidates]
  by_cases htag : (rest.drop 3).take 3 = tag
  · rw [if_pos htag, List.reverse_cons, List.findSome?_append, List.findSome?_singleton]
    congr 1
    cases decode (byte :: rest) <;> rfl
  · -- without the tag there is no box to read
    rw [if_neg htag]
    cases hread : decode (byte :: rest) with
    | error cause => simp [Except.toOption]
    | ok box => exact absurd (decode_eq_ok.mp hread).2.1 htag

/-- No box is read at any offset. -/
def Boxless (bytes : Bytes) : Prop := ∀ j b, decode (bytes.drop j) ≠ .ok b

/-- A box is read at an offset, and none behind it. -/
structure LastBox (bytes : Bytes) (i : Nat) (b : ThumbnailBox) : Prop where
  reads : decode (bytes.drop i) = .ok b
  last : ∀ j b', i < j → decode (bytes.drop j) ≠ .ok b'

theorem boxless_nil : Boxless [] := by
  intro j b h
  have hlength := length_of_decode h
  rw [List.drop_nil] at hlength
  exact absurd hlength (by decide)

theorem LastBox.unique {i' : Nat} {b' : ThumbnailBox} (h : LastBox bytes i b)
    (h' : LastBox bytes i' b') : i = i' ∧ b = b' := by
  have hle : ¬ i < i' := fun hlt => h.last i' b' hlt h'.reads
  have hge : ¬ i' < i := fun hlt => h'.last i b hlt h.reads
  obtain rfl : i = i' := by omega
  have hsame := h.reads.symm.trans h'.reads
  cases hsame
  exact ⟨rfl, rfl⟩

/-- Among the candidates there is the last box, if there is a box at all. -/
theorem lastAmong_cases (start : Nat) (bytes : Bytes) :
    lastAmong start bytes = none ∧ Boxless bytes ∨
      ∃ i b, lastAmong start bytes = some (start + i, b) ∧ LastBox bytes i b := by
  induction bytes generalizing start with
  | nil => exact .inl ⟨rfl, boxless_nil⟩
  | cons byte rest ih =>
    rw [lastAmong_cons]
    rcases ih (start + 1) with ⟨hnone, hrest⟩ | ⟨i, b, hfound, hlast⟩
    · rw [hnone, Option.none_or]
      cases hread : decode (byte :: rest) with
      | error cause =>
        refine .inl ⟨rfl, ?_⟩
        intro j b h
        cases j with
        | zero => cases hread.symm.trans h
        | succ j => exact hrest j b h
      | ok box =>
        refine .inr ⟨0, box, rfl, hread, ?_⟩
        intro j b' hj
        cases j with
        | zero => cases hj
        | succ j => exact hrest j b'
    · refine .inr ⟨i + 1, b, ?_, hlast.reads, ?_⟩
      · rw [hfound, Option.some_or, Nat.add_assoc, Nat.add_comm 1 i]
      · intro j b' hj
        cases j with
        | zero => cases hj
        | succ j => exact hlast.last j b' (by omega)

/-! ## The last box of all -/

theorem findLast_cases (bytes : Bytes) :
    findLast bytes = none ∧ Boxless bytes ∨
      ∃ i b, findLast bytes = some (i, b) ∧ LastBox bytes i b := by
  have hcases := lastAmong_cases 0 bytes
  simp only [Nat.zero_add] at hcases
  rw [findLast_eq]
  exact hcases

theorem findLast_eq_some : findLast bytes = some (i, b) ↔ LastBox bytes i b := by
  rcases findLast_cases bytes with ⟨hnone, hboxless⟩ | ⟨i', b', hfound, hlast⟩
  · rw [hnone]
    constructor
    · intro h
      cases h
    · intro h
      exact absurd h.reads (hboxless i b)
  · rw [hfound]
    constructor
    · intro h
      cases h
      exact hlast
    · intro h
      obtain ⟨rfl, rfl⟩ := h.unique hlast
      rfl

theorem findLast_eq_none : findLast bytes = none ↔ Boxless bytes := by
  rcases findLast_cases bytes with ⟨hnone, hboxless⟩ | ⟨i, b, hfound, hlast⟩
  · simp [hnone, hboxless]
  · rw [hfound]
    constructor
    · intro h
      cases h
    · intro h
      exact absurd hlast.reads (h i b)

/-! ## A window that shrinks -/

/-- The last of the first `count` offsets at which the tag stands. -/
def lastTag? (bytes : Bytes) : Nat → Option Nat
  | 0 => none
  | count + 1 => if TagAt bytes count then some count else lastTag? bytes count

theorem lastTag?_eq_none {count : Nat} (h : lastTag? bytes count = none) :
    ∀ t < count, ¬ TagAt bytes t := by
  induction count with
  | zero =>
    intro t ht
    omega
  | succ count ih =>
    rw [lastTag?] at h
    split at h
    · cases h
    · rename_i hcount
      intro t ht
      by_cases htop : t = count
      · rwa [htop]
      · exact ih h t (by omega)

theorem lastTag?_eq_some {count t : Nat} (h : lastTag? bytes count = some t) :
    t < count ∧ TagAt bytes t ∧ ∀ t', t < t' → t' < count → ¬ TagAt bytes t' := by
  induction count with
  | zero => cases h
  | succ count ih =>
    rw [lastTag?] at h
    split at h
    · rename_i hcount
      cases h
      exact ⟨by omega, hcount, fun t' _ _ => by omega⟩
    · rename_i hcount
      obtain ⟨hlt, htag, hlater⟩ := ih h
      refine ⟨by omega, htag, ?_⟩
      intro t' hafter hbefore
      by_cases htop : t' = count
      · rwa [htop]
      · exact hlater t' hafter (by omega)

/-- How long a box is at least up to the end of its tag and its kind. -/
def markLength : Nat := 8

/-- Looks for the last box of which the whole tag stands within the first `stop` bytes. The last tag
there marks a box, or the search goes on in front of the last byte of that tag. -/
def findLastWithin (bytes : Bytes) (stop : Nat) : Option (Nat × ThumbnailBox) :=
  if stop < markLength then none
  else match _h : lastTag? bytes (stop - 2) with
    | none => none
    | some t =>
      if t < 4 then none
      else match decode (bytes.drop (t - 4)) with
        | .ok box => some (t - 4, box)
        | .error _ => findLastWithin bytes (t - 4 + 6)
termination_by stop
decreasing_by
  have := (lastTag?_eq_some _h).1
  omega

/-- No box begins with a tag that is too close to the front. -/
theorem boxless_of_tags {stop : Nat}
    (houtside : ∀ j b, stop < j + 7 → decode (bytes.drop j) ≠ .ok b)
    (htags : ∀ t, 4 ≤ t → t < stop - 2 → ¬ TagAt bytes t) : Boxless bytes := by
  intro j b h
  by_cases hj : stop < j + 7
  · exact houtside j b hj h
  · exact htags (j + 4) (by omega) (by omega) (tagAt_of_decode h)

/-- The search goes on as long as no box is found, and skips none: outside the window there is no
box, and the window ends with the bytes or within a tag. -/
theorem findLastWithin_eq (bytes : Bytes) (stop : Nat)
    (houtside : ∀ j b, stop < j + 7 → decode (bytes.drop j) ≠ .ok b)
    (hend : stop = bytes.length ∨ 2 ≤ stop ∧ TagAt bytes (stop - 2)) :
    findLastWithin bytes stop = findLast bytes := by
  fun_induction findLastWithin bytes stop with
  | case1 stop hshort =>
    apply Eq.symm
    apply findLast_eq_none.mpr
    intro j b h
    by_cases hj : stop < j + 7
    · exact houtside j b hj h
    · -- a tag at the end of seven bytes marks no box, and within a tag none begins
      unfold markLength at hshort
      obtain ⟨rfl, rfl⟩ : j = 0 ∧ stop = 7 := by omega
      rcases hend with hlength | ⟨-, hnext⟩
      · have hlong := length_of_decode h
        rw [List.drop_zero, ← hlength] at hlong
        exact absurd hlong (by decide)
      · exact (tagAt_of_decode h).not_next hnext
  | case2 stop hlong hnone =>
    apply Eq.symm
    apply findLast_eq_none.mpr
    apply boxless_of_tags houtside
    intro t _ hstop
    exact lastTag?_eq_none hnone t hstop
  | case3 stop hlong t htag hfront =>
    obtain ⟨-, -, hlater⟩ := lastTag?_eq_some htag
    apply Eq.symm
    apply findLast_eq_none.mpr
    apply boxless_of_tags houtside
    intro t' ht' hstop
    exact hlater t' (by omega) hstop
  | case4 stop hlong t htag hfront box hread =>
    obtain ⟨-, -, hlater⟩ := lastTag?_eq_some htag
    apply Eq.symm
    apply findLast_eq_some.mpr
    refine ⟨hread, ?_⟩
    intro j b' hj h
    by_cases hbehind : stop < j + 7
    · exact houtside j b' hbehind h
    · exact hlater (j + 4) (by omega) (by omega) (tagAt_of_decode h)
  | case5 stop hlong t htag hfront cause hread ih =>
    obtain ⟨hlt, hmarked, hlater⟩ := lastTag?_eq_some htag
    apply ih
    · intro j b hj h
      by_cases hbehind : stop < j + 7
      · exact houtside j b hbehind h
      · by_cases hsame : j = t - 4
        · subst hsame
          cases hread.symm.trans h
        · exact hlater (j + 4) (by omega) (by omega) (tagAt_of_decode h)
    · right
      have hback : t - 4 + 6 - 2 = t := by omega
      rw [hback]
      exact ⟨by omega, hmarked⟩

/-! ## What is found -/

/-- Without a box behind it, a box that was written at the end is the last one. -/
theorem lastBox_append {v e : Bytes} (he : b.encode = .ok e)
    (hlater : ∀ j b', v.length < j → decode ((v ++ e).drop j) ≠ .ok b') :
    LastBox (v ++ e) v.length b where
  reads := by
    have hread := decode_append he []
    have hdrop : (v ++ e).drop v.length = e := List.drop_left
    rwa [List.append_nil, ← hdrop] at hread
  last := hlater

/-- **The search for the last box is exact.** It finds the box at the greatest offset at which one
is read, and nothing exactly if none is read at any offset; so it does whether the candidates are
tried one by one or the window is shrunk from the end, which never fails to end. Whatever stands
before it, a box is found that is written at the end, unless one is read within it. -/
theorem finds_last_box (bytes : Bytes) :
    (∀ i b, findLast bytes = some (i, b) ↔
      decode (bytes.drop i) = .ok b ∧ ∀ j b', i < j → decode (bytes.drop j) ≠ .ok b') ∧
    (findLast bytes = none ↔ ∀ i b, decode (bytes.drop i) ≠ .ok b) ∧
    findLastWithin bytes bytes.length = findLast bytes ∧
    ∀ v b e, b.encode = .ok e → bytes = v ++ e →
      (∀ j b', v.length < j → decode (bytes.drop j) ≠ .ok b') →
      findLast bytes = some (v.length, b) := by
  refine ⟨?_, findLast_eq_none, ?_, ?_⟩
  · intro i b
    rw [findLast_eq_some]
    exact ⟨fun h => ⟨h.reads, h.last⟩, fun ⟨hreads, hlast⟩ => ⟨hreads, hlast⟩⟩
  · apply findLastWithin_eq _ _ _ (.inl rfl)
    intro j b hj h
    have hlength := length_of_decode h
    rw [List.length_drop] at hlength
    unfold headLength at hlength
    omega
  · rintro v b e he rfl hlater
    exact findLast_eq_some.mpr (lastBox_append he hlater)

/-- Behind a tag that marks nothing stands a box, whose payload holds the tag again. -/
theorem finds_last_box_behind_decoy :
    let b : ThumbnailBox := ⟨{}, tag⟩
    ∃ e, b.encode = .ok e ∧
      findLast ([0, 0, 0, 1, 0x65] ++ tag ++ [0x88] ++ e) = some (9, b) := by
  intro b
  have he : b.encode = .ok (b.head ++ b.payload) := encode_eq_ok_iff.mpr ⟨by decide, rfl⟩
  refine ⟨_, he, ?_⟩
  obtain ⟨-, -, -, hwritten⟩ :=
    finds_last_box ([0, 0, 0, 1, 0x65] ++ tag ++ [0x88] ++ (b.head ++ b.payload))
  apply hwritten ([0, 0, 0, 1, 0x65] ++ tag ++ [0x88]) b _ he rfl
  intro j b' hj h
  -- only three offsets leave room for a box, and the tag is at none of them
  have hroom := length_of_decode h
  rw [List.length_drop] at hroom
  have hfew : j = 10 ∨ j = 11 ∨ j = 12 := by
    have hlength : ([0, 0, 0, 1, 0x65] ++ tag ++ [0x88] ++ (b.head ++ b.payload)).length = 36 := rfl
    have hfront : ([0, 0, 0, 1, 0x65] ++ tag ++ [0x88]).length = 9 := rfl
    unfold headLength at hroom
    omega
  have htag := tagAt_of_decode h
  rcases hfew with rfl | rfl | rfl <;> revert htag <;> decide

end ThumbnailBox

end CameraRecorder

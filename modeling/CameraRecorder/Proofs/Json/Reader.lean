import CameraRecorder.Json.Reader
import CameraRecorder.Proofs.Json.Scanner

/-!
# Reading what was written

A reader gives the value in full, while the text may leave members out and have them in any order.
So a reader is described by what it takes a written value for (`ReadsAs`). Scalars are read as they
were written, and a list item by item.
-/

namespace CameraRecorder.Json

/-- Every text of the value `written` is read as the value `result`, wherever it stands. -/
def ReadsAs (read : Reader) (written result : Json) : Prop :=
  ∀ ⦃before cs rest : List Char⦄, Blanks before → written.Spells cs → Stops rest →
    read (before ++ (cs ++ rest)) = .ok (result, rest)

/-- A document that holds the written value is read to its end. -/
theorem ReadsAs.document {read : Reader} {written result : Json} (h : ReadsAs read written result)
    {document : List Char} (hholds : Holds document written) :
    read.document document = .ok result := by
  obtain ⟨before, cs, after, hbefore, hcs, hafter, rfl⟩ := hholds
  have hstops : Stops after := by simpa using Stops.append_blanks hafter .nil
  rw [Reader.document, List.append_assoc, h hbefore hcs hstops]
  simp only [ok_bind, skipBlanks_blanks hafter]
  rfl

/-! ## Scalars -/

theorem quoted_append (s : String) (rest : List Char) :
    quoted s ++ rest = '"' :: (s.toList.flatMap escapeChar ++ '"' :: rest) := by
  simp [quoted]

theorem Spells.eq_toDigits {n : Nat} {cs : List Char} (h : Spells (.ofNat n) cs) :
    cs = Nat.toDigits 10 n := by
  unfold ofNat at h
  cases h
  rfl

theorem reads_below {bound n : Nat} (hbound : bound ≤ UInt64.size) (hn : n < bound) :
    ReadsAs (.below bound) (.ofNat n) (.ofNat n) := by
  intro before cs rest hbefore hcs hrest
  obtain ⟨c, ds, hopens, hblank, -⟩ := hcs.opens
  have hscan := scanNumber_decimal (Nat.lt_of_lt_of_le hn hbound) hrest
  have hc : isDigit c = true := by
    refine @isDigit_of_mem_toDigits n c ?_
    rw [← hcs.eq_toDigits, hopens]
    exact List.mem_cons_self
  rw [← hcs.eq_toDigits, hopens, List.cons_append] at hscan
  rw [hopens, List.cons_append, Reader.below, skipBlanks_piece hbefore hblank]
  simp only [hc, if_true, hscan, ok_bind, hn]

theorem reads_flag (b : Bool) : ReadsAs .flag (.flag b) (.flag b) := by
  intro before cs rest hbefore hcs _
  cases hcs
  cases b
  · show Reader.flag (before ++ 'f' :: ("alse".toList ++ rest)) = _
    rw [Reader.flag, skipBlanks_piece hbefore rfl]
    simp only [scanWord_append]
    rfl
  · show Reader.flag (before ++ 't' :: ("rue".toList ++ rest)) = _
    rw [Reader.flag, skipBlanks_piece hbefore rfl]
    simp only [scanWord_append]
    rfl

theorem reads_text (s : String) : ReadsAs .text (.text s) (.text s) := by
  intro before cs rest hbefore hcs _
  cases hcs
  rw [quoted_append, Reader.text, skipBlanks_piece hbefore rfl]
  simp only [scanText_quoted]
  rfl

theorem reads_choice {names : List String} {name : String} (h : name ∈ names) :
    ReadsAs (.choice names) (.text name) (.text name) := by
  intro before cs rest hbefore hcs _
  cases hcs
  rw [quoted_append, Reader.choice, skipBlanks_piece hbefore rfl]
  simp only [scanText_quoted, ok_bind, h, if_true]

theorem reads_nullable_null (value : Reader) : ReadsAs (.nullable value) .null .null := by
  intro before cs rest hbefore hcs _
  cases hcs
  show Reader.nullable value (before ++ 'n' :: ("ull".toList ++ rest)) = _
  rw [Reader.nullable, skipBlanks_piece hbefore rfl]
  simp only [scanWord_append]
  rfl

theorem reads_nullable_object {value : Reader} {members : List (String × Json)} {result : Json}
    (h : ReadsAs value (.object members) result) :
    ReadsAs (.nullable value) (.object members) result := by
  intro before cs rest hbefore hcs hrest
  have hread := h .nil hcs hrest
  cases hcs
  rw [List.nil_append, List.cons_append] at hread
  rw [List.cons_append, Reader.nullable, skipBlanks_piece hbefore rfl]
  exact hread

/-! ## Lists -/

theorem SpellsItems.stops {items : List Json} {cs before : List Char}
    (h : SpellsItems false items cs) (hbefore : Blanks before) (rest : List Char) :
    Stops (cs ++ (before ++ ']' :: rest)) := by
  cases h with
  | nil =>
    rw [List.nil_append]
    exact .append_blanks hbefore (.of_head (by decide))
  | cons hlead _ _ =>
    rw [List.append_assoc]
    exact hlead.stops _

/-- What was counted in a text is less than the text with its closing bracket, so a loop that starts
with that text as its bound does not run out of it. -/
theorem lt_length_closed {n : Nat} {cs : List Char} (h : n ≤ cs.length) (before : List Char)
    (close : Char) (rest : List Char) : n < (cs ++ (before ++ close :: rest)).length := by
  rw [List.length_append, List.length_append, List.length_cons]
  omega

/-- The items up to the closing bracket are read one by one. -/
theorem items_spelled {item : Reader} {written results : List Json}
    (h : List.Forall₂ (ReadsAs item) written results) {isFirst : Bool} {cs bound before : List Char}
    (hcs : SpellsItems isFirst written cs) (hbound : written.length < bound.length)
    (hbefore : Blanks before) (rest : List Char) :
    Reader.items item bound isFirst (cs ++ (before ++ ']' :: rest)) =
      .ok (results, before ++ ']' :: rest) := by
  -- on the items that are left; only the first of a list has no comma before it
  induction h generalizing isFirst cs bound with
  | nil =>
    cases hcs
    cases bound with
    | nil => exact absurd hbound (Nat.lt_irrefl _)
    | cons b bound =>
      rw [Reader.items, List.nil_append, nextItem_end hbefore]
      rfl
  | cons hitem _ ih =>
    cases hcs with
    | @cons _ _ _ lead cs more hlead hfirst hmore =>
      cases bound with
      | nil => exact absurd hbound (Nat.not_lt_zero _)
      | cons b bound =>
        have hshort := Nat.lt_of_succ_lt_succ hbound
        have hnext := nextItem_lead hlead (hfirst.opens.append (more ++ (before ++ ']' :: rest)))
        have hread := hitem .nil hfirst (hmore.stops hbefore rest)
        rw [List.nil_append] at hread
        rw [Reader.items, List.append_assoc, List.append_assoc, hnext]
        simp only [ok_bind, hread, ih hmore hshort]
        rfl

theorem reads_list {item : Reader} {written results : List Json}
    (h : List.Forall₂ (ReadsAs item) written results) :
    ReadsAs (.list item) (.list written) (.list results) := by
  intro before cs rest hbefore hcs _
  cases hcs with
  | @list _ cs last hitems hlast =>
    have hbound := lt_length_closed hitems.length_le last ']' rest
    have hread := items_spelled h hitems hbound hlast rest
    have hclose : scanMark ']' (last ++ ']' :: rest) = .ok rest := scanMark_mark hlast rfl rest
    rw [List.cons_append, Reader.list, skipBlanks_piece hbefore rfl]
    simp only [List.append_assoc, List.singleton_append, hread, ok_bind, hclose]
    rfl

end CameraRecorder.Json

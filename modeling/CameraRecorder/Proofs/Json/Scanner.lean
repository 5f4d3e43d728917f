import CameraRecorder.Proofs.Json.Spelling

/-!
# Scanning what was written

Each scanner reads the piece that was written for it and leaves what stands after it. Strings and
marks end by themselves. A number does not: it ends before the first character that could not belong
to one, so what is read after it has to `Stops`.
-/

namespace CameraRecorder.Json

/-- Whether a number that stands before these characters ends there. -/
def Stops (cs : List Char) : Prop :=
  ∀ c ∈ cs.head?, isDigit c = false ∧ c ≠ '.' ∧ c ≠ 'e' ∧ c ≠ 'E'

theorem Stops.nil : Stops [] := fun c h => by cases h

theorem Stops.of_head {c : Char} {cs : List Char}
    (h : isDigit c = false ∧ c ≠ '.' ∧ c ≠ 'e' ∧ c ≠ 'E') : Stops (c :: cs) := by
  intro d hd
  rw [List.head?_cons, Option.mem_some_iff] at hd
  exact hd ▸ h

theorem Stops.append_blanks {before cs : List Char} (hbefore : Blanks before) (h : Stops cs) :
    Stops (before ++ cs) := by
  cases before with
  | nil => exact h
  | cons c before =>
    have hc := hbefore c List.mem_cons_self
    simp only [isBlank, Bool.or_eq_true, decide_eq_true_eq] at hc
    rcases hc with ((rfl | rfl) | rfl) | rfl <;> exact .of_head (by decide)

/-- A number ends before the comma of the next item or member. -/
theorem Lead.stops {lead : List Char} (h : Lead false lead) (cs : List Char) :
    Stops (lead ++ cs) := by
  cases h with
  | next hbefore _ =>
    rw [List.append_assoc, List.cons_append]
    exact .append_blanks hbefore (.of_head (by decide))

/-- A step that succeeds hands over its result. -/
theorem ok_bind {α β : Type} (a : α) (f : α → Except Fault β) : (Except.ok a >>= f) = f a := rfl

/-! ## Blanks and marks -/

theorem skipBlanks_append {before : List Char} (h : Blanks before) (cs : List Char) :
    skipBlanks (before ++ cs) = skipBlanks cs :=
  List.dropWhile_append_of_pos h

theorem skipBlanks_cons {c : Char} (h : isBlank c = false) (cs : List Char) :
    skipBlanks (c :: cs) = c :: cs :=
  List.dropWhile_cons_of_neg (by simp [h])

/-- Blanks before a piece are skipped. -/
theorem skipBlanks_piece {before : List Char} {c : Char} (hbefore : Blanks before)
    (hc : isBlank c = false) (cs : List Char) : skipBlanks (before ++ c :: cs) = c :: cs := by
  rw [skipBlanks_append hbefore, skipBlanks_cons hc]

theorem skipBlanks_blanks {before : List Char} (h : Blanks before) : skipBlanks before = [] := by
  have happend := skipBlanks_append h []
  rwa [List.append_nil] at happend

theorem scanMark_mark {before : List Char} {mark : Char} (hbefore : Blanks before)
    (hmark : isBlank mark = false) (rest : List Char) :
    scanMark mark (before ++ mark :: rest) = .ok rest := by
  simp [scanMark, skipBlanks_piece hbefore hmark]

theorem scanWord_append (word rest : List Char) : scanWord word (word ++ rest) = .ok rest := by
  induction word with
  | nil => rfl
  | cons w word ih => simp [scanWord, ih]

/-! ## Strings -/

theorem hexValue?_digitChar : ∀ n < 16, hexValue? (Nat.digitChar n) = some n := by decide

/-- A control character is read back from its two hexadecimal digits. -/
theorem scanEscape_control {n : Nat} (h : n < 32) (cs : List Char) :
    scanEscape ('u' :: '0' :: '0' :: hexDigit (n / 16) :: hexDigit n :: cs) =
      .ok (Char.ofNat n, cs) := by
  have hzero : hexValue? '0' = some 0 := rfl
  have hhigh : hexValue? (hexDigit (n / 16)) = some (n / 16) := by
    rw [hexDigit, Nat.mod_eq_of_lt (by omega)]
    exact hexValue?_digitChar _ (by omega)
  have hlow : hexValue? (hexDigit n) = some (n % 16) := hexValue?_digitChar _ (by omega)
  have hword : hexWord? '0' '0' (hexDigit (n / 16)) (hexDigit n) = some n := by
    simp only [hexWord?, hzero, hhigh, hlow, Option.pure_def, Option.bind_eq_bind,
      Option.bind_some, Option.some.injEq]
    omega
  have hplain : ¬(0xDC00 ≤ n ∧ n ≤ 0xDFFF) ∧ ¬(0xD800 ≤ n ∧ n ≤ 0xDBFF) := by omega
  simp only [scanEscape, scanHexWord, hword, if_neg hplain.1, if_neg hplain.2]

theorem scanCharacters_escape {rest cs : List Char} {c : Char} (b : Char) (bound : List Char)
    (h : scanEscape rest = .ok (c, cs)) :
    scanCharacters (b :: bound) ('\\' :: rest) = do
      let (s, rest) ← scanCharacters bound cs
      return (c :: s, rest) := by
  rw [scanCharacters, if_neg (by decide), if_pos rfl, h]
  rfl

/-- A character as it stands between quotes is read in one step. -/
theorem scanCharacters_escapeChar (c b : Char) (bound cs : List Char) :
    scanCharacters (b :: bound) (escapeChar c ++ cs) = do
      let (s, rest) ← scanCharacters bound cs
      return (c :: s, rest) := by
  unfold escapeChar
  split_ifs with h₁ h₂ h₃ h₄ h₅ h₆ h₇ hcontrol
  -- the escapes of one letter
  iterate 7
    subst c
    exact scanCharacters_escape b bound rfl
  · have hlt : c.toNat < 32 := hcontrol
    have hescape := scanEscape_control hlt cs
    rw [Char.ofNat_toNat] at hescape
    exact scanCharacters_escape b bound hescape
  · rw [List.singleton_append, scanCharacters, if_neg h₁, if_neg h₂, if_neg hcontrol]

theorem length_escapeChar_pos (c : Char) : 0 < (escapeChar c).length := by
  unfold escapeChar
  split_ifs <;> simp

theorem scanCharacters_escaped (s rest : List Char) {bound : List Char}
    (hbound : s.length < bound.length) :
    scanCharacters bound (s.flatMap escapeChar ++ '"' :: rest) = .ok (s, rest) := by
  induction s generalizing bound with
  | nil =>
    cases bound with
    | nil => exact absurd hbound (Nat.lt_irrefl _)
    | cons b bound => rfl
  | cons c s ih =>
    cases bound with
    | nil => exact absurd hbound (Nat.not_lt_zero _)
    | cons b bound =>
      have hshort : s.length < bound.length := by simpa using hbound
      rw [List.flatMap_cons, List.append_assoc, scanCharacters_escapeChar, ih hshort]
      rfl

theorem length_le_flatMap_escapeChar (s : List Char) :
    s.length ≤ (s.flatMap escapeChar).length := by
  induction s with
  | nil => simp
  | cons c s ih =>
    have hpos := length_escapeChar_pos c
    simp only [List.flatMap_cons, List.length_append, List.length_cons]
    omega

/-- A string is read back from between its quotes. -/
theorem scanText_quoted (s : String) (rest : List Char) :
    scanText (s.toList.flatMap escapeChar ++ '"' :: rest) = .ok (s, rest) := by
  have hbound : s.toList.length < (s.toList.flatMap escapeChar ++ '"' :: rest).length := by
    have hle := length_le_flatMap_escapeChar s.toList
    rw [List.length_append, List.length_cons]
    omega
  rw [scanText, scanCharacters_escaped s.toList rest hbound]
  show Except.ok (String.ofList s.toList, rest) = _
  rw [String.ofList_toList]

/-! ## Numbers -/

theorem isDigit_of_mem_toDigits {n : Nat} {c : Char} (h : c ∈ Nat.toDigits 10 n) :
    isDigit c = true :=
  @Nat.isDigit_of_mem_toDigits 10 n c (by decide) (by decide) h

/-- Only the number zero is written with a leading zero. -/
theorem tail_eq_nil_of_toDigits {n : Nat} {ds : List Char} (h : Nat.toDigits 10 n = '0' :: ds) :
    ds = [] := by
  induction n using Nat.strongRecOn generalizing ds with
  | ind n ih =>
    rcases Nat.lt_or_ge n 10 with hlt | hge
    · rw [Nat.toDigits_of_lt_base hlt] at h
      exact (List.cons.inj h).2.symm
    · -- a number of at least two digits starts with those of its tenth, which is not zero
      rw [Nat.toDigits_of_base_le (by decide) hge] at h
      obtain ⟨c, cs, hcs⟩ :=
        List.exists_cons_of_ne_nil (Nat.toDigits_ne_nil (n := n / 10) (b := 10))
      rw [hcs, List.cons_append] at h
      obtain ⟨rfl, -⟩ := List.cons.inj h
      have hnil := ih (n / 10) (by omega) hcs
      have hzero : Nat.ofDigitChars 10 (Nat.toDigits 10 (n / 10)) 0 = 0 := by
        rw [hcs, hnil]
        rfl
      rw [Nat.ofDigitChars_ten_toDigits] at hzero
      omega

theorem digitValue_digitChar : ∀ d < 10, digitValue (Nat.digitChar d) = d := by decide

/-- The digits of a number that fits in 64 bits are all taken. -/
theorem foldl_push_toDigits {n : Nat} (h : n < UInt64.size) :
    (Nat.toDigits 10 n).foldl Significand.push {} =
      { value := n, digits := (Nat.toDigits 10 n).length } := by
  induction n using Nat.strongRecOn with
  | ind n ih =>
    rcases Nat.lt_or_ge n 10 with hlt | hge
    · rw [Nat.toDigits_of_lt_base hlt]
      simp [Significand.push, digitValue_digitChar n hlt, h]
    · have hvalue : n / 10 * 10 + n % 10 = n := by omega
      rw [Nat.toDigits_of_base_le (by decide) hge, List.foldl_append,
        ih (n / 10) (by omega) (by omega)]
      simp [Significand.push, digitValue_digitChar (n % 10) (by omega), hvalue, h]

/-- A number that fits in 64 bits is read back. -/
theorem scanNumber_decimal {n : Nat} (h : n < UInt64.size) {rest : List Char} (hrest : Stops rest) :
    scanNumber (Nat.toDigits 10 n ++ rest) = .ok (some n, rest) := by
  have hdigits : ∀ c ∈ Nat.toDigits 10 n, isDigit c = true := fun c => isDigit_of_mem_toDigits
  have hhead : rest.head?.any isDigit = false := by
    cases rest with
    | nil => rfl
    | cons c rest => exact (hrest c rfl).1
  have hafter : rest.takeWhile isDigit = [] ∧ rest.dropWhile isDigit = rest := by
    cases rest with
    | nil => exact ⟨rfl, rfl⟩
    | cons c rest =>
      have hc : ¬isDigit c = true := by simp [(hrest c rfl).1]
      exact ⟨List.takeWhile_cons_of_neg hc, List.dropWhile_cons_of_neg hc⟩
  have htake : (Nat.toDigits 10 n ++ rest).takeWhile isDigit = Nat.toDigits 10 n := by
    rw [List.takeWhile_append_of_pos hdigits, hafter.1, List.append_nil]
  have hdrop : (Nat.toDigits 10 n ++ rest).dropWhile isDigit = rest := by
    rw [List.dropWhile_append_of_pos hdigits, hafter.2]
  have hpush := foldl_push_toDigits h
  obtain ⟨c, ds, hcs⟩ := List.exists_cons_of_ne_nil (Nat.toDigits_ne_nil (n := n) (b := 10))
  have hc : isDigit c = true := hdigits c (by simp [hcs])
  have hzero : ¬(c = '0' ∧ (ds ++ rest).head?.any isDigit = true) := by
    rintro ⟨rfl, hnext⟩
    rw [tail_eq_nil_of_toDigits hcs, List.nil_append, hhead] at hnext
    exact absurd hnext (by decide)
  rw [hcs, List.cons_append] at htake hdrop ⊢
  rw [hcs] at hpush
  rw [scanNumber, if_neg hzero, if_pos hc, htake, hdrop]
  simp only [hpush]
  split
  · exact absurd rfl (hrest '.' rfl).2.1
  · exact absurd rfl (hrest 'e' rfl).2.2.1
  · exact absurd rfl (hrest 'E' rfl).2.2.2
  · rfl

/-! ## Separators -/

theorem nextItem_lead {isFirst : Bool} {lead cs : List Char} (hlead : Lead isFirst lead)
    (hcs : Opens cs) : nextItem isFirst (lead ++ cs) = .ok (some cs) := by
  obtain ⟨c, rest, rfl, hblank, hcomma, hbracket⟩ := hcs
  cases hlead with
  | first hbefore =>
    rw [nextItem, skipBlanks_piece hbefore hblank]
    split
    all_goals simp_all
  | @next before after hbefore hafter =>
    rw [nextItem, List.append_assoc, List.cons_append, skipBlanks_piece hbefore rfl]
    simp only [Bool.false_eq_true, if_false, skipBlanks_piece hafter hblank]
    split
    all_goals simp_all

theorem nextItem_end {before : List Char} (hbefore : Blanks before) (isFirst : Bool)
    (rest : List Char) : nextItem isFirst (before ++ ']' :: rest) = .ok none := by
  rw [nextItem, skipBlanks_piece hbefore rfl]
  rfl

theorem nextMember_lead {isFirst : Bool} {lead : List Char} (hlead : Lead isFirst lead)
    (cs : List Char) : nextMember isFirst (lead ++ '"' :: cs) = .ok (some cs) := by
  cases hlead with
  | first hbefore =>
    rw [nextMember, skipBlanks_piece hbefore rfl]
    rfl
  | @next before after hbefore hafter =>
    rw [nextMember, List.append_assoc, List.cons_append, skipBlanks_piece hbefore rfl]
    simp only [Bool.false_eq_true, if_false]
    rw [skipBlanks_piece hafter rfl]
    rfl

theorem nextMember_end {before : List Char} (hbefore : Blanks before) (isFirst : Bool)
    (rest : List Char) : nextMember isFirst (before ++ '\x7d' :: rest) = .ok none := by
  rw [nextMember, skipBlanks_piece hbefore rfl]
  rfl

end CameraRecorder.Json

import CameraRecorder.Json.Printer
import CameraRecorder.Json.Scanner
import Mathlib.Data.List.Forall2

/-!
# The texts of a value

A value has many texts: blanks may stand around every piece of them. `Json.Spells` says which texts
these are, and both printed forms are among them.

A text is cut into pieces that start with their blanks. What stands before an item or a member is
its `Lead`, and a bracket is closed after blanks of its own. So each piece can be read without
looking at what comes before it.
-/

namespace CameraRecorder.Json

/-- Characters that may stand between any two pieces. -/
def Blanks (cs : List Char) : Prop := ∀ c ∈ cs, isBlank c = true

/-- What may stand before an item or a member: blanks, and around them a comma unless it is the
first. -/
inductive Lead : Bool → List Char → Prop where
  | first {before : List Char} (hbefore : Blanks before) : Lead true before
  | next {before after : List Char} (hbefore : Blanks before) (hafter : Blanks after) :
      Lead false (before ++ ',' :: after)

mutual

/-- The texts of a value, from its first character to its last. -/
inductive Spells : Json → List Char → Prop where
  | null : Spells .null "null".toList
  | flag (b : Bool) : Spells (.flag b) (flagWord b)
  | number (n : Int) : Spells (.number n) (decimal n)
  | text (s : String) : Spells (.text s) (quoted s)
  | list {items : List Json} {cs before : List Char} (hitems : SpellsItems true items cs)
      (hbefore : Blanks before) : Spells (.list items) ('[' :: (cs ++ (before ++ [']'])))
  | object {members : List (String × Json)} {cs before : List Char}
      (hmembers : SpellsMembers true members cs) (hbefore : Blanks before) :
      Spells (.object members) ('\x7b' :: (cs ++ (before ++ ['\x7d'])))

/-- The texts of items, of which the first is the first of its list or not. -/
inductive SpellsItems : Bool → List Json → List Char → Prop where
  | nil {isFirst : Bool} : SpellsItems isFirst [] []
  | cons {isFirst : Bool} {item : Json} {items : List Json} {lead cs more : List Char}
      (hlead : Lead isFirst lead) (hitem : Spells item cs) (hitems : SpellsItems false items more) :
      SpellsItems isFirst (item :: items) (lead ++ (cs ++ more))

/-- The texts of members, of which the first is the first of its object or not. -/
inductive SpellsMembers : Bool → List (String × Json) → List Char → Prop where
  | nil {isFirst : Bool} : SpellsMembers isFirst [] []
  | cons {isFirst : Bool} {name : String} {value : Json} {members : List (String × Json)}
      {lead before after cs more : List Char} (hlead : Lead isFirst lead)
      (hbefore : Blanks before) (hafter : Blanks after) (hvalue : Spells value cs)
      (hmembers : SpellsMembers false members more) :
      SpellsMembers isFirst ((name, value) :: members)
        (lead ++ (quoted name ++ (before ++ ':' :: (after ++ (cs ++ more)))))

end

/-- A document that holds a value: one of its texts, with blanks on both sides. -/
def Holds (document : List Char) (value : Json) : Prop :=
  ∃ before cs after, Blanks before ∧ value.Spells cs ∧ Blanks after ∧
    document = before ++ cs ++ after

theorem Blanks.nil : Blanks [] := List.forall_mem_nil _

theorem blanks_lineBreak (depth : Nat) : Blanks (lineBreak depth) := by
  intro c hc
  rcases List.mem_cons.mp hc with rfl | hc
  · rfl
  · rw [List.eq_of_mem_replicate hc]
    rfl

/-- A text holds what it spells. -/
theorem Spells.holds {value : Json} {cs : List Char} (h : value.Spells cs) : Holds cs value :=
  ⟨[], cs, [], .nil, h, .nil, by simp⟩

/-! ## The printed forms -/

/-- The first piece stands by itself, each other one follows a comma. -/
theorem commaSeparated_cons (piece : List Char) (pieces : List (List Char)) :
    commaSeparated (piece :: pieces) = piece ++ pieces.flatMap (',' :: ·) := by
  induction pieces generalizing piece with
  | nil => simp [commaSeparated]
  | cons next rest ih => simp [commaSeparated, ih]

/-- Blanks, and after them one of the texts of an item. -/
def PrintsItem (item : Json) (piece : List Char) : Prop :=
  ∃ before cs, Blanks before ∧ item.Spells cs ∧ piece = before ++ cs

/-- Blanks, and after them a member. -/
def PrintsMember (member : String × Json) (piece : List Char) : Prop :=
  ∃ before after cs, Blanks before ∧ Blanks after ∧ member.2.Spells cs ∧
    piece = before ++ quoted member.1 ++ ':' :: (after ++ cs)

theorem spellsItems_later {items : List Json} {pieces : List (List Char)}
    (h : List.Forall₂ PrintsItem items pieces) :
    SpellsItems false items (pieces.flatMap (',' :: ·)) := by
  induction h with
  | nil => exact .nil
  | cons hitem _ ih =>
    obtain ⟨before, cs, hbefore, hcs, rfl⟩ := hitem
    simpa using SpellsItems.cons (.next .nil hbefore) hcs ih

theorem spellsItems_commaSeparated {items : List Json} {pieces : List (List Char)}
    (h : List.Forall₂ PrintsItem items pieces) :
    SpellsItems true items (commaSeparated pieces) := by
  cases h with
  | nil => exact .nil
  | cons hitem hitems =>
    obtain ⟨before, cs, hbefore, hcs, rfl⟩ := hitem
    rw [commaSeparated_cons, List.append_assoc]
    exact .cons (.first hbefore) hcs (spellsItems_later hitems)

theorem spellsMembers_later {members : List (String × Json)} {pieces : List (List Char)}
    (h : List.Forall₂ PrintsMember members pieces) :
    SpellsMembers false members (pieces.flatMap (',' :: ·)) := by
  induction h with
  | nil => exact .nil
  | cons hmember _ ih =>
    obtain ⟨before, after, cs, hbefore, hafter, hcs, rfl⟩ := hmember
    simpa using SpellsMembers.cons (.next .nil hbefore) .nil hafter hcs ih

theorem spellsMembers_commaSeparated {members : List (String × Json)}
    {pieces : List (List Char)} (h : List.Forall₂ PrintsMember members pieces) :
    SpellsMembers true members (commaSeparated pieces) := by
  cases h with
  | nil => exact .nil
  | cons hmember hmembers =>
    obtain ⟨before, after, cs, hbefore, hafter, hcs, rfl⟩ := hmember
    rw [commaSeparated_cons]
    simpa using SpellsMembers.cons (.first hbefore) .nil hafter hcs (spellsMembers_later hmembers)

mutual

/-- The compact form is a text of the value. -/
theorem spells_compact : (value : Json) → value.Spells value.compact
  | .null => .null
  | .flag b => .flag b
  | .number n => .number n
  | .text s => .text s
  | .list items =>
    .list (spellsItems_commaSeparated (printsItem_compact items)) .nil
  | .object members =>
    .object (spellsMembers_commaSeparated (printsMember_compact members)) .nil

theorem printsItem_compact :
    (items : List Json) → List.Forall₂ PrintsItem items (compactItems items)
  | [] => .nil
  | item :: rest =>
    .cons ⟨[], item.compact, .nil, spells_compact item, rfl⟩ (printsItem_compact rest)

theorem printsMember_compact :
    (members : List (String × Json)) → List.Forall₂ PrintsMember members (compactMembers members)
  | [] => .nil
  | (_, value) :: rest =>
    .cons ⟨[], [], value.compact, .nil, .nil, spells_compact value, rfl⟩
      (printsMember_compact rest)

end

/-- Pieces between brackets are the same with blanks before each of them. -/
theorem bracketed_cons (depth : Nat) (opening closing : Char) (piece : List Char)
    (pieces : List (List Char)) :
    bracketed depth opening closing (piece :: pieces) =
      opening :: (commaSeparated ((piece :: pieces).map (lineBreak (depth + 1) ++ ·)) ++
        (lineBreak depth ++ [closing])) := by
  simp [bracketed]

mutual

/-- The pretty form is a text of the value. -/
theorem spells_prettyAt (depth : Nat) : (value : Json) → value.Spells (value.prettyAt depth)
  | .null => .null
  | .flag b => .flag b
  | .number n => .number n
  | .text s => .text s
  | .list [] => .list .nil .nil
  | .list (item :: rest) => by
    have hitems := printsItem_pretty depth (item :: rest)
    rw [prettyAt, prettyItems, bracketed_cons]
    exact .list (spellsItems_commaSeparated hitems) (blanks_lineBreak depth)
  | .object [] => .object .nil .nil
  | .object ((name, value) :: rest) => by
    have hmembers := printsMember_pretty depth ((name, value) :: rest)
    rw [prettyAt, prettyMembers, bracketed_cons]
    exact .object (spellsMembers_commaSeparated hmembers) (blanks_lineBreak depth)

theorem printsItem_pretty (depth : Nat) : (items : List Json) →
    List.Forall₂ PrintsItem items
      ((prettyItems (depth + 1) items).map (lineBreak (depth + 1) ++ ·))
  | [] => .nil
  | item :: rest =>
    .cons ⟨lineBreak (depth + 1), item.prettyAt (depth + 1), blanks_lineBreak _,
      spells_prettyAt (depth + 1) item, rfl⟩ (printsItem_pretty depth rest)

theorem printsMember_pretty (depth : Nat) : (members : List (String × Json)) →
    List.Forall₂ PrintsMember members
      ((prettyMembers (depth + 1) members).map (lineBreak (depth + 1) ++ ·))
  | [] => .nil
  | (name, value) :: rest =>
    .cons ⟨lineBreak (depth + 1), [' '], value.prettyAt (depth + 1), blanks_lineBreak _,
      by simp [Blanks, isBlank], spells_prettyAt (depth + 1) value, by simp⟩
      (printsMember_pretty depth rest)

end

theorem spells_pretty (value : Json) : value.Spells value.pretty := spells_prettyAt 0 value

/-! ## How texts start -/

/-- A text that is not empty and starts neither with a blank nor with what may stand between
items. -/
def Opens (cs : List Char) : Prop :=
  ∃ c rest, cs = c :: rest ∧ isBlank c = false ∧ c ≠ ',' ∧ c ≠ ']'

theorem opens_quoted (s : String) : Opens (quoted s) :=
  ⟨'"', _, rfl, rfl, by decide, by decide⟩

theorem opens_decimal (n : Int) : Opens (decimal n) := by
  cases n with
  | negSucc n => exact ⟨'-', _, rfl, rfl, by decide, by decide⟩
  | ofNat n =>
    obtain ⟨c, rest, h⟩ := List.exists_cons_of_ne_nil (Nat.toDigits_ne_nil (n := n) (b := 10))
    have hc : c.isDigit = true :=
      Nat.isDigit_of_mem_toDigits (b := 10) (n := n) (by decide) (by decide) (by simp [h])
    refine ⟨c, rest, h, ?_, ?_, ?_⟩
    · rw [Bool.eq_false_iff]
      intro hb
      simp only [isBlank, Bool.or_eq_true, decide_eq_true_eq] at hb
      rcases hb with ((rfl | rfl) | rfl) | rfl <;> exact absurd hc (by decide)
    · rintro rfl
      exact absurd hc (by decide)
    · rintro rfl
      exact absurd hc (by decide)

theorem Spells.opens {value : Json} {cs : List Char} (h : value.Spells cs) : Opens cs := by
  cases h with
  | null => exact ⟨'n', _, rfl, rfl, by decide, by decide⟩
  | flag b => cases b <;> exact ⟨_, _, rfl, rfl, by decide, by decide⟩
  | number n => exact opens_decimal n
  | text s => exact opens_quoted s
  | list => exact ⟨'[', _, rfl, rfl, by decide, by decide⟩
  | object => exact ⟨'\x7b', _, rfl, rfl, by decide, by decide⟩

theorem Opens.append {cs : List Char} (h : Opens cs) (more : List Char) : Opens (cs ++ more) := by
  obtain ⟨c, rest, rfl, hc⟩ := h
  exact ⟨c, rest ++ more, rfl, hc⟩

theorem Opens.length_pos {cs : List Char} (h : Opens cs) : 0 < cs.length := by
  obtain ⟨c, rest, rfl, -⟩ := h
  simp

theorem SpellsItems.length_le {isFirst : Bool} {items : List Json} {cs : List Char}
    (h : SpellsItems isFirst items cs) : items.length ≤ cs.length := by
  induction items generalizing isFirst cs with
  | nil => simp
  | cons item items ih =>
    cases h with
    | cons hlead hitem hitems =>
      have hpos := hitem.opens.length_pos
      have hle := ih hitems
      simp only [List.length_cons, List.length_append]
      omega

theorem SpellsMembers.length_le {isFirst : Bool} {members : List (String × Json)}
    {cs : List Char} (h : SpellsMembers isFirst members cs) : members.length ≤ cs.length := by
  induction members generalizing isFirst cs with
  | nil => simp
  | cons member members ih =>
    cases h with
    | cons hlead hbefore hafter hvalue hmembers =>
      have hle := ih hmembers
      simp only [List.length_cons, List.length_append]
      omega

end CameraRecorder.Json

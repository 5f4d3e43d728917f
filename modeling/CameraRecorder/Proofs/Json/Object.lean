import CameraRecorder.Proofs.Json.Reader
import Mathlib.Data.List.Nodup
import Mathlib.Data.List.Perm.Basic

/-!
# Reading objects in any order

What may be written for an object is described by its `Part`s: one for each declared member, with
the values that may stand there and whether the member may be left out. The members that are kept
may stand in any order.

The reader collects the members as they come and completes them at the end. If each declared member
is read as the value it stands for, and its default is that value where it may be left out, then the
object is read in full whatever was left out and however the rest was arranged.
-/

namespace CameraRecorder.Json

/-- What may be written for a member. -/
structure Part where
  name : String
  form : Json → Prop
  optional : Prop := False

/-- A member that is only written in one way. -/
def Part.exact (name : String) (value : Json) (optional : Prop := False) : Part :=
  { name, form := (· = value), optional }

/-- The members that are written for a choice of the parts, in declared order. Only optional parts
may be left out. -/
inductive Chooses : List Part → List (String × Json) → Prop where
  | nil : Chooses [] []
  | keep {part : Part} {parts : List Part} {value : Json} {members : List (String × Json)}
      (hform : part.form value) (hparts : Chooses parts members) :
      Chooses (part :: parts) ((part.name, value) :: members)
  | leave {part : Part} {parts : List Part} {members : List (String × Json)}
      (hoptional : part.optional) (hparts : Chooses parts members) : Chooses (part :: parts) members

/-- An object of a choice of the parts, in any order. -/
def Assembled (parts : List Part) (value : Json) : Prop :=
  ∃ chosen members, Chooses parts chosen ∧ members.Perm chosen ∧ value = .object members

/-- What is written for each part is read as the part's value by the declared member, which holds
the same value if the part is left out. -/
inductive Takes : List Field → List Part → List (String × Json) → Prop where
  | nil : Takes [] [] []
  | cons {field : Field} {part : Part} {value : Json} {fields : List Field} {parts : List Part}
      {values : List (String × Json)} (hname : field.name = part.name)
      (hread : ∀ written, part.form written → ReadsAs field.read written value)
      (habsent : part.optional → field.default? = some value) (hrest : Takes fields parts values) :
      Takes (field :: fields) (part :: parts) ((field.name, value) :: values)

theorem Takes.exact {name : String} {read : Reader} {default? : Option Json} {value : Json}
    {optional : Prop} (hread : ReadsAs read value value)
    (habsent : optional → default? = some value) {fields : List Field} {parts : List Part}
    {values : List (String × Json)} (hrest : Takes fields parts values) :
    Takes (⟨name, read, default?⟩ :: fields) (.exact name value optional :: parts)
      ((name, value) :: values) :=
  .cons rfl (fun _ h => h ▸ hread) habsent hrest

/-- A written member is one that is declared, and it is read as the other one. -/
def Finds (fields : List Field) (written result : String × Json) : Prop :=
  result.1 = written.1 ∧ ∃ f ∈ fields, f.name = written.1 ∧ ReadsAs f.read written.2 result.2

/-- The member that a field stands for is among those that were taken, or it is the default. -/
def Covered (taken : List (String × Json)) (f : Field) (m : String × Json) : Prop :=
  m.1 = f.name ∧ (m ∈ taken ∨ f.default? = some m.2)

theorem Finds.tail {field : Field} {fields : List Field} {written result : String × Json}
    (h : Finds fields written result) : Finds (field :: fields) written result := by
  obtain ⟨heq, f, hf, hread⟩ := h
  exact ⟨heq, f, List.mem_cons_of_mem _ hf, hread⟩

theorem finds_names {fields : List Field} {written results : List (String × Json)}
    (h : List.Forall₂ (Finds fields) written results) :
    results.map (·.1) = written.map (·.1) := by
  induction h with
  | nil => rfl
  | cons hfinds _ ih => rw [List.map_cons, List.map_cons, hfinds.1, ih]

theorem Takes.names {fields : List Field} {parts : List Part} {values : List (String × Json)}
    (h : Takes fields parts values) : values.map (·.1) = fields.map (·.name) := by
  induction h with
  | nil => rfl
  | cons _ _ _ _ ih => simp [ih]

/-- What is read for a choice of the parts is part of the whole, and the rest of it are defaults. -/
theorem Takes.choose {fields : List Field} {parts : List Part}
    {values chosen : List (String × Json)} (h : Takes fields parts values)
    (hchosen : Chooses parts chosen) :
    ∃ taken : List (String × Json), List.Forall₂ (Finds fields) chosen taken ∧
      taken.Sublist values ∧ List.Forall₂ (Covered taken) fields values := by
  induction h generalizing chosen with
  | nil =>
    cases hchosen
    exact ⟨[], .nil, .slnil, .nil⟩
  | @cons field part value fields parts values hname hread habsent hrest ih =>
    cases hchosen with
    | keep hform hparts =>
      obtain ⟨taken, hfinds, hsub, hwhole⟩ := ih hparts
      refine ⟨(field.name, value) :: taken, .cons ?_ (hfinds.imp fun _ _ => Finds.tail),
        hsub.cons_cons _, .cons ⟨rfl, .inl List.mem_cons_self⟩ (hwhole.imp ?_)⟩
      · exact ⟨hname, field, List.mem_cons_self, hname, hread _ hform⟩
      · rintro f m ⟨heq, hmem | hdefault⟩
        · exact ⟨heq, .inl (List.mem_cons_of_mem _ hmem)⟩
        · exact ⟨heq, .inr hdefault⟩
    | leave hoptional hparts =>
      obtain ⟨taken, hfinds, hsub, hwhole⟩ := ih hparts
      exact ⟨taken, hfinds.imp fun _ _ => Finds.tail, hsub.cons _,
        .cons ⟨rfl, .inr (habsent hoptional)⟩ hwhole⟩

/-- A declared member is found by its name. -/
theorem find?_name {fields : List Field} (hnames : (fields.map (·.name)).Nodup) {f : Field}
    (hf : f ∈ fields) : fields.find? (·.name = f.name) = some f := by
  induction fields with
  | nil => cases hf
  | cons g fields ih =>
    rw [List.map_cons, List.nodup_cons] at hnames
    rcases List.mem_cons.mp hf with rfl | hf
    · simp
    · have hne : g.name ≠ f.name := by
        intro heq
        exact hnames.1 (heq ▸ List.mem_map_of_mem hf)
      rw [List.find?_cons_of_neg (by simpa using hne), ih hnames.2 hf]

/-! ## Reading the members -/

theorem SpellsMembers.stops {members : List (String × Json)} {cs before : List Char}
    (h : SpellsMembers false members cs) (hbefore : Blanks before) (rest : List Char) :
    Stops (cs ++ (before ++ '\x7d' :: rest)) := by
  cases h with
  | nil =>
    rw [List.nil_append]
    exact .append_blanks hbefore (.of_head (by decide))
  | cons hlead _ _ _ _ =>
    rw [List.append_assoc]
    exact hlead.stops _

/-- A declared member that was not there yet is added to those that were found. -/
theorem named_member {fields : List Field} {f : Field} {name : String} {value result : Json}
    {found : List (String × Json)} (hfind : fields.find? (·.name = name) = some f)
    (hnew : found.lookup name = none) (hread : ReadsAs f.read value result) {isFirst : Bool}
    {lead before after cs rest : List Char} (hlead : Lead isFirst lead) (hbefore : Blanks before)
    (hafter : Blanks after) (hvalue : value.Spells cs) (hrest : Stops rest) (b : Char)
    (bound : List Char) :
    Field.named fields (b :: bound) isFirst found
        (lead ++ (quoted name ++ (before ++ ':' :: (after ++ (cs ++ rest))))) =
      Field.named fields bound false ((name, result) :: found) rest := by
  have hmark : scanMark ':' (before ++ ':' :: (after ++ (cs ++ rest))) =
      .ok (after ++ (cs ++ rest)) := scanMark_mark hbefore rfl _
  rw [Field.named, quoted_append, nextMember_lead hlead]
  simp only [ok_bind, scanText_quoted, hfind, hnew, Option.isSome_none, Bool.false_eq_true,
    if_false, hmark, hread hafter hvalue hrest]

/-- The members up to the closing bracket are collected one by one, in any order. -/
theorem named_spelled {fields : List Field} (hnames : (fields.map (·.name)).Nodup)
    {written taken : List (String × Json)} (h : List.Forall₂ (Finds fields) written taken)
    (hdistinct : (written.map (·.1)).Nodup) {isFirst : Bool} {cs bound before : List Char}
    (hcs : SpellsMembers isFirst written cs) (hbound : written.length < bound.length)
    (hbefore : Blanks before) (rest : List Char) {found : List (String × Json)}
    (hnew : ∀ m ∈ written, found.lookup m.1 = none) :
    Field.named fields bound isFirst found (cs ++ (before ++ '\x7d' :: rest)) =
      .ok (taken.reverse ++ found, before ++ '\x7d' :: rest) := by
  -- on the members in the order of the text; each is put in front of those found before it
  induction h generalizing isFirst cs bound found with
  | nil =>
    cases hcs
    cases bound with
    | nil => exact absurd hbound (Nat.lt_irrefl _)
    | cons b bound =>
      rw [Field.named, List.nil_append, nextMember_end hbefore]
      rfl
  | @cons _ member written taken hfinds _ ih =>
    cases hcs with
    | @cons _ name value _ lead blanks after cs more hlead hblanks hafter hvalue hmore =>
      cases bound with
      | nil => exact absurd hbound (Nat.not_lt_zero _)
      | cons b bound =>
        obtain ⟨resultName, result⟩ := member
        obtain ⟨heq, f, hf, hname, hread⟩ := hfinds
        obtain rfl : name = resultName := heq.symm
        rw [List.map_cons, List.nodup_cons] at hdistinct
        have hfind : fields.find? (·.name = name) = some f := by
          rw [← find?_name hnames hf, hname]
        have hfresh : found.lookup name = none := hnew _ List.mem_cons_self
        have hnew' : ∀ m ∈ written, ((name, result) :: found).lookup m.1 = none := by
          intro m hm
          have hne : m.1 ≠ name := by
            intro heq
            exact hdistinct.1 (List.mem_map.mpr ⟨m, hm, heq⟩)
          rw [List.lookup_cons, beq_false_of_ne hne]
          exact hnew m (List.mem_cons_of_mem _ hm)
        have hstep := named_member hfind hfresh hread hlead hblanks hafter hvalue
          (hmore.stops hbefore rest) b bound
        have hrest := ih hdistinct.2 hmore (Nat.lt_of_succ_lt_succ hbound) hnew'
        simp only [List.append_assoc, List.cons_append] at hstep ⊢
        rw [hstep, hrest, List.reverse_cons, List.append_assoc, List.singleton_append]

/-- The members that were found are completed by the defaults. -/
theorem complete_eq {found values : List (String × Json)} {fields : List Field}
    (h : List.Forall₂ (fun (f : Field) m => m.1 = f.name ∧
      (found.lookup f.name = some m.2 ∨ found.lookup f.name = none ∧ f.default? = some m.2))
      fields values) :
    Field.complete found fields = .ok values := by
  induction h with
  | nil => rfl
  | @cons f m _ _ hfield _ ih =>
    obtain ⟨name, value⟩ := m
    obtain ⟨heq, hfound | ⟨hmissing, hdefault⟩⟩ := hfield
    · cases heq
      simp only [Field.complete, hfound, ih, ok_bind]
      rfl
    · cases heq
      simp only [Field.complete, hmissing, Field.absent, hdefault, ih, ok_bind]
      rfl

/-- The value found for a name is one that was collected under it. -/
theorem mem_of_lookup {members : List (String × Json)} {name : String} {value : Json}
    (h : members.lookup name = some value) : (name, value) ∈ members := by
  obtain ⟨before, after, rfl, -⟩ := List.lookup_eq_some_iff.mp h
  simp

/-- A name stands for one of the values only. -/
theorem value_unique {members : List (String × Json)} (hnames : (members.map (·.1)).Nodup)
    {name : String} {v w : Json} (hv : (name, v) ∈ members) (hw : (name, w) ∈ members) : v = w :=
  congrArg Prod.snd (List.inj_on_of_nodup_map hnames hv hw rfl)

/-- What was collected of distinct values, in any order, is completed to all of them if the others
are defaults. -/
theorem complete_taken {fields : List Field} {values taken found : List (String × Json)}
    (hnames : (values.map (·.1)).Nodup) (hsub : taken.Sublist values)
    (hwhole : List.Forall₂ (Covered taken) fields values)
    (hfound : found.Perm taken) : Field.complete found fields = .ok values := by
  refine complete_eq (List.forall₂_iff_zip.mpr ⟨hwhole.length_eq, fun {f m} hmem => ?_⟩)
  obtain ⟨heq, hpart⟩ := List.forall₂_zip hwhole hmem
  have hm : m ∈ values := (List.of_mem_zip hmem).2
  refine ⟨heq, ?_⟩
  cases hlookup : found.lookup f.name with
  | some value =>
    have hvalue : (f.name, value) ∈ values :=
      hsub.subset (hfound.subset (mem_of_lookup hlookup))
    have hmember : (f.name, m.2) ∈ values := by rwa [← heq]
    exact .inl (congrArg some (value_unique hnames hvalue hmember))
  | none =>
    refine .inr ⟨rfl, hpart.resolve_left fun htaken => ?_⟩
    have hne := List.lookup_eq_none_iff.mp hlookup m (hfound.symm.subset htaken)
    simp [heq] at hne

/-- An object is read in full from any of its members that may be written, in any order. -/
theorem reads_object {fields : List Field} {parts : List Part} {values : List (String × Json)}
    (htakes : Takes fields parts values) (hnames : (fields.map (·.name)).Nodup) {written : Json}
    (hwritten : Assembled parts written) : ReadsAs (.object fields) written (.object values) := by
  obtain ⟨chosen, members, hchosen, hperm, rfl⟩ := hwritten
  obtain ⟨taken, hfinds, hsub, hwhole⟩ := htakes.choose hchosen
  -- what is read of the members, in the order in which they stand
  obtain ⟨arranged, hfinds', harranged⟩ := List.perm_comp_forall₂ hperm hfinds
  have hvalues : (values.map (·.1)).Nodup := by rwa [htakes.names]
  have hdistinct : (members.map (·.1)).Nodup := by
    rw [← finds_names hfinds', (harranged.map _).nodup_iff]
    exact hvalues.sublist (hsub.map _)
  intro before cs rest hbefore hcs _
  cases hcs with
  | @object _ cs last hmembers hlast =>
    have hbound := lt_length_closed hmembers.length_le last '\x7d' rest
    have hread := named_spelled hnames hfinds' hdistinct hmembers hbound hlast rest
      (fun _ _ => List.lookup_nil)
    rw [List.append_nil] at hread
    have hcomplete := complete_taken hvalues hsub hwhole
      ((List.reverse_perm arranged).trans harranged)
    have hclose : scanMark '\x7d' (last ++ '\x7d' :: rest) = .ok rest :=
      scanMark_mark hlast rfl rest
    rw [List.cons_append, Reader.object, skipBlanks_piece hbefore rfl]
    simp only [List.append_assoc, List.singleton_append, hread, ok_bind, hcomplete, hclose]
    rfl

end CameraRecorder.Json

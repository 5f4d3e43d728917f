import CameraRecorder.Proofs.Path

/-!
# Where paths lead

A path leads to a place, and passes others on its way there (`Path.place`, `Path.way`), whether or
not anything stands at them. On a disk that is a tree (`Disk.Sound`) the operations find a file
exactly at the place that its path leads to.
-/

namespace CameraRecorder

namespace Location

/-- The place that a name leads to from `loc`. -/
def next (loc : Location) (name : Bytes) : Location :=
  if name = Path.above then loc.parent else loc.inside name

/-- The place that names lead to. -/
def after (loc : Location) (names : List Bytes) : Location := names.foldl next loc

/-- The places that names pass, the one they lead to included. -/
def passed (loc : Location) : List Bytes → List Location
  | [] => []
  | name :: names => loc.next name :: (loc.next name).passed names

@[simp] theorem after_nil (loc : Location) : loc.after [] = loc := rfl

@[simp] theorem after_cons (loc : Location) (name : Bytes) (names : List Bytes) :
    loc.after (name :: names) = (loc.next name).after names := rfl

theorem after_concat (loc : Location) (names : List Bytes) (name : Bytes) :
    loc.after (names ++ [name]) = (loc.after names).next name := by
  simp [after]

theorem passed_append (loc : Location) (names more : List Bytes) :
    loc.passed (names ++ more) = loc.passed names ++ (loc.after names).passed more := by
  induction names generalizing loc with
  | nil => rfl
  | cons name names ih => simp [passed, ih]

theorem inside_ne_root (loc : Location) (name : Bytes) : loc.inside name ≠ root := by
  intro h
  have hdepth := congrArg depth h
  simp [inside, root] at hdepth

end Location

namespace Path

/-- The directory where a path begins, if relative paths begin at `home`. -/
def start (p : Path) (home : Location) : Location := if p.isAbsolute then .root else home

/-- The place that a path leads to. -/
def place (p : Path) (home : Location) : Location := (p.start home).after p.names

/-- The places that a path passes, the one it leads to included. -/
def way (p : Path) (home : Location) : List Location := (p.start home).passed p.names

theorem place_mem_way {p : Path} (h : p.names ≠ []) (home : Location) :
    p.place home ∈ p.way home := by
  rcases List.eq_nil_or_concat p.names with hnil | ⟨names, name, hnames⟩
  · exact absurd hnil h
  · rw [List.concat_eq_append] at hnames
    rw [place, way, hnames, Location.after_concat, Location.passed_append]
    exact List.mem_append_right _ List.mem_cons_self

theorem start_parent (p : Path) (home : Location) : p.parent.start home = p.start home := by
  rw [start, isAbsolute_parent, start]

/-- The directory of a file is on the way to it, and so is what leads there. -/
theorem way_parent_subset (p : Path) (home : Location) : p.parent.way home ⊆ p.way home := by
  rw [way, way, start_parent, names_parent]
  rcases List.eq_nil_or_concat p.names with hnil | ⟨names, name, hnames⟩
  · rw [hnil]
    exact List.Subset.refl _
  · rw [List.concat_eq_append] at hnames
    rw [hnames, List.dropLast_concat, Location.passed_append]
    exact List.subset_append_left _ _

end Path

namespace Disk

variable {d : Disk} {p : Path} {loc loc' : Location} {name : Bytes} {id : Nat}

theorem startOf_eq (d : Disk) (p : Path) : d.startOf p = p.start d.home := rfl

/-- A disk is a tree: what stands somewhere stands in a directory, and no file has two names. -/
structure Sound (d : Disk) : Prop where
  home : d.node? d.home = some .directory
  parent : ∀ loc node, d.node? loc = some node → d.node? loc.parent = some .directory
  file : ∀ loc id, d.node? loc = some (.file id) → id < d.contents.length
  unique : ∀ loc loc' id, d.node? loc = some (.file id) → d.node? loc' = some (.file id) →
    loc = loc'

/-! ## Nodes -/

@[simp] theorem node?_root (d : Disk) : d.node? .root = some .directory := if_pos rfl

theorem node?_of_ne (d : Disk) (h : loc ≠ .root) : d.node? loc = d.nodes.lookup loc := if_neg h

theorem lookup_cons (loc place : Location) (node : Node) (nodes : List (Location × Node)) :
    ((place, node) :: nodes).lookup loc = if loc = place then some node else nodes.lookup loc := by
  rw [List.lookup_cons]
  by_cases h : loc = place
  · simp [h]
  · simp [h, beq_eq_false_iff_ne.mpr h]

theorem node?_add (d : Disk) (loc : Location) (name : Bytes) (node : Node) (loc' : Location) :
    (d.add (loc.inside name) node).node? loc'
      = if loc' = loc.inside name then some node else d.node? loc' := by
  by_cases hroot : loc' = .root
  · subst hroot
    rw [if_neg (Ne.symm (loc.inside_ne_root name)), node?_root, node?_root]
  · rw [node?_of_ne _ hroot, node?_of_ne _ hroot, add, lookup_cons]

theorem node?_erase (d : Disk) (loc : Location) (name : Bytes) (loc' : Location) :
    (d.erase (loc.inside name)).node? loc'
      = if loc' = loc.inside name then none else d.node? loc' := by
  have hlookup (nodes : List (Location × Node)) :
      (nodes.filter (·.1 ≠ loc.inside name)).lookup loc'
        = if loc' = loc.inside name then none else nodes.lookup loc' := by
    induction nodes with
    | nil => simp
    | cons entry nodes ih =>
      obtain ⟨place, node⟩ := entry
      by_cases hentry : place = loc.inside name
      · rw [List.filter_cons_of_neg (by simpa using hentry), ih, lookup_cons, hentry]
        by_cases h : loc' = loc.inside name <;> simp [h]
      · rw [List.filter_cons_of_pos (by simpa using hentry), lookup_cons, lookup_cons, ih]
        by_cases h : loc' = place
        · subst h
          simp [hentry]
        · simp [h]
  by_cases hroot : loc' = .root
  · subst hroot
    rw [if_neg (Ne.symm (loc.inside_ne_root name)), node?_root, node?_root]
  · rw [node?_of_ne _ hroot, node?_of_ne _ hroot]
    exact hlookup d.nodes

theorem node?_put (d : Disk) (loc : Location) (name : Bytes) (node : Node) (loc' : Location) :
    (d.put (loc.inside name) node).node? loc'
      = if loc' = loc.inside name then some node else d.node? loc' := by
  rw [put, node?_add, node?_erase]
  by_cases h : loc' = loc.inside name <;> simp [h]

/-! ## Walking -/

/-- What is reached through a name is where the name leads, and a directory. -/
theorem Sound.enter (hd : d.Sound) (hloc : d.node? loc = some .directory)
    (h : d.enter? loc name = some loc') :
    loc' = loc.next name ∧ d.node? loc' = some .directory := by
  unfold enter? at h
  rw [Location.next]
  by_cases habove : name = Path.above
  · rw [if_pos habove] at h ⊢
    cases h
    exact ⟨rfl, hd.parent _ _ hloc⟩
  · rw [if_neg habove] at h ⊢
    split at h
    · next hnode =>
      cases h
      exact ⟨rfl, hnode⟩
    · cases h

/-- What is reached through names is where they lead, and a directory. -/
theorem Sound.walk (hd : d.Sound) {names : List Bytes} (hloc : d.node? loc = some .directory)
    (h : d.walk? loc names = some loc') :
    loc' = loc.after names ∧ d.node? loc' = some .directory := by
  induction names generalizing loc with
  | nil =>
    cases h
    exact ⟨rfl, hloc⟩
  | cons name names ih =>
    rw [walk?, List.foldlM_cons] at h
    obtain ⟨mid, henter, hrest⟩ := Option.bind_eq_some_iff.mp h
    obtain ⟨rfl, hmid⟩ := hd.enter hloc henter
    exact ih hmid hrest

theorem Sound.start (hd : d.Sound) (p : Path) : d.node? (p.start d.home) = some .directory := by
  unfold Path.start
  split
  · exact d.node?_root
  · exact hd.home

/-- A walk goes on as long as no directory is lost. -/
theorem walk?_mono {d' : Disk}
    (hdir : ∀ loc, d.node? loc = some .directory → d'.node? loc = some .directory)
    {names : List Bytes} (h : d.walk? loc names = some loc') : d'.walk? loc names = some loc' := by
  induction names generalizing loc with
  | nil => exact h
  | cons name names ih =>
    rw [walk?, List.foldlM_cons] at h ⊢
    obtain ⟨mid, henter, hrest⟩ := Option.bind_eq_some_iff.mp h
    refine Option.bind_eq_some_iff.mpr ⟨mid, ?_, ih hrest⟩
    unfold enter? at henter ⊢
    by_cases habove : name = Path.above
    · rwa [if_pos habove] at henter ⊢
    · rw [if_neg habove] at henter ⊢
      split at henter
      · next hnode => rwa [hdir _ hnode]
      · cases henter

/-! ## Files -/

/-- Where a path can name a file: in a directory that can be walked to, and under a name that a
directory can hold. -/
theorem place?_eq_some_iff : d.place? p = some loc ↔ ∃ init name dir,
    p.segments = init ++ [name] ∧
      (Path.isIdle name = false ∧ name ≠ Path.above ∧ isUsable name = true ∧
        isSpellable p = true) ∧
      d.walk? (p.start d.home) (init.filter (!Path.isIdle ·)) = some dir ∧
      loc = dir.inside name := by
  rcases List.eq_nil_or_concat p.segments with hnil | ⟨init, name, hsegments⟩
  · exact absurd hnil (Path.split_ne_nil _)
  rw [List.concat_eq_append] at hsegments
  have hnames (hname : Path.isIdle name = false) :
      p.names.dropLast = init.filter (!Path.isIdle ·) := by
    rw [Path.names_of_segments hsegments hname, List.dropLast_concat]
  have hlast : p.segments.getLast? = some name := by simp [hsegments]
  have hcannot : (Path.isIdle name || decide (name = Path.above) || !isUsable name ||
      !isSpellable p) = false ↔ Path.isIdle name = false ∧ name ≠ Path.above ∧
        isUsable name = true ∧ isSpellable p = true := by
    simp [and_assoc]
  have hsplit {init' : List Bytes} {name' : Bytes} (h : p.segments = init' ++ [name']) :
      init' = init ∧ name' = name := by
    obtain ⟨rfl, hname⟩ := List.append_inj' (h.symm.trans hsegments) rfl
    exact ⟨rfl, (List.cons.inj hname).1⟩
  unfold place?
  rw [hlast, startOf_eq]
  simp only
  cases hname : (Path.isIdle name || decide (name = Path.above) || !isUsable name ||
      !isSpellable p) with
  | true =>
    rw [if_pos rfl]
    constructor
    · intro h
      cases h
    · rintro ⟨init', name', dir, h, hgood, -, -⟩
      obtain ⟨rfl, rfl⟩ := hsplit h
      cases hname.symm.trans (hcannot.mpr hgood)
  | false =>
    have hgood := hcannot.mp hname
    rw [if_neg (by simp), Option.map_eq_some_iff, hnames hgood.1]
    constructor
    · rintro ⟨dir, hdir, rfl⟩
      exact ⟨init, name, dir, hsegments, hgood, hdir, rfl⟩
    · rintro ⟨init', name', dir, h, -, hdir, rfl⟩
      obtain ⟨rfl, rfl⟩ := hsplit h
      exact ⟨dir, hdir, rfl⟩

/-- Where a path can name a file, it leads, and it leads into a directory. -/
theorem Sound.place (hd : d.Sound) (h : d.place? p = some loc) :
    loc = p.place d.home ∧ loc ∈ p.way d.home ∧
      ∃ dir name, loc = dir.inside name ∧ d.node? dir = some .directory := by
  obtain ⟨init, name, dir, hsegments, ⟨hidle, habove, -, -⟩, hwalk, rfl⟩ :=
    place?_eq_some_iff.mp h
  obtain ⟨hdir, hnode⟩ := hd.walk (hd.start p) hwalk
  have hnames := Path.names_of_segments hsegments hidle
  have hplace : dir.inside name = p.place d.home := by
    rw [Path.place, hnames, Location.after_concat, ← hdir, Location.next, if_neg habove]
  refine ⟨hplace, ?_, dir, name, rfl, hnode⟩
  rw [hplace]
  exact Path.place_mem_way (by rw [hnames]; simp) _

/-- A path can name a file as long as no directory is lost. -/
theorem place?_mono {d' : Disk} (hhome : d'.home = d.home)
    (hdir : ∀ loc, d.node? loc = some .directory → d'.node? loc = some .directory)
    (h : d.place? p = some loc) : d'.place? p = some loc := by
  obtain ⟨init, name, dir, hsegments, hname, hwalk, hloc⟩ := place?_eq_some_iff.mp h
  refine place?_eq_some_iff.mpr ⟨init, name, dir, hsegments, hname, ?_, hloc⟩
  rw [hhome]
  exact walk?_mono hdir hwalk

/-- **A path leads to a file when the file stands where it leads**, and a file can stand there. -/
theorem Sound.lookup_eq_file_iff (hd : d.Sound) : d.lookup? p = some (.file id) ↔
    d.place? p = some (p.place d.home) ∧ d.node? (p.place d.home) = some (.file id) := by
  unfold lookup?
  rw [startOf_eq]
  constructor
  · intro h
    split at h
    · cases h
    · split at h
      · cases h
      · obtain ⟨loc, hplace, hnode⟩ := Option.bind_eq_some_iff.mp h
        obtain rfl := (hd.place hplace).1
        exact ⟨hplace, hnode⟩
  · rintro ⟨hplace, hnode⟩
    obtain ⟨init, name, dir, hsegments, ⟨hidle, -, -, hspell⟩, -, -⟩ := place?_eq_some_iff.mp hplace
    have hsome : p.bytes.isEmpty = false := by
      cases hbytes : p.bytes with
      | cons b rest => rfl
      | nil =>
        rw [Path.segments, hbytes] at hsegments
        obtain ⟨-, hlast⟩ := List.append_inj' (show [] ++ [[]] = init ++ [name] from hsegments) rfl
        cases hlast
        cases hidle
    rw [hsome, hspell]
    simp only [Bool.not_true, Bool.or_self, Bool.false_eq_true, if_false]
    cases hwalk : d.walk? (p.start d.home) p.names with
    | none => exact Option.bind_eq_some_iff.mpr ⟨_, hplace, hnode⟩
    | some dir =>
      -- a directory would stand there
      obtain ⟨hdir, hnode'⟩ := hd.walk (hd.start p) hwalk
      rw [hdir] at hnode'
      cases hnode.symm.trans hnode'

/-- A path leads to nothing when nothing stands where it leads. -/
theorem Sound.contains_eq_false (hd : d.Sound) (h : d.node? (p.place d.home) = none) :
    d.contains p = false := by
  unfold contains lookup?
  rw [startOf_eq]
  split
  · rfl
  · cases hwalk : d.walk? (p.start d.home) p.names with
    | some dir =>
      obtain ⟨hdir, hnode⟩ := hd.walk (hd.start p) hwalk
      rw [hdir] at hnode
      cases h.symm.trans hnode
    | none =>
      cases hplace : d.place? p with
      | none => rfl
      | some loc =>
        rw [(hd.place hplace).1]
        simp [h]

/-- Where a file in progress can be, the finished file can be, unless a directory is there. -/
theorem Sound.place_finished (hd : d.Sound) (h : d.place? p.inProgress = some loc)
    (hfree : d.node? (p.place d.home) ≠ some .directory) : d.place? p = some (p.place d.home) := by
  obtain ⟨init, name, dir, hsegments, ⟨-, -, husable, hspell⟩, hwalk, -⟩ :=
    place?_eq_some_iff.mp h
  obtain ⟨init', last, hlast, hmarked⟩ := p.exists_segments_inProgress
  obtain ⟨rfl, hname⟩ := List.append_inj' (hmarked.symm.trans hsegments) rfl
  cases hname
  have hstart : p.inProgress.start d.home = p.start d.home := by
    rw [Path.start, Path.isAbsolute_inProgress, Path.start]
  rw [hstart] at hwalk
  obtain ⟨hdir, hnode⟩ := hd.walk (hd.start p) hwalk
  have hnames : p.names = init'.filter (!Path.isIdle ·) ++ [last].filter (!Path.isIdle ·) := by
    rw [Path.names, hlast, List.filter_append]
  have hidle : Path.isIdle last = false := by
    refine Bool.eq_false_iff.mpr fun hidle => hfree ?_
    rw [Path.place, hnames]
    simpa [hidle, ← hdir] using hnode
  have hnames : p.names = init'.filter (!Path.isIdle ·) ++ [last] := by
    rw [hnames]
    simp [hidle]
  have habove : last ≠ Path.above := by
    intro habove
    refine hfree ?_
    rw [Path.place, hnames, Location.after_concat, ← hdir, Location.next, if_pos habove]
    exact hd.parent _ _ hnode
  have hplace : d.place? p = some (dir.inside last) := by
    refine place?_eq_some_iff.mpr ⟨init', last, dir, hlast, ⟨hidle, habove, ?_, ?_⟩, hwalk, rfl⟩
    · simp [isUsable] at husable ⊢
      omega
    · simp [isSpellable, Path.inProgress, Path.append] at hspell ⊢
      refine ⟨by omega, hspell.2.1⟩
  rw [hplace, (hd.place hplace).1]

end Disk

end CameraRecorder

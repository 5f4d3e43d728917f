import CameraRecorder.Proofs.Disk.Places

/-!
# What the operations of a disk leave alone

Every operation is about a few places, and leaves the rest of the tree as it is, down to the
contents of the files there (`Disk.ChangesOnly`). A directory that exists is never lost. So a file
stays as it is while others are created, written and renamed elsewhere.
-/

namespace CameraRecorder

namespace Disk

variable {d d' d'' : Disk} {places : List Location} {p : Path} {loc loc' : Location}
  {name : Bytes} {id : Nat}

/-- From one disk to the next nothing changes but what stands at `places`. -/
structure ChangesOnly (d : Disk) (places : List Location) (d' : Disk) : Prop where
  sound : d'.Sound
  home : d'.home = d.home
  directory : ∀ loc, d.node? loc = some .directory → d'.node? loc = some .directory
  node : ∀ loc ∉ places, d'.node? loc = d.node? loc
  content : ∀ loc ∉ places, ∀ id, d.node? loc = some (.file id) → d'.content id = d.content id

theorem Sound.unchanged (hd : d.Sound) (places : List Location) : d.ChangesOnly places d where
  sound := hd
  home := rfl
  directory _ h := h
  node _ _ := rfl
  content _ _ _ _ := rfl

theorem ChangesOnly.trans (h : d.ChangesOnly places d') (h' : d'.ChangesOnly places d'') :
    d.ChangesOnly places d'' where
  sound := h'.sound
  home := h'.home.trans h.home
  directory loc hloc := h'.directory loc (h.directory loc hloc)
  node loc hloc := (h'.node loc hloc).trans (h.node loc hloc)
  content loc hloc id hid :=
    (h'.content loc hloc id ((h.node loc hloc).trans hid)).trans (h.content loc hloc id hid)

theorem ChangesOnly.mono {more : List Location} (h : d.ChangesOnly places d')
    (hsub : places ⊆ more) : d.ChangesOnly more d' where
  sound := h.sound
  home := h.home
  directory := h.directory
  node loc hloc := h.node loc fun hmem => hloc (hsub hmem)
  content loc hloc := h.content loc fun hmem => hloc (hsub hmem)

/-- A file elsewhere is still found, with the content it had. -/
theorem ChangesOnly.lookup_file (h : d.ChangesOnly places d') (hd : d.Sound)
    (hoff : p.place d.home ∉ places) (hfile : d.lookup? p = some (.file id)) :
    d'.lookup? p = some (.file id) ∧ d'.content id = d.content id := by
  obtain ⟨hplace, hnode⟩ := hd.lookup_eq_file_iff.mp hfile
  refine ⟨h.sound.lookup_eq_file_iff.mpr ⟨?_, ?_⟩, h.content _ hoff id hnode⟩
  · rw [h.home]
    exact place?_mono h.home h.directory hplace
  · rw [h.home, h.node _ hoff, hnode]

/-- A file stands on the way to it. -/
theorem Sound.mem_way (hd : d.Sound) (hfile : d.lookup? p = some (.file id)) :
    p.place d.home ∈ p.way d.home := by
  obtain ⟨hplace, -⟩ := hd.lookup_eq_file_iff.mp hfile
  exact (hd.place hplace).2.1

theorem exists_lookup_of_read {data : Bytes} (h : d.read? p = some data) :
    ∃ id, d.lookup? p = some (.file id) ∧ d.content id = data := by
  unfold read? at h
  split at h
  · next id hfile =>
    cases h
    exact ⟨id, hfile, rfl⟩
  · cases h

theorem read_of_lookup (h : d.lookup? p = some (.file id)) : d.read? p = some (d.content id) := by
  rw [read?, h]

/-- What is read elsewhere stays the same. -/
theorem ChangesOnly.read (h : d.ChangesOnly places d') (hd : d.Sound)
    (hoff : p.place d.home ∉ places) {data : Bytes} (hread : d.read? p = some data) :
    d'.read? p = some data := by
  obtain ⟨id, hfile, rfl⟩ := exists_lookup_of_read hread
  obtain ⟨hfile', hcontent⟩ := h.lookup_file hd hoff hfile
  rw [read_of_lookup hfile', hcontent]

/-! ## New nodes -/

/-- A directory or a new file is added at a free place. -/
theorem Sound.add (hd : d.Sound) (hdir : d.node? loc = some .directory)
    (hfree : d.node? (loc.inside name) = none) {node : Node} {more : List Bytes}
    (hnew : ∀ id, node = .file id → id = d.contents.length ∧ more ≠ []) :
    d.ChangesOnly [loc.inside name]
      { d.add (loc.inside name) node with contents := d.contents ++ more } := by
  let added : Disk := { d.add (loc.inside name) node with contents := d.contents ++ more }
  have hnode : ∀ loc', added.node? loc' = if loc' = loc.inside name then some node
      else d.node? loc' := d.node?_add loc name node
  have hlength : added.contents.length = d.contents.length + more.length := List.length_append
  have hkeeps {loc' : Location} {node' : Node} (h : d.node? loc' = some node') :
      added.node? loc' = some node' := by
    rw [hnode, if_neg, h]
    rintro rfl
    cases hfree.symm.trans h
  refine ⟨⟨hkeeps hd.home, ?_, ?_, ?_⟩, rfl, fun _ => hkeeps, ?_, ?_⟩
  · intro loc' node' h
    rw [hnode] at h
    split at h
    · next heq =>
      rw [heq, Location.parent_inside]
      exact hkeeps hdir
    · exact hkeeps (hd.parent loc' node' h)
  · intro loc' id h
    rw [hnode] at h
    rw [hlength]
    split at h
    · obtain ⟨rfl, hmore⟩ := hnew id (Option.some.inj h)
      have := List.length_pos_iff.mpr hmore
      omega
    · have := hd.file loc' id h
      omega
  · intro a b id ha hb
    rw [hnode] at ha hb
    -- the new number was given to no file before
    have hfresh {loc' : Location} (hid : node = .file id) (h : d.node? loc' = some (.file id)) :
        False := by
      have := hd.file loc' id h
      have := (hnew id hid).1
      omega
    split at ha <;> split at hb
    · next ha' hb' => rw [ha', hb']
    · exact (hfresh (Option.some.inj ha) hb).elim
    · exact (hfresh (Option.some.inj hb) ha).elim
    · exact hd.unique a b id ha hb
  · intro loc' hoff
    exact (hnode loc').trans (if_neg (by simpa using hoff))
  · intro loc' hoff id h
    show (d.contents ++ more).getD id [] = d.contents.getD id []
    simp [List.getD, List.getElem?_append_left (hd.file loc' id h)]

theorem Sound.add_directory (hd : d.Sound) (hdir : d.node? loc = some .directory)
    (hfree : d.node? (loc.inside name) = none) :
    d.ChangesOnly [loc.inside name] (d.add (loc.inside name) .directory) := by
  have hadd : d.ChangesOnly [loc.inside name]
      { d.add (loc.inside name) .directory with contents := d.contents ++ [] } :=
    hd.add hdir hfree nofun
  rwa [List.append_nil] at hadd

/-- A disk stays a tree when a file is moved to where no directory is. -/
theorem Sound.moved {dir dir' : Location} {name name' : Bytes} (hd : d.Sound)
    (hnode : d.node? (dir.inside name) = some (.file id))
    (hdir : d.node? dir' = some .directory)
    (hfree : d.node? (dir'.inside name') ≠ some .directory) :
    let moved := (d.erase (dir.inside name)).put (dir'.inside name') (.file id)
    moved.Sound ∧ ∀ loc, d.node? loc = some .directory → moved.node? loc = some .directory := by
  intro moved
  have hmoved (x : Location) : moved.node? x = if x = dir'.inside name' then some (.file id)
      else if x = dir.inside name then none else d.node? x := by
    rw [node?_put, node?_erase]
  have hkeeps {x : Location} (h : d.node? x = some .directory) :
      moved.node? x = some .directory := by
    rw [hmoved, if_neg, if_neg, h]
    · rintro rfl
      cases hnode.symm.trans h
    · rintro rfl
      exact hfree h
  -- what stood elsewhere did not have this number
  have hothers {x : Location} {node : Node}
      (h : (if x = dir.inside name then none else d.node? x) = some node) :
      d.node? x = some node ∧ node ≠ .file id := by
    split at h
    · cases h
    · next hx =>
      refine ⟨h, ?_⟩
      rintro rfl
      exact hx (hd.unique x _ id h hnode)
  refine ⟨⟨hkeeps hd.home, ?_, ?_, ?_⟩, fun _ => hkeeps⟩
  · intro x node h
    rw [hmoved] at h
    split at h
    · next heq =>
      rw [heq, Location.parent_inside]
      exact hkeeps hdir
    · exact hkeeps (hd.parent x node (hothers h).1)
  · intro x id' h
    rw [hmoved] at h
    split at h
    · cases h
      exact hd.file _ _ hnode
    · exact hd.file x id' (hothers h).1
  · intro x y id' hx hy
    rw [hmoved] at hx hy
    split at hx <;> split at hy
    · next hx' hy' => rw [hx', hy']
    · cases hx
      exact absurd rfl (hothers hy).2
    · cases hy
      exact absurd rfl (hothers hx).2
    · exact hd.unique x y id' (hothers hx).1 (hothers hy).1

/-- A file is moved to a free place. -/
theorem Sound.move {dir dir' : Location} {name name' : Bytes} (hd : d.Sound)
    (hnode : d.node? (dir.inside name) = some (.file id))
    (hdir : d.node? dir' = some .directory) (hfree : d.node? (dir'.inside name') = none) :
    let moved := (d.erase (dir.inside name)).put (dir'.inside name') (.file id)
    d.ChangesOnly [dir.inside name, dir'.inside name'] moved ∧
      moved.node? (dir'.inside name') = some (.file id) ∧
      moved.node? (dir.inside name) = none := by
  intro moved
  have hmoved (x : Location) : moved.node? x = if x = dir'.inside name' then some (.file id)
      else if x = dir.inside name then none else d.node? x := by
    rw [node?_put, node?_erase]
  have hne : dir.inside name ≠ dir'.inside name' := by
    intro h
    rw [h, hfree] at hnode
    cases hnode
  have hnew : d.node? (dir'.inside name') ≠ some .directory := by simp [hfree]
  obtain ⟨hsound, hkeeps⟩ := hd.moved hnode hdir hnew
  refine ⟨⟨hsound, rfl, hkeeps, ?_, fun _ _ _ _ => rfl⟩, ?_, ?_⟩
  · intro x hoff
    obtain ⟨hold, hnew⟩ : x ≠ dir.inside name ∧ x ≠ dir'.inside name' := by simpa using hoff
    rw [hmoved, if_neg hnew, if_neg hold]
  · rw [hmoved, if_pos rfl]
  · rw [hmoved, if_neg hne, if_pos rfl]

/-! ## Contents -/

/-- Writing into a file changes nothing elsewhere. -/
theorem Sound.set_content (hd : d.Sound) (h : d.node? loc = some (.file id)) (data : Bytes) :
    d.ChangesOnly [loc] { d with contents := d.contents.set id data } := by
  refine ⟨⟨hd.home, hd.parent, ?_, hd.unique⟩, rfl, fun _ hdir => hdir, fun _ _ => rfl, ?_⟩
  · intro loc' id' h'
    show id' < (d.contents.set id data).length
    rw [List.length_set]
    exact hd.file loc' id' h'
  · intro loc' hoff id' h'
    have hne : id ≠ id' := by
      rintro rfl
      exact hoff (List.mem_singleton.mpr (hd.unique loc' loc id h' h))
    show (d.contents.set id data).getD id' [] = d.contents.getD id' []
    simp [List.getD, hne]

theorem Sound.content_set (hd : d.Sound) (h : d.node? loc = some (.file id)) (data : Bytes) :
    ({ d with contents := d.contents.set id data } : Disk).content id = data := by
  show (d.contents.set id data).getD id [] = data
  simp [List.getD, hd.file loc id h]

/-! ## Operations -/

/-- Entering a directory changes nothing but its place, where it is created if nothing is there. -/
theorem Sound.enterOrCreate (hd : d.Sound) (hloc : d.node? loc = some .directory) (name : Bytes) :
    d.ChangesOnly [loc.next name] (d.enterOrCreate loc name).1 ∧
      ∀ next, (d.enterOrCreate loc name).2 = some next →
        next = loc.next name ∧ (d.enterOrCreate loc name).1.node? next = some .directory := by
  unfold Disk.enterOrCreate Location.next
  by_cases habove : name = Path.above
  · rw [if_pos habove, if_pos habove]
    refine ⟨hd.unchanged _, fun next h => ?_⟩
    cases h
    exact ⟨rfl, hd.parent _ _ hloc⟩
  · rw [if_neg habove, if_neg habove]
    cases hnode : d.node? (loc.inside name) with
    | none =>
      by_cases husable : isUsable name = true
      · simp only [husable, if_true]
        refine ⟨hd.add_directory hloc hnode, fun next h => ?_⟩
        cases h
        exact ⟨rfl, by rw [node?_add, if_pos rfl]⟩
      · simp only [husable]
        exact ⟨hd.unchanged _, nofun⟩
    | some node =>
      cases node with
      | directory =>
        refine ⟨hd.unchanged _, fun next h => ?_⟩
        cases h
        exact ⟨rfl, hnode⟩
      | file id => exact ⟨hd.unchanged _, nofun⟩

/-- Creating directories changes nothing but the places that are passed. -/
theorem Sound.createAlong (hd : d.Sound) (hloc : d.node? loc = some .directory)
    (names : List Bytes) : d.ChangesOnly (loc.passed names) (d.createAlong loc names).1 ∧
      ∀ reached, (d.createAlong loc names).2 = some reached →
        (d.createAlong loc names).1.node? reached = some .directory := by
  induction names generalizing d loc with
  | nil =>
    refine ⟨hd.unchanged _, fun reached h => ?_⟩
    cases h
    exact hloc
  | cons name names ih =>
    obtain ⟨hchanges, hnext⟩ := hd.enterOrCreate hloc name
    have hchanges : d.ChangesOnly (loc.passed (name :: names)) (d.enterOrCreate loc name).1 :=
      hchanges.mono (List.cons_subset_cons _ (List.nil_subset _))
    rw [Disk.createAlong]
    generalize d.enterOrCreate loc name = made at hchanges hnext ⊢
    obtain ⟨made, next⟩ := made
    cases next with
    | none => exact ⟨hchanges, nofun⟩
    | some next =>
      obtain ⟨rfl, hdir⟩ := hnext next rfl
      obtain ⟨hrest, hreached⟩ := ih hchanges.sound hdir
      exact ⟨hchanges.trans (hrest.mono (List.subset_cons_self _ _)), hreached⟩

/-- Directories are created from the outermost on, and not all of them if that fails. -/
theorem createParents_eq (d : Disk) (p : Path) (limit : Option Nat) : ∃ names more,
    p.parent.names = names ++ more ∧
      (d.createParents p limit).1 = (d.createAlong (d.startOf p.parent) names).1 := by
  have hall : ∃ names more, p.parent.names = names ++ more ∧
      (d.createDirectories p.parent).1 = (d.createAlong (d.startOf p.parent) names).1 := by
    unfold createDirectories
    split
    · exact ⟨[], _, rfl, rfl⟩
    · split
      · refine ⟨p.parent.names.dropLast, p.parent.names.drop (p.parent.names.length - 1), ?_, rfl⟩
        rw [List.dropLast_eq_take, List.take_append_drop]
      · exact ⟨p.parent.names, [], (List.append_nil _).symm, rfl⟩
  unfold createParents
  simp only
  split
  · exact hall
  · next count _ =>
    split
    · exact ⟨_, _, (List.take_append_drop count _).symm, rfl⟩
    · exact ⟨[], _, rfl, rfl⟩

/-- Creating the directory of a file changes nothing but the places on the way to the file. -/
theorem Sound.createParents (hd : d.Sound) (p : Path) (limit : Option Nat) :
    d.ChangesOnly (p.way d.home) (d.createParents p limit).1 := by
  obtain ⟨names, more, hnames, hmade⟩ := d.createParents_eq p limit
  rw [hmade, startOf_eq]
  refine (hd.createAlong (hd.start _) names).1.mono ?_
  refine List.Subset.trans ?_ (p.way_parent_subset d.home)
  rw [Path.way, hnames, Location.passed_append]
  exact List.subset_append_left _ _

/-- Opening a file changes nothing elsewhere, and the file is empty then. -/
theorem Sound.create (hd : d.Sound) (h : d.create? p = some (id, d')) :
    d.ChangesOnly [p.place d.home] d' ∧ d'.lookup? p = some (.file id) ∧ d'.content id = [] := by
  unfold create? at h
  cases hplace : d.place? p with
  | none =>
    rw [hplace] at h
    cases h
  | some loc =>
    obtain ⟨rfl, -, dir, name, hloc, hdir⟩ := hd.place hplace
    simp only [hplace] at h
    have hfound (hchanges : d.ChangesOnly [p.place d.home] d')
        (hnode : d'.node? (p.place d.home) = some (.file id)) : d'.lookup? p = some (.file id) := by
      refine hchanges.sound.lookup_eq_file_iff.mpr ?_
      rw [hchanges.home]
      exact ⟨place?_mono hchanges.home hchanges.directory hplace, hnode⟩
    cases hnode : d.node? (p.place d.home) with
    | none =>
      rw [hnode] at h
      cases h
      rw [hloc] at hnode hfound ⊢
      have hchanges : d.ChangesOnly [dir.inside name]
          { d.add (dir.inside name) (.file d.contents.length) with
            contents := d.contents ++ [[]] } :=
        hd.add hdir hnode fun id hid => ⟨(Node.file.inj hid).symm, by simp⟩
      refine ⟨hchanges, hfound hchanges ?_, ?_⟩
      · exact (d.node?_add dir name _ _).trans (if_pos rfl)
      · show (d.contents ++ [[]]).getD d.contents.length [] = []
        simp [List.getD]
    | some node =>
      rw [hnode] at h
      cases node with
      | directory => cases h
      | file id =>
        cases h
        have hchanges := hd.set_content hnode []
        exact ⟨hchanges, hfound hchanges hnode, hd.content_set hnode []⟩

/-- Renaming a file changes nothing but its two places: it then stands at the second, with its
content, and nothing at the first. -/
theorem Sound.rename {source target : Path} (hd : d.Sound)
    (hsource : d.lookup? source = some (.file id)) (htarget : d.place? target = some loc)
    (hfree : d.node? loc = none) :
    ∃ d', d.rename? source target = some d' ∧
      d.ChangesOnly [source.place d.home, target.place d.home] d' ∧
      d'.lookup? target = some (.file id) ∧ d'.content id = d.content id ∧
      d'.node? (source.place d.home) = none := by
  obtain ⟨hplace, hnode⟩ := hd.lookup_eq_file_iff.mp hsource
  obtain ⟨-, -, dir, name, hold, -⟩ := hd.place hplace
  obtain ⟨rfl, -, dir', name', hnew, hdir'⟩ := hd.place htarget
  refine ⟨(d.erase (source.place d.home)).put (target.place d.home) (.file id), ?_, ?_⟩
  · rw [rename?, hplace, htarget]
    simp only [hnode, hfree]
  rw [hold] at hnode ⊢
  rw [hnew] at hfree ⊢
  obtain ⟨hchanges, hthere, hgone⟩ := hd.move hnode hdir' hfree
  refine ⟨hchanges, hchanges.sound.lookup_eq_file_iff.mpr ?_, rfl, hgone⟩
  rw [hchanges.home, hnew]
  exact ⟨place?_mono hchanges.home hchanges.directory (hnew ▸ htarget), hthere⟩

/-! ## Disks to begin with -/

/-- An empty disk is a tree. -/
theorem sound_empty : ({} : Disk).Sound := by
  have hnode {loc : Location} {node : Node} (h : ({} : Disk).node? loc = some node) :
      node = .directory := by
    unfold node? at h
    split at h
    · exact (Option.some.inj h).symm
    · cases h
  refine ⟨rfl, fun loc node h => ?_, fun loc id h => ?_, fun loc loc' id h _ => ?_⟩
  · unfold node? at h
    split at h
    · next hroot =>
      subst hroot
      rfl
    · cases h
  · cases hnode h
  · cases hnode h

/-- A tree stays one when it gets a home. -/
theorem Sound.withHome (hd : d.Sound) (names : List Bytes) : (d.withHome names).Sound := by
  obtain ⟨hchanges, hreached⟩ := hd.createAlong d.node?_root names
  unfold Disk.withHome
  generalize d.createAlong .root names = made at hchanges hreached ⊢
  obtain ⟨made, home⟩ := made
  cases home with
  | none => exact hchanges.sound
  | some home =>
    obtain ⟨-, hparent, hfile, hunique⟩ := hchanges.sound
    exact ⟨hreached home rfl, hparent, hfile, hunique⟩

/-- A tree stays one when a file is stored. -/
theorem Sound.store (hd : d.Sound) (p : Path) (data : Bytes) : (d.store p data).Sound := by
  have hparents := (hd.createParents p none).sound
  unfold Disk.store
  cases hmade : (d.createParents p).1.create? p with
  | none =>
    simp only [hmade]
    exact hparents
  | some made =>
    obtain ⟨id, made⟩ := made
    simp only [hmade]
    obtain ⟨hchanges, hfile, -⟩ := hparents.create hmade
    obtain ⟨-, hnode⟩ := hchanges.sound.lookup_eq_file_iff.mp hfile
    exact (hchanges.sound.set_content hnode _).sound

end Disk

end CameraRecorder
